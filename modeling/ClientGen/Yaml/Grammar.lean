import ClientGen.Yaml.Node
import ClientGen.OrderedMap

/-! # From tokens to nodes

  The grammar of YAML over tokens, by recursive descent. Wherever a node may be missing, the empty
  node stands for it. Each production returns what follows it, together with the anchors known so
  far. The recursion is bounded by a number of steps; `parse?` allows more than the tokens can
  use. -/

namespace ClientGen.Yaml

/-- The anchors known so far, with their slots. -/
abbrev Anchors := List (List Char × Nat)

/-- The declared tag handles, with the beginnings they stand for. -/
abbrev TagHandles := List (List Char × List Char)

/-- The result of a production: what it stands for, the anchors known behind it, and what
    follows. -/
abbrev Parsed (α : Type) := α × Anchors × List Token

namespace Grammar

/-! ## Properties of nodes -/

/-- Gives an anchor the next slot, which is the number of names known so far. -/
def declareAnchor (name : List Char) (anchors : Anchors) : Nat × Anchors :=
  (anchors.length, OrderedMap.put name anchors.length anchors)

/-- The tag that a written tag stands for; none if its handle is not declared. -/
def resolveTag? (handles : TagHandles) (t : TagText) : Option (List Char) :=
  if t.handle.isEmpty then some t.rest
  else (OrderedMap.find? t.handle handles).map (· ++ t.rest)

/-- The anchor and the tag in front of a node, in either order, each at most once. -/
def properties : List Token → Option (List Char) × Option TagText × List Token
  | .anchor name :: .tag t :: rest => (some name, some t, rest)
  | .tag t :: .anchor name :: rest => (some name, some t, rest)
  | .anchor name :: rest => (some name, none, rest)
  | .tag t :: rest => (none, some t, rest)
  | rest => (none, none, rest)

/-- The properties of a node and the anchors known behind them. -/
def declare (handles : TagHandles) (name : Option (List Char)) (tag : Option TagText)
    (anchors : Anchors) : Option (Properties × Anchors) := do
  let tag ← match tag with
    | some t => (resolveTag? handles t).map some
    | none => some none
  match name with
  | some name =>
    let (slot, anchors) := declareAnchor name anchors
    return (⟨some slot, tag⟩, anchors)
  | none => return (⟨none, tag⟩, anchors)

/-- Where a node stands, which decides what it may be. -/
inductive Context where
  | flow
  | block
  /-- Behind the mark of a key or value of a block, where a list needs no indentation. -/
  | entry
  deriving DecidableEq, Repr

/-- Whether a key or value of a block is missing in front of a token. -/
def missesEntry : List Token → Bool
  | .key :: _ => true
  | .value :: _ => true
  | .blockEnd :: _ => true
  | _ => false

/-- Whether an item of an indented list is missing in front of a token. -/
def missesItem : List Token → Bool
  | .blockEntry :: _ => true
  | .blockEnd :: _ => true
  | _ => false

/-- Whether an item of a list without indentation is missing in front of a token. -/
def missesLooseItem (ts : List Token) : Bool := missesItem ts || missesEntry ts

/-- Whether a value in brackets of the given end is missing in front of a token. -/
def missesFlowValue (close : Token) : List Token → Bool
  | t :: _ => t = .flowEntry || t = close
  | [] => false

/-- Whether a key in brackets of the given end is missing in front of a token. -/
def missesFlowKey (close : Token) (ts : List Token) : Bool :=
  missesFlowValue close ts || ts.head? = some .value

/-! ## Productions -/

mutual

/-- A node with its properties. -/
def node (handles : TagHandles) (context : Context) (anchors : Anchors) :
    Nat → List Token → Option (Parsed Node)
  | 0, _ => none
  | fuel + 1, ts =>
    match ts with
    | .reference name :: rest =>
      (OrderedMap.find? name anchors).map fun slot => (.reference slot, anchors, rest)
    | ts => do
      let (name, tag, rest) := properties ts
      let (p, anchors) ← declare handles name tag anchors
      match rest, context with
      | .scalar text style :: rest, _ => some (.scalar p text style, anchors, rest)
      | .flowListStart :: rest, _ => flowItems handles p [] anchors fuel rest
      | .flowMapStart :: rest, _ => flowEntries handles p [] anchors fuel rest
      | .blockListStart :: rest, .block => blockItems handles p [] anchors fuel rest
      | .blockListStart :: rest, .entry => blockItems handles p [] anchors fuel rest
      | .blockMapStart :: rest, .block => blockEntries handles p [] anchors fuel rest
      | .blockMapStart :: rest, .entry => blockEntries handles p [] anchors fuel rest
      | .blockEntry :: rest, .entry => looseItems handles p [] anchors fuel (.blockEntry :: rest)
      | rest, _ =>
        -- Properties stand for an empty scalar if nothing follows that could have them.
        if name.isSome || tag.isSome then some (.scalar p [] .plain, anchors, rest) else none

/-- A node that may be missing. -/
def optionalNode (handles : TagHandles) (context : Context) (missing : Bool) (anchors : Anchors) :
    Nat → List Token → Option (Parsed Node)
  | 0, _ => none
  | fuel + 1, ts =>
    if missing then some (.nothing, anchors, ts) else node handles context anchors fuel ts

/-- The items of an indented list, of which `items` were read, last one first. -/
def blockItems (handles : TagHandles) (p : Properties) (items : List Node) (anchors : Anchors) :
    Nat → List Token → Option (Parsed Node)
  | 0, _ => none
  | fuel + 1, ts =>
    match ts with
    | .blockEntry :: rest => do
      let (item, anchors, rest) ←
        optionalNode handles .block (missesItem rest) anchors fuel rest
      blockItems handles p (item :: items) anchors fuel rest
    | .blockEnd :: rest => some (.list p items.reverse, anchors, rest)
    | _ => none

/-- The items of a list without indentation, which ends where no item follows. -/
def looseItems (handles : TagHandles) (p : Properties) (items : List Node) (anchors : Anchors) :
    Nat → List Token → Option (Parsed Node)
  | 0, _ => none
  | fuel + 1, ts =>
    match ts with
    | .blockEntry :: rest => do
      let (item, anchors, rest) ←
        optionalNode handles .block (missesLooseItem rest) anchors fuel rest
      looseItems handles p (item :: items) anchors fuel rest
    | rest => some (.list p items.reverse, anchors, rest)

/-- The entries of an indented map. A value without a mark of its own is missing. -/
def blockEntries (handles : TagHandles) (p : Properties) (entries : List (Node × Node))
    (anchors : Anchors) : Nat → List Token → Option (Parsed Node)
  | 0, _ => none
  | fuel + 1, ts =>
    match ts with
    | .key :: rest => do
      let (k, anchors, rest) ← optionalNode handles .entry (missesEntry rest) anchors fuel rest
      match rest with
      | .value :: rest => do
        let (v, anchors, rest) ← optionalNode handles .entry (missesEntry rest) anchors fuel rest
        blockEntries handles p ((k, v) :: entries) anchors fuel rest
      | rest => blockEntries handles p ((k, .nothing) :: entries) anchors fuel rest
    | .blockEnd :: rest => some (.map p entries.reverse, anchors, rest)
    | _ => none

/-- The items of a list in brackets. -/
def flowItems (handles : TagHandles) (p : Properties) (items : List Node) (anchors : Anchors) :
    Nat → List Token → Option (Parsed Node)
  | 0, _ => none
  | fuel + 1, ts =>
    match ts, items with
    | .flowListEnd :: rest, items => some (.list p items.reverse, anchors, rest)
    -- In front of the first item no comma is due.
    | ts, [] => flowItem handles p [] anchors fuel ts
    | .flowEntry :: .flowListEnd :: rest, items => some (.list p items.reverse, anchors, rest)
    | .flowEntry :: rest, items => flowItem handles p items anchors fuel rest
    | _, _ => none

/-- One item of a list in brackets and what follows it. An item may be a map of one entry without
    braces. Behind the mark of its key a token is lost where the key is missing. -/
def flowItem (handles : TagHandles) (p : Properties) (items : List Node) (anchors : Anchors) :
    Nat → List Token → Option (Parsed Node)
  | 0, _ => none
  | fuel + 1, ts =>
    match ts with
    | .key :: rest => do
      let (k, anchors, rest) ←
        if missesFlowKey .flowListEnd rest then some (Node.nothing, anchors, rest.drop 1)
        else node handles .flow anchors fuel rest
      match rest with
      | .value :: rest => do
        let (v, anchors, rest) ←
          optionalNode handles .flow (missesFlowValue .flowListEnd rest) anchors fuel rest
        flowItems handles p (.map {} [(k, v)] :: items) anchors fuel rest
      | rest => flowItems handles p (.map {} [(k, .nothing)] :: items) anchors fuel rest
    | ts => do
      let (item, anchors, rest) ← node handles .flow anchors fuel ts
      flowItems handles p (item :: items) anchors fuel rest

def flowEntries (handles : TagHandles) (p : Properties) (entries : List (Node × Node))
    (anchors : Anchors) : Nat → List Token → Option (Parsed Node)
  | 0, _ => none
  | fuel + 1, ts =>
    match ts, entries with
    | .flowMapEnd :: rest, entries => some (.map p entries.reverse, anchors, rest)
    -- In front of the first entry no comma is due.
    | ts, [] => flowPair handles p [] anchors fuel ts
    | .flowEntry :: .flowMapEnd :: rest, entries => some (.map p entries.reverse, anchors, rest)
    | .flowEntry :: rest, entries => flowPair handles p entries anchors fuel rest
    | _, _ => none

/-- One entry of a map in braces and what follows it. A node that is not marked as a key has no
    value. -/
def flowPair (handles : TagHandles) (p : Properties) (entries : List (Node × Node))
    (anchors : Anchors) : Nat → List Token → Option (Parsed Node)
  | 0, _ => none
  | fuel + 1, ts =>
    match ts with
    | .key :: rest => do
      let (k, anchors, rest) ←
        optionalNode handles .flow (missesFlowKey .flowMapEnd rest) anchors fuel rest
      match rest with
      | .value :: rest => do
        let (v, anchors, rest) ←
          optionalNode handles .flow (missesFlowValue .flowMapEnd rest) anchors fuel rest
        flowEntries handles p ((k, v) :: entries) anchors fuel rest
      | rest => flowEntries handles p ((k, .nothing) :: entries) anchors fuel rest
    | ts => do
      let (k, anchors, rest) ← node handles .flow anchors fuel ts
      flowEntries handles p ((k, .nothing) :: entries) anchors fuel rest

end

/-! ## Documents -/

def standardHandles : TagHandles :=
  [(['!'], ['!']), (['!', '!'], "tag:yaml.org,2002:".toList)]

/-- Whether a version of the format can be read. -/
def isKnownVersion (major minor : Nat) : Bool := major = 1 && (minor = 1 || minor = 2)

/-- The declarations in front of a document: the tag handles, and what follows. The version and each
    handle may be declared once. -/
def declarations (versionSeen : Bool) (handles : TagHandles) :
    List Token → Option (TagHandles × List Token)
  | .version major minor :: rest =>
    if versionSeen || !isKnownVersion major minor then none
    else declarations true handles rest
  | .tagHandle handle start :: rest =>
    if (OrderedMap.find? handle handles).isSome then none
    else declarations versionSeen (handles ++ [(handle, start)]) rest
  | rest => some (handles, rest)

def missesContent : List Token → Bool
  | [] => true
  | .version _ _ :: _ => true
  | .tagHandle _ _ :: _ => true
  | .documentStart :: _ => true
  | .documentEnd :: _ => true
  | _ => false

/-- Whether a document begins with declarations or a start mark. -/
def isMarked : List Token → Bool
  | .version _ _ :: _ => true
  | .tagHandle _ _ :: _ => true
  | .documentStart :: _ => true
  | _ => false

/-- More steps than the grammar can use on a number of tokens. -/
def steps (count : Nat) : Nat := 4 * count + 4

/-- The node of one document and what follows it. -/
def document? (ts : List Token) : Option (Node × List Token) :=
  if isMarked ts then do
    let (handles, rest) ← declarations false [] ts
    match rest with
    | .documentStart :: rest => do
      let (n, _, rest) ← optionalNode (handles ++ standardHandles) .block (missesContent rest) []
        (steps rest.length) rest
      return (n, rest)
    | _ => none
  else do
    let (n, _, rest) ← node standardHandles .block [] (steps ts.length) ts
    return (n, rest)

/-- The node of a text with at most one document; a text without tokens holds the empty node. -/
def parse? (ts : List Token) : Option Node :=
  if ts.isEmpty then some .nothing
  else do
    let (n, rest) ← document? ts
    if rest.all (· = .documentEnd) then some n else none

end Grammar

end ClientGen.Yaml
