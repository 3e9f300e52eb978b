import ClientGen.Yaml.Plain
import ClientGen.Yaml.Property
import ClientGen.Yaml.Quoted

/-! # From text to tokens

  The scanner cuts a text into tokens and brackets its blocks. Two things make it look back:

  * **Indentation** opens and closes blocks. The columns of the open blocks are kept; a line that
    begins further left closes those that are deeper.
  * **Keys** are not marked in front. Wherever a key may begin, its place is kept; when the colon
    comes, on the same line and not too far away, the token of the key is put in at that place, and
    with it the start of a map if none is open at that column. Inside brackets each level keeps a
    place of its own. -/

namespace ClientGen.Yaml

/-- A place where a key may have begun. -/
structure KeyStart where
  place : Place
  /-- The number of tokens before it. -/
  position : Nat
  /-- Whether it must be a key, because it begins a line of an open map. -/
  required : Bool

/-- The state of the scanner. -/
structure Scanner where
  rest : List Char
  place : Place
  tokens : Array Token := #[]
  /-- The key that may have begun on each level of brackets, innermost first. The last one stands
      outside of all brackets. -/
  keys : List (Option KeyStart) := [none]
  keyAllowed : Bool := true
  /-- The column of the innermost block; -1 outside of all blocks. -/
  indent : Int := -1
  /-- The columns of the blocks around it, innermost first. -/
  outer : List Int := []

namespace Scanner

/-! ## Small steps -/

def inFlow (s : Scanner) : Bool := 1 < s.keys.length

def emit (s : Scanner) (t : Token) : Scanner := { s with tokens := s.tokens.push t }

/-- Adds a token in front of those that came after the first `position`. -/
def emitAt (s : Scanner) (position : Nat) (t : Token) : Scanner :=
  { s with tokens := s.tokens.insertIdxIfInBounds position t }

def skip (s : Scanner) (count : Nat) : Scanner :=
  { s with rest := s.rest.drop count, place := s.place.behindAll (s.rest.take count) }

/-- Goes on behind what was read, with the given rest of the text. -/
def goOn (s : Scanner) (rest : List Char) : Scanner :=
  s.skip (s.rest.length - rest.length)

/-- Goes on behind a scalar. -/
def takeScalar (s : Scanner) (style : ScalarStyle) (e : ScalarEnd) : Scanner :=
  { s with rest := e.rest, place := e.place, tokens := s.tokens.push (.scalar e.text style) }

/-- Says whether a key may begin here. -/
def allowKey (s : Scanner) (allowed : Bool) : Scanner := { s with keyAllowed := allowed }

/-! ## Keys -/

/-- Whether a key that began at a place can no longer end here: its line has ended, or it is longer
    than 1024 octets. -/
def isStale (here : Place) (k : KeyStart) : Bool :=
  k.place.line < here.line || k.place.octet + 1024 < here.octet

/-- A key start that is given up; none if it had to be a key. -/
def giveUp (k : KeyStart) : Option (Option KeyStart) := if k.required then none else some none

/-- Gives up the key starts that can no longer end. -/
def dropStaleKeys (s : Scanner) : Option Scanner := do
  let keys ← s.keys.mapM fun
    | some k => if isStale s.place k then giveUp k else some (some k)
    | none => some none
  return { s with keys := keys }

/-- Replaces the key start of the innermost level, giving up the one that was there. -/
def replaceKey (s : Scanner) (new : Option KeyStart) : Option Scanner :=
  match s.keys with
  | [] => none
  | none :: rest => some { s with keys := new :: rest }
  | some k :: rest => (giveUp k).map fun _ => { s with keys := new :: rest }

def dropKey (s : Scanner) : Option Scanner := s.replaceKey none

/-- Keeps this place as a key start, if a key may begin here. -/
def keepKey (s : Scanner) : Option Scanner :=
  -- Outside of brackets, what begins a line of an open map cannot be anything but a key.
  if s.keyAllowed then
    s.replaceKey (some { place := s.place, position := s.tokens.size,
                         required := !s.inFlow && s.indent = s.place.column })
  else some s

/-! ## Blocks -/

/-- Opens a block at a column, unless one is open there. -/
def openBlock (s : Scanner) (column position : Nat) (t : Token) : Scanner :=
  if !s.inFlow && s.indent < column then
    { s with indent := column, outer := s.indent :: s.outer }.emitAt position t
  else s

/-- Closes the blocks that are deeper than a column, innermost first. -/
def closeFrom (column : Int) (tokens : Array Token) (indent : Int) :
    List Int → Array Token × Int × List Int
  | [] => (tokens, indent, [])
  | next :: outer =>
    if column < indent then closeFrom column (tokens.push .blockEnd) next outer
    else (tokens, indent, next :: outer)

/-- Closes the blocks that are deeper than a column. -/
def closeBlocks (s : Scanner) (column : Int) : Scanner :=
  if s.inFlow then s
  else
    let (tokens, indent, outer) := closeFrom column s.tokens s.indent s.outer
    { s with tokens := tokens, indent := indent, outer := outer }

/-! ## Between tokens -/

/-- Passes over blanks, comments and line breaks. Outside of brackets a line break allows a key, and
    tabs are not passed over where a key may begin. A mark of byte order at the beginning of a line
    is passed over too, but takes a column. -/
def gapFrom (inFlow allowed inComment : Bool) (p : Place) : List Char → Bool × Place × List Char
  | [] => (allowed, p, [])
  | c :: rest =>
    if p.column = 0 && c = byteOrderMark then gapFrom inFlow allowed inComment (p.behind c) rest
    else if isBreak c then gapFrom inFlow (allowed || !inFlow) false (p.behind c) rest
    -- A comment goes on to the end of its line.
    else if inComment then gapFrom inFlow allowed true (p.behind c) rest
    else if c = ' ' || (c = '\t' && (inFlow || !allowed)) then
      gapFrom inFlow allowed false (p.behind c) rest
    else if c = '#' then gapFrom inFlow allowed true (p.behind c) rest
    else (allowed, p, c :: rest)

/-- Passes over everything in front of the next token. -/
def skipGap (s : Scanner) : Scanner :=
  let (allowed, place, rest) := gapFrom s.inFlow s.keyAllowed false s.place s.rest
  { s with keyAllowed := allowed, place := place, rest := rest }

/-! ## Tokens -/

/-- Ends the text: closes all blocks. -/
def finish (s : Scanner) : Option Scanner := (s.closeBlocks (-1)).dropKey

def documentMark (s : Scanner) (t : Token) : Option Scanner := do
  let s ← (s.closeBlocks (-1)).dropKey
  return ((s.allowKey false).skip 3).emit t

/-- Passes over a line break, if there is one here, without allowing a key. -/
def passBreak (s : Scanner) : Scanner :=
  match s.rest with
  | [] => s
  | c :: _ => if isBreak c then s.skip 1 else s

/-- Reads a directive with the line break behind it. -/
def directive (s : Scanner) : Option Scanner := do
  let s ← (s.closeBlocks (-1)).dropKey
  let (token, rest) ← directive? (s.rest.drop 1)
  return (((s.allowKey false).goOn rest).emit token).passBreak

def openFlow (s : Scanner) (t : Token) : Option Scanner := do
  let s ← s.keepKey
  return (({ s with keys := none :: s.keys }.allowKey true).skip 1).emit t

def closeFlow (s : Scanner) (t : Token) : Option Scanner := do
  let s ← s.dropKey
  -- A bracket that was never opened is left to the grammar.
  let keys := if s.inFlow then s.keys.drop 1 else s.keys
  return (({ s with keys := keys }.allowKey false).skip 1).emit t

def flowEntry (s : Scanner) : Option Scanner := do
  let s ← s.dropKey
  return ((s.allowKey true).skip 1).emit .flowEntry

/-- Opens a block here if the place allows the mark of an entry or a key. Inside brackets the mark
    is left to the grammar. -/
def openHere (s : Scanner) (t : Token) : Option Scanner :=
  if s.inFlow then some s
  else if s.keyAllowed then some (s.openBlock s.place.column s.tokens.size t)
  else none

/-- Reads the dash of an entry. -/
def blockEntry (s : Scanner) : Option Scanner := do
  let s ← s.openHere .blockListStart
  let s ← s.dropKey
  return ((s.allowKey true).skip 1).emit .blockEntry

/-- Reads the question mark of a key. -/
def explicitKey (s : Scanner) : Option Scanner := do
  let s ← s.openHere .blockMapStart
  let s ← s.dropKey
  return ((s.allowKey !s.inFlow).skip 1).emit .key

/-- Reads the colon of a value. If a key began before, its tokens are put in where it began. -/
def value (s : Scanner) : Option Scanner :=
  match s.keys with
  | some k :: rest =>
    let s := { s with keys := none :: rest }.emitAt k.position .key
    -- The key may be the first of its map.
    let s := s.openBlock k.place.column k.position .blockMapStart
    some (((s.allowKey false).skip 1).emit .value)
  | _ => do
    let s ← s.openHere .blockMapStart
    return ((s.allowKey !s.inFlow).skip 1).emit .value

def anchor (s : Scanner) (token : List Char → Token) : Option Scanner := do
  let s ← s.keepKey
  let (name, rest) ← anchorName? (s.rest.drop 1)
  return ((s.allowKey false).goOn rest).emit (token name)

def tag (s : Scanner) : Option Scanner := do
  let s ← s.keepKey
  let (t, rest) ← tagText? s.inFlow (s.rest.drop 1)
  return ((s.allowKey false).goOn rest).emit (.tag t)

def blockScalar (s : Scanner) (literal : Bool) : Option Scanner := do
  let s ← s.dropKey
  let s := s.skip 1
  let e ← block? literal s.indent s.place s.rest
  return (s.allowKey true).takeScalar .marked e

def quotedScalar (s : Scanner) (quotes : Quotes) : Option Scanner := do
  let s ← s.keepKey
  let s := s.skip 1
  let e ← quoted? quotes s.place s.rest
  return (s.allowKey false).takeScalar .marked e

/-- Reads a plain scalar. A key may begin behind it if it ends with a line break. -/
def plainScalar (s : Scanner) : Option Scanner := do
  let s ← s.keepKey
  -- Further lines are indented deeper than the block around them.
  let e ← plain? s.inFlow (s.indent + 1).toNat s.place s.rest
  return (s.allowKey e.broken).takeScalar .plain e

/-- The marks that no plain scalar begins with. -/
def plainRefuses : List Char :=
  ['-', '?', ':', ',', '[', ']', '\x7b', '\x7d', '#', '&', '*', '!', '|', '>', '\x27', '\x22', '%',
    '@', '\x60']

/-- Whether a plain scalar begins here. Some of the marks may begin one when they do not stand
    alone. -/
def beginsPlain (inFlow : Bool) : List Char → Bool
  | [] => false
  | c :: rest =>
    (!isGap c && !plainRefuses.contains c)
      || (c = '-' && !(rest.head?.map isBlank).getD false)
      || (!inFlow && (c = '?' || c = ':') && !atWordEnd rest)

/-- Reads the token that begins with the character `c`. -/
def tokenAt (s : Scanner) (c : Char) (rest : List Char) : Option Scanner :=
  -- Directives and the marks of a document stand at the beginning of a line.
  let first := s.place.column = 0
  if first && c = '%' then s.directive
  else if first && atStartMark s.rest then s.documentMark .documentStart
  else if first && atEndMark s.rest then s.documentMark .documentEnd
  else if c = '[' then s.openFlow .flowListStart
  else if c = '\x7b' then s.openFlow .flowMapStart
  else if c = ']' then s.closeFlow .flowListEnd
  else if c = '\x7d' then s.closeFlow .flowMapEnd
  else if c = ',' then s.flowEntry
  else if c = '-' && atWordEnd rest then s.blockEntry
  else if c = '?' && (s.inFlow || atWordEnd rest) then s.explicitKey
  else if c = ':' && (s.inFlow || atWordEnd rest) then s.value
  else if c = '*' then s.anchor .reference
  else if c = '&' then s.anchor .anchor
  else if c = '!' then s.tag
  -- Inside brackets there are no block scalars.
  else if c = '|' && !s.inFlow then s.blockScalar true
  else if c = '>' && !s.inFlow then s.blockScalar false
  else if c = '\x27' then s.quotedScalar .single
  else if c = '\x22' then s.quotedScalar .double
  else if beginsPlain s.inFlow (c :: rest) then s.plainScalar
  else none

/-- Reads tokens to the end of the text. Every round but the last passes over a character, so as
    many rounds as characters and one are enough. -/
def run : Nat → Scanner → Option (List Token)
  | 0, _ => none
  | rounds + 1, s => do
    let s ← s.skipGap.dropStaleKeys
    -- A token that stands further to the left ends the blocks that are deeper.
    let s := s.closeBlocks s.place.column
    match s.rest with
    | [] => (s.finish).map fun s => s.tokens.toList
    | c :: rest => do
      let s ← s.tokenAt c rest
      run rounds s

end Scanner

/-- The tokens of a text; none if it cannot be cut into tokens. -/
def scan? (text : List Char) : Option (List Token) :=
  let rest := uniformBreaks text
  Scanner.run (rest.length + 1) { rest := rest, place := {} }

end ClientGen.Yaml
