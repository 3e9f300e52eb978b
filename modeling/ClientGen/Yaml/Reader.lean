import ClientGen.Yaml.Grammar
import ClientGen.Yaml.Scalar
import ClientGen.Yaml.Scan

/-! # Reading YAML

  A YAML text is cut into tokens, the tokens are read as a node, and the node becomes a value. In
  the last step references are followed, so one node may be visited many times; reading fails when
  lists and maps are nested too deeply or references are followed too often. -/

namespace ClientGen.Yaml

/-- The nodes in slots. -/
abbrev Slots := List (Nat × Node)

/-- What is computed while references are counted: a state with the number of references that may
    still be followed. -/
abbrev Counted (α : Type) := StateT Nat Option α

/-- The greatest number of lists and maps that may be open at once. -/
def depthLimit : Nat := 128

def slotNode? (slots : Slots) (slot : Nat) : Option Node :=
  (slots.reverse.find? fun entry => entry.1 = slot).map Prod.snd

/-- Follows a reference to its node; any other node stands for itself. -/
def follow (slots : Slots) (n : Node) : Counted Node :=
  match n with
  | .reference slot => fun left =>
    match left with
    | 0 => none
    | left + 1 => (slotNode? slots slot).map fun target => (target, left)
  | n => pure n

/-- The text of a node as a key: a scalar in any style, whatever its tag. -/
def keyText (slots : Slots) (n : Node) : Counted String := do
  match ← follow slots n with
  | .scalar _ text _ => pure (String.ofList text)
  | _ => failure

/-- Whether a list or map has a tag that only the program that wrote it knows. -/
def hasLocalTag (p : Properties) : Bool := p.tag.any Scalar.isLocalTag

/-- The value of a node in which lists and maps may be nested to the given depth. -/
def nodeValue (slots : Slots) (depth : Nat) (n : Node) : Counted Json := do
  match ← follow slots n with
  | .scalar p text style =>
    match Scalar.value? p.tag text style with
    | some v => pure v
    | none => failure
  | .reference _ => failure
  | .list p items =>
    if hasLocalTag p then failure
    else
      match depth with
      | 0 => failure
      | depth + 1 => do
        let values ← items.mapM (nodeValue slots depth)
        return .array values
  | .map p entries =>
    if hasLocalTag p then failure
    else
      match depth with
      | 0 => failure
      | depth + 1 => do
        let members ← entries.mapM fun entry => do
          let key ← keyText slots entry.1
          let v ← nodeValue slots depth entry.2
          return (key, v)
        return .object (OrderedMap.ofEntries members)

/-- The value of a tree. A hundred references may be followed for each of its marks. -/
def treeValue? (n : Node) : Option Json :=
  ((nodeValue n.slots depthLimit n).run (100 * n.marks)).map Prod.fst

/-- The value of a YAML text; none if the text is not YAML, or is more than one document. -/
def read? (text : String) : Option Json := do
  let cs := text.toList
  if cs.all isAllowed then
    let tokens ← scan? cs
    let n ← Grammar.parse? tokens
    treeValue? n
  else none

end ClientGen.Yaml
