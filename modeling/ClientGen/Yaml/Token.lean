import ClientGen.Yaml.Text

/-! # YAML tokens

  The marks and texts that a YAML text is cut into. Blocks, which the text shows by indentation
  alone, are bracketed by tokens of their own. -/

namespace ClientGen.Yaml

inductive ScalarStyle where
  | plain
  /-- Between quotes, or as a block. -/
  | marked
  deriving DecidableEq, Repr

/-- A tag as written: a handle, which stands for a beginning, and the rest. -/
structure TagText where
  /-- The handle; it is empty when the rest is the whole tag. -/
  handle : List Char
  rest : List Char
  deriving DecidableEq, Repr

inductive Token where
  | version (major minor : Nat)
  | tagHandle (handle start : List Char)
  | documentStart
  | documentEnd
  /-- The start of a list of indented entries. -/
  | blockListStart
  | blockMapStart
  | blockEnd
  | flowListStart
  | flowListEnd
  | flowMapStart
  | flowMapEnd
  | blockEntry
  | flowEntry
  /-- The start of a key, whether it is written or not. -/
  | key
  /-- The colon in front of a value. -/
  | value
  /-- A reference to an anchor. -/
  | reference (name : List Char)
  | anchor (name : List Char)
  | tag (t : TagText)
  | scalar (text : List Char) (style : ScalarStyle)
  deriving DecidableEq, Repr

end ClientGen.Yaml
