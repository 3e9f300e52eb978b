import ClientGen.Json.Value
import ClientGen.Text.Bracketed

/-! # Writing JSON

  Two forms of one value: compact, without any blank, and laid out, one member a line. In both a
  text is quoted by the same rule: quotes, backslashes and control characters are escaped,
  everything else stands for itself. -/

namespace ClientGen.Json

/-! ## Texts -/

def escapeChar (c : Char) : List Char :=
  if c = '\x22' then ['\\', '\x22']
  else if c = '\\' then ['\\', '\\']
  else if c = '\x08' then ['\\', 'b']
  else if c = '\t' then ['\\', 't']
  else if c = '\n' then ['\\', 'n']
  else if c = '\x0c' then ['\\', 'f']
  else if c = '\r' then ['\\', 'r']
  else if c.toNat < 0x20 then
    ['\\', 'u', '0', '0', Nat.digitChar (c.toNat / 16), Nat.digitChar (c.toNat % 16)]
  else [c]

def quote (s : String) : String :=
  String.ofList (['\x22'] ++ s.toList.flatMap escapeChar ++ ['\x22'])

/-! ## The compact form -/

mutual

/-- The compact text of a value. -/
def compact : Json → String
  | .null => "null"
  | .bool true => "true"
  | .bool false => "false"
  | .number n => n.write
  | .string s => quote s
  | .array items => "[" ++ ",".intercalate (compactItems items) ++ "]"
  | .object members => "\x7b" ++ ",".intercalate (compactMembers members) ++ "\x7d"

def compactItems : List Json → List String
  | [] => []
  | v :: rest => compact v :: compactItems rest

def compactMembers : List (String × Json) → List String
  | [] => []
  | (key, v) :: rest => (quote key ++ ":" ++ compact v) :: compactMembers rest

end

/-! ## The laid out form -/

mutual

/-- The laid out text of a value that begins at a given depth. -/
def pretty (depth : Nat) : Json → String
  | .array items => Text.bracketed "[" "]" depth (prettyItems (depth + 1) items)
  | .object members => Text.bracketed "\x7b" "\x7d" depth (prettyMembers (depth + 1) members)
  | .null => "null"
  | .bool true => "true"
  | .bool false => "false"
  | .number n => n.write
  | .string s => quote s

def prettyItems (depth : Nat) : List Json → List String
  | [] => []
  | v :: rest => pretty depth v :: prettyItems depth rest

def prettyMembers (depth : Nat) : List (String × Json) → List String
  | [] => []
  | (key, v) :: rest => (quote key ++ ": " ++ pretty depth v) :: prettyMembers depth rest

end

end ClientGen.Json
