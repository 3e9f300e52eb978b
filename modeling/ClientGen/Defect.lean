/-! # Defects of a document

  What makes it impossible to generate a client although every part of the document can be read. One
  such defect stops the work before anything is written. -/

namespace ClientGen

inductive Defect where
  /-- The placeholders of a path are not its required parameters. -/
  | pathMismatch (id path : String) (placeholders parameters : List String)
  | repeatedIds (ids : List String)
  /-- Definitions differ by case only; each pair begins with the earlier name. -/
  | collidingDefinitions (collisions : List (String × String))
  | reservedArgument (id name : String)
  /-- A path parameter cannot name an argument. -/
  | unfitArgument (id name : String)
  deriving DecidableEq, Repr

namespace Defect

def braced (names : List String) : String :=
  if names.isEmpty then "\x7b\x7d"
  else ", ".intercalate (names.map fun name => "\x7b" ++ name ++ "\x7d")

/-- A pair of names in quotes. -/
def pairText (pair : String × String) : String := "'" ++ pair.1 ++ "' and '" ++ pair.2 ++ "'"

def message : Defect → String
  | .pathMismatch id path placeholders parameters =>
    "Path parameter mismatch in operation '" ++ id ++ "' (" ++ path ++ "): placeholders "
      ++ braced placeholders ++ " vs parameters " ++ braced parameters
  | .repeatedIds ids => "Duplicate operationId: " ++ ", ".intercalate ids
  | .collidingDefinitions collisions =>
    "Definition names collide case-insensitively: " ++ ", ".intercalate (collisions.map pairText)
  | .reservedArgument id name =>
    "Path parameter '" ++ name ++ "' of operation '" ++ id
      ++ "' clashes with a generated argument name"
  | .unfitArgument id name =>
    "Path parameter '" ++ name ++ "' of operation '" ++ id ++ "' is not a valid identifier"

end Defect

end ClientGen
