/-! # Notices

  What the author of a document is told while work on it goes on: things that are ignored, and
  things that are wrong. -/

namespace ClientGen

/-- A notice to the author of a document. -/
inductive Notice where
  | otherVersion (version : String)
  | noVersion
  | undocumented (id method path : String)
  | definitionCollision (existing new : String)
  /-- An operation declares a payload after its first one. -/
  | extraPayload (id extra first : String)
  /-- An operation declares a path parameter again. -/
  | repeatedPathParameter (id name : String)
  deriving DecidableEq, Repr

inductive Severity where
  /-- Something is ignored. -/
  | warning
  /-- Something is wrong, and more of the same kind is looked for before the work fails. -/
  | error
  deriving DecidableEq, Repr

namespace Notice

def severity : Notice → Severity
  | .definitionCollision _ _ => .error
  | _ => .warning

def message : Notice → String
  | .otherVersion version => "Document declares swagger version " ++ version ++ ", expected 2.0"
  | .noVersion => "Document has no 'swagger' version field"
  | .undocumented id method path =>
    "Operation " ++ id ++ " (" ++ method ++ " " ++ path
      ++ ") has neither a summary nor a description"
  | .definitionCollision existing new =>
    "Definition '" ++ new ++ "' collides with '" ++ existing
      ++ "' on case-insensitive file systems"
  | .extraPayload id extra first =>
    "Operation " ++ id ++ " declares more than one body/formData parameter; '" ++ extra
      ++ "' is ignored in favour of '" ++ first ++ "'"
  | .repeatedPathParameter id name =>
    "Operation " ++ id ++ " declares path parameter '" ++ name
      ++ "' more than once; only the first is used"

end Notice

end ClientGen
