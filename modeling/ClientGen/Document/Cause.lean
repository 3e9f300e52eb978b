import ClientGen.Json.Value
import ClientGen.Text.Quoted

/-! # Why a value is not a part of a document

  A value is refused for the first member that does not fit. The cause says what was found and what
  would have been right. -/

namespace ClientGen

/-- The structures of a document. -/
inductive RecordKind where
  | document
  | operation
  | parameter
  | response
  | schema
  deriving DecidableEq, Repr

namespace RecordKind

def name : RecordKind → String
  | .document => "struct SchemaDocument"
  | .operation => "struct OperationSpec"
  | .parameter => "struct ParameterSpec"
  | .response => "struct ResponseSpec"
  | .schema => "struct TypeSpec"

/-- The fields, in the order in which a row lists them. -/
def fields : RecordKind → List String
  | .document => ["basePath", "paths", "definitions"]
  | .operation => ["operationId", "parameters", "responses", "summary", "description"]
  | .parameter => ["name", "in", "$ref", "required", "type", "items", "schema"]
  | .response => ["description", "schema"]
  | .schema => ["$ref", "type", "properties", "required", "items"]

/-- The fields that may be missing at the end of a row. -/
def optionalInRow : RecordKind → List String
  | .document => ["basePath", "paths", "definitions"]
  | .operation => ["parameters", "responses"]
  | .parameter => ["name", "in", "required"]
  | .response => []
  | .schema => ["required"]

end RecordKind

/-- What a value is, in the words of a message. -/
inductive Found where
  | null
  | bool (value : Bool)
  | number (value : Number)
  | string (value : String)
  | array
  | object
  deriving DecidableEq, Repr

def Found.ofJson : Json → Found
  | .null => .null
  | .bool b => .bool b
  | .number n => .number n
  | .string s => .string s
  | .array _ => .array
  | .object _ => .object

/-- What a value is, in words. -/
def Found.words : Found → String
  | .null => "null"
  | .bool true => "boolean \x60true\x60"
  | .bool false => "boolean \x60false\x60"
  | .number (.integer n) => "integer \x60" ++ toString n ++ "\x60"
  | .number (.real x) => "floating point \x60" ++ (Number.real x).write ++ "\x60"
  | .string s => "string " ++ Text.display s
  | .array => "sequence"
  | .object => "map"

/-- What would have been right. -/
inductive Expected where
  | text
  | flag
  | object
  | list
  /-- A structure, as an object or as a row. -/
  | record (kind : RecordKind)
  /-- The name of a carrier, alone or as the one key of an object. -/
  | carrier
  | nothing
  deriving DecidableEq, Repr

def Expected.words : Expected → String
  | .text => "a string"
  | .flag => "a boolean"
  | .object => "a map"
  | .list => "a sequence"
  | .record kind => kind.name
  | .carrier => "string or map"
  | .nothing => "unit"

/-- Why a value is not a part of a document. -/
inductive Cause where
  | mismatch (found : Found) (expected : Expected)
  | missingField (name : String)
  /-- A carrier is written as an object that does not have one member. -/
  | notOneMember
  /-- The required names are neither a list of names nor a truth value. -/
  | notNames
  /-- A row ends before the field with this index. -/
  | rowTooShort (index : Nat) (kind : RecordKind)
  | rowTooLong (length : Nat)
  deriving DecidableEq, Repr

def Cause.message : Cause → String
  | .mismatch found expected => "invalid type: " ++ found.words ++ ", expected " ++ expected.words
  | .missingField name => "missing field \x60" ++ name ++ "\x60"
  | .notOneMember => "invalid value: map, expected map with a single key"
  | .notNames => "data did not match any variant of untagged enum Required"
  | .rowTooShort index kind =>
    "invalid length " ++ toString index ++ ", expected " ++ kind.name ++ " with "
      ++ toString kind.fields.length ++ " elements"
  | .rowTooLong length =>
    "invalid length " ++ toString length ++ ", expected fewer elements in array"

end ClientGen
