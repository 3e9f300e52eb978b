import ClientGen.Document

/-! # Writing the parts of a document

  Each structure is written as an object with its members in a fixed order. Members that say nothing
  are left out where a reader supplies the same by default. -/

namespace ClientGen

namespace Encode

/-- The member of a text that may be absent. -/
def textMember (name : String) : Option String → List (String × Json)
  | none => []
  | some s => [(name, .string s)]

/-- The member of a list of names, left out when it is empty. -/
def namesMember (name : String) (names : List String) : List (String × Json) :=
  if names.isEmpty then [] else [(name, .array (names.map .string))]

end Encode

open Encode

namespace Schema

mutual

def encode : Schema → Json
  | ⟨reference, kind, properties, required, items⟩ =>
    .object (textMember "$ref" reference ++ textMember "type" kind ++ encodeProperties properties
      ++ namesMember "required" required ++ encodeItems items)

def encodeProperties : Option (List (String × Schema)) → List (String × Json)
  | none => []
  | some properties => [("properties", .object (encodeEntries properties))]

def encodeEntries : List (String × Schema) → List (String × Json)
  | [] => []
  | (name, s) :: rest => (name, encode s) :: encodeEntries rest

def encodeItems : Option Schema → List (String × Json)
  | none => []
  | some items => [("items", encode items)]

end

def member (name : String) : Option Schema → List (String × Json)
  | none => []
  | some s => [(name, s.encode)]

end Schema

def Carrier.name : Carrier → String
  | .path => "path"
  | .query => "query"
  | .header => "header"
  | .formData => "formData"
  | .body => "body"
  | .other => "other"

def Parameter.encode (p : Parameter) : Json :=
  .object ([("name", .string p.name), ("in", .string p.carrier.name)]
    ++ textMember "$ref" p.reference ++ [("required", .bool p.required)]
    ++ textMember "type" p.kind ++ Schema.member "items" p.items
    ++ Schema.member "schema" p.schema)

def Response.encode (r : Response) : Json :=
  .object (textMember "description" r.description ++ Schema.member "schema" r.schema)

/-- An operation as a value, without its method and its path. -/
def Operation.encode (op : Operation) : Json :=
  .object ([("operationId", .string op.id),
      ("parameters", .array (op.parameters.map Parameter.encode)),
      ("responses", .object (op.responses.map fun (status, r) => (status, r.encode)))]
    ++ textMember "summary" op.summary ++ textMember "description" op.description)

def Document.encode (d : Document) : Json :=
  .object [("basePath", .string d.basePath),
    ("paths", .object (d.paths.map fun (template, item) => (template, .object item))),
    ("definitions", .object (d.definitions.map fun (name, s) => (name, s.encode)))]

end ClientGen
