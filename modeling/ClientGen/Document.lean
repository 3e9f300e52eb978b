import ClientGen.Json.Value
import ClientGen.Schema

/-! # Documents

  The parts of an API description that client code is made from: the paths with their operations,
  the parameters and responses of an operation, and the named definitions. Path items stay raw
  values until they are flattened into operations, because they hold other members besides. -/

namespace ClientGen

/-- The request methods that an operation may have. -/
inductive HttpMethod where
  | get
  | put
  | post
  | delete
  | options
  | head
  | patch
  deriving DecidableEq, Repr

/-- The method that a key of a path item names, in any mixture of ASCII case. -/
def HttpMethod.ofKey? (key : String) : Option HttpMethod :=
  match String.ofList (key.toList.map Char.toLower) with
  | "get" => some .get
  | "put" => some .put
  | "post" => some .post
  | "delete" => some .delete
  | "options" => some .options
  | "head" => some .head
  | "patch" => some .patch
  | _ => none

def HttpMethod.name : HttpMethod → String
  | .get => "GET"
  | .put => "PUT"
  | .post => "POST"
  | .delete => "DELETE"
  | .options => "OPTIONS"
  | .head => "HEAD"
  | .patch => "PATCH"

/-- Where a request carries a parameter. -/
inductive Carrier where
  | path
  | query
  | header
  | formData
  | body
  /-- Anywhere else; such parameters are ignored. -/
  | other
  deriving DecidableEq, Repr

structure Parameter where
  name : String := ""
  carrier : Carrier := .other
  /-- The target of a reference to a shared parameter. -/
  reference : Option String := none
  required : Bool := false
  /-- The name of the kind of type, where the type is written beside the name. -/
  kind : Option String := none
  items : Option Schema := none
  /-- The type, where it is written as a schema. -/
  schema : Option Schema := none

namespace Parameter

/-- The declared type: the schema if there is one, else the kind. -/
def ownSchema? (p : Parameter) : Option Schema :=
  match p.schema with
  | some schema => some schema
  | none => p.kind.map fun kind => { kind := some kind, items := p.items }

/-- Whether the path of every request must be filled with the parameter. -/
def fillsPath (p : Parameter) : Bool := p.carrier = .path && p.required

/-- Whether the parameter is carried by the payload of a request. -/
def isInPayload (p : Parameter) : Bool := p.carrier = .formData || p.carrier = .body

end Parameter

structure Response where
  description : Option String := none
  schema : Option Schema := none

/-- An operation: what one method does on one path. -/
structure Operation where
  id : String
  method : HttpMethod := .get
  /-- The path template. -/
  path : String := ""
  parameters : List Parameter := []
  /-- The responses by status, in order. -/
  responses : List (String × Response) := []
  summary : Option String := none
  description : Option String := none

namespace Operation

/-- The type of the answer to a successful request. -/
def answerSchema? (op : Operation) : Option Schema :=
  (OrderedMap.find? "200" op.responses).bind Response.schema

/-- Whether an optional text is missing or empty. -/
def isSilent (text : Option String) : Bool := text = none || text = some ""

/-- Whether the operation says nothing to readers. -/
def saysNothing (op : Operation) : Bool := isSilent op.summary && isSilent op.description

/-- The parameters that fill the path, in order, repetitions included. -/
def pathParameters (op : Operation) : List Parameter :=
  op.parameters.filter Parameter.fillsPath

def payloadParameters (op : Operation) : List Parameter :=
  op.parameters.filter Parameter.isInPayload

def hasQuery (op : Operation) : Bool := op.parameters.any fun p => p.carrier = .query

end Operation

structure Document where
  /-- What every path begins with. -/
  basePath : String := ""
  /-- The path items by path template, as raw values. -/
  paths : List (String × List (String × Json)) := []
  definitions : List (String × Schema) := []

namespace Document

/-- The characters of a base path without one slash at the end. -/
def dropLastSlash (cs : List Char) : List Char :=
  if cs.getLast? = some '/' then cs.dropLast else cs

/-- What every path begins with, without one slash at the end. -/
def pathRoot (d : Document) : String := String.ofList (dropLastSlash d.basePath.toList)

end Document

end ClientGen
