import ClientGen.OrderedMap

/-! # Schema nodes

  A schema describes a type in a document. A node keeps its members as they were written; `meaning`
  says which of them count. A reference to a local definition hides everything beside it, and the
  properties of an object count only under the kind `object`. -/

namespace ClientGen

structure Schema where
  reference : Option String := none
  kind : Option String := none
  /-- The properties of an object, in document order. -/
  properties : Option (List (String × Schema)) := none
  /-- The names of the properties that must be present. -/
  required : List String := []
  items : Option Schema := none

namespace Schema

/-- The beginning of every reference to a local definition. -/
def localStart : String := "#/definitions/"

/-- The text after a beginning; none if the text begins otherwise. -/
def textAfter? (start s : String) : Option String :=
  if start.toList.isPrefixOf s.toList then
    some (String.ofList (s.toList.drop start.toList.length))
  else none

/-- The node that refers to a local definition. -/
def linkTo (name : String) : Schema := { reference := some (localStart ++ name) }

/-- The node of a kind, with nothing beside it. -/
def ofKind (kind : String) : Schema := { kind := some kind }

/-- The name of the local definition that a reference leads to. References to other places are no
    links. -/
def linkOf? (reference : Option String) : Option String :=
  reference.bind (textAfter? localStart)

/-- The name of the local definition that a node refers to. -/
def link? (s : Schema) : Option String := linkOf? s.reference

/-- The kinds of types without parts. -/
inductive Atom where
  | string
  | number
  | boolean
  /-- Values of which nothing is known. -/
  | any
  deriving DecidableEq, Repr

/-- What a node means. -/
inductive Meaning where
  /-- A link to a local definition. -/
  | reference (name : String)
  /-- An object; without properties it is open. -/
  | object (properties : Option (List (String × Schema))) (required : List String)
  /-- A list; without an item type its items are of any type. -/
  | array (items : Option Schema)
  | atom (kind : Atom)

/-- The type without parts that a kind names; an unknown kind says nothing. -/
def atomOfKind (kind : Option String) : Atom :=
  match kind with
  | some "string" => .string
  | some "integer" => .number
  | some "float" => .number
  | some "int64" => .number
  | some "boolean" => .boolean
  | _ => .any

def meaning (s : Schema) : Meaning :=
  match s.link? with
  | some name => .reference name
  | none =>
    if s.kind = some "object" then .object s.properties s.required
    else if s.kind = some "array" then .array s.items
    else .atom (atomOfKind s.kind)

end Schema

end ClientGen
