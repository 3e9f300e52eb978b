import ClientGen.Schema
import ClientGen.TypeTerm

/-! # Types of schemas

  The type that a schema node stands for, together with the definitions it links to. Links are
  collected in the order in which they are met, repetitions included, behind those that were
  collected before. -/

namespace ClientGen

/-- A type and the definitions it depends on. -/
structure Typing where
  type : TypeTerm
  /-- The names of the linked definitions, in the order met, repetitions included. -/
  dependencies : List String

namespace Schema

def Atom.toType : Atom → TypeTerm
  | .string => .string
  | .number => .number
  | .boolean => .boolean
  | .any => .any

mutual

/-- The type of a schema node, and the links met so far. -/
def typeInto (links : List String) : Schema → TypeTerm × List String
  | ⟨reference, kind, properties, required, items⟩ =>
    match linkOf? reference with
    | some name => (.named name, links ++ [name])
    | none =>
      if kind = some "object" then objectInto required links properties
      else if kind = some "array" then listInto links items
      else ((atomOfKind kind).toType, links)

/-- The type of an object: a record of its properties, or an open object without them. -/
def objectInto (required : List String) (links : List String) :
    Option (List (String × Schema)) → TypeTerm × List String
  | none => (.object, links)
  | some properties =>
    let (fields, links) := fieldsInto required links properties
    (.record fields, links)

/-- The fields of a record; a property that is not required may be missing. -/
def fieldsInto (required : List String) (links : List String) :
    List (String × Schema) → List Field × List String
  | [] => ([], links)
  | (name, schema) :: rest =>
    let (type, links) := typeInto links schema
    let (fields, links) := fieldsInto required links rest
    (⟨name, type, !required.contains name⟩ :: fields, links)

/-- The type of a list; without an item type its items are of any type. -/
def listInto (links : List String) : Option Schema → TypeTerm × List String
  | none => (.array .any, links)
  | some items =>
    let (element, links) := typeInto links items
    (.array element, links)

end

def typing (s : Schema) : Typing :=
  let (type, dependencies) := typeInto [] s
  ⟨type, dependencies⟩

end Schema

end ClientGen
