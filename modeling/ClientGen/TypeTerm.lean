/-! # Type expressions

  The types that annotate generated sources. A definition is linked by name and never expanded, so
  a type is finite even where definitions refer to each other. -/

namespace ClientGen

mutual

inductive TypeTerm where
  | string
  | number
  | boolean
  | any
  /-- Objects of which nothing more is known. -/
  | object
  /-- The type with a name: a link to a definition. -/
  | named (name : String)
  | array (element : TypeTerm)
  /-- Objects with exactly the given fields. -/
  | record (fields : List Field)

structure Field where
  name : String
  type : TypeTerm
  optional : Bool

end

instance : Inhabited TypeTerm := ⟨.any⟩

namespace TypeTerm

/-! ## Links -/

mutual

/-- The names linked from a type, from left to right, repetitions included. -/
def links : TypeTerm → List String
  | .named name => [name]
  | .array element => links element
  | .record fields => fieldLinks fields
  | .string => []
  | .number => []
  | .boolean => []
  | .any => []
  | .object => []

def fieldLinks : List Field → List String
  | [] => []
  | ⟨_, type, _⟩ :: rest => links type ++ fieldLinks rest

end

mutual

/-- A type with every link to one name turned into a link to another. -/
def relink (source target : String) : TypeTerm → TypeTerm
  | .named name => .named (if name = source then target else name)
  | .array element => .array (relink source target element)
  | .record fields => .record (relinkFields source target fields)
  | .string => .string
  | .number => .number
  | .boolean => .boolean
  | .any => .any
  | .object => .object

def relinkFields (source target : String) : List Field → List Field
  | [] => []
  | ⟨name, type, optional⟩ :: rest =>
    ⟨name, relink source target type, optional⟩ :: relinkFields source target rest

end

end TypeTerm

end ClientGen
