import ClientGen.Operation.Compile
import ClientGen.Document.Operations
import ClientGen.Text.Lowercase

/-! # Packages

  A package holds one unit for each definition and one for each operation of a document, and a
  table of what it exports. Before the units are made the document is checked as a whole: operation
  ids must not repeat, and definition names must differ by more than case, since each becomes a file
  name. -/

namespace ClientGen

structure Export where
  name : String
  /-- The unit whose function is exported. -/
  source : String
  deriving DecidableEq, Repr

/-- Everything that is generated from one document. -/
structure Package where
  definitions : List SourceUnit
  operations : List SourceUnit
  /-- The exports, in the order of the operations. -/
  exports : List Export

namespace Package

/-- The exports of units by name; a name is exported once. -/
def exportsOf (names : List String) : List Export :=
  (Names.firstSeen names).map fun name => ⟨name, name⟩

/-! ## Checks of the whole document -/

/-- Checks that no operation id repeats. The failure names every id that does. -/
def checkOperationIds (ids : List String) : Except Defect Unit :=
  let repeated := Names.repeated ids
  if repeated.isEmpty then .ok () else .error (.repeatedIds repeated)

/-- The collisions of names with those in `first`, which holds lower-case forms with the first names
    that have them. -/
def collisionsAfter (first : List (String × String)) : List String → List (String × String)
  | [] => []
  | name :: rest =>
    match OrderedMap.find? (Text.lower name) first with
    | some existing => (existing, name) :: collisionsAfter first rest
    | none => collisionsAfter ((Text.lower name, name) :: first) rest

/-- The names that agree in lower case with an earlier name, each after the first such name. -/
def collisions (names : List String) : List (String × String) := collisionsAfter [] names

/-- Checks that definition names differ by more than case. All collisions are found and noticed
    before the check fails. -/
def checkDefinitions (names : List String) : Logged Defect Unit :=
  let found := collisions names
  { notices := found.map fun pair => .definitionCollision pair.1 pair.2,
    result := if found.isEmpty then .ok () else .error (.collidingDefinitions found) }

/-- The notices about operations that say nothing to readers. -/
def undocumentedNotices (operations : List Operation) : List Notice :=
  (operations.filter Operation.saysNothing).map fun op =>
    .undocumented op.id op.method.name op.path

/-! ## Units -/

def importOfSibling (name : String) : Item := .imports (.type name name ("./" ++ name))

/-- The unit of a definition: its type under its name, after the imports of every other definition
    that it links to. -/
def definitionUnit (name : String) (schema : Schema) : SourceUnit :=
  let typing := schema.typing
  let imports := Names.firstSeen typing.dependencies
  { name := name, kind := .definition,
    script := ⟨(imports.filter fun other => other ≠ name).map importOfSibling
      ++ [.typeAlias ⟨name, typing.type, true⟩]⟩,
    dependencies := imports }

/-- The package of operations and definitions. -/
def assemble (operations : List Operation) (definitions : List (String × Schema)) :
    Logged Defect Package := do
  Logged.ofExcept (checkOperationIds (operations.map Operation.id))
  Logged.tell (undocumentedNotices operations)
  checkDefinitions (OrderedMap.keys definitions)
  -- The unit of a definition can always be made, so from here on only operations can fail.
  let definitionUnits := definitions.map fun entry => definitionUnit entry.1 entry.2
  let operationUnits ← Logged.forEach Operation.compile operations
  return { definitions := definitionUnits, operations := operationUnits,
           exports := exportsOf (operationUnits.map SourceUnit.name) }

end Package

inductive GenerateError where
  | invalidOperation (e : InvalidOperation)
  | defect (e : Defect)
  deriving DecidableEq, Repr

def Document.compile (d : Document) : Logged GenerateError Package := do
  let operations ← Logged.ofExcept (d.operations.mapError .invalidOperation)
  (Package.assemble operations d.definitions).mapError .defect

end ClientGen
