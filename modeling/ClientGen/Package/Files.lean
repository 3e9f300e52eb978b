import ClientGen.Json.Writer
import ClientGen.Layout.CommonJs
import ClientGen.Layout.Flow
import ClientGen.Package
import ClientGen.Package.Helpers

/-! # The files of a package

  What a package consists of on disk, in the order in which it is written:

  * **the helpers** that generated functions use;
  * **two sources for each operation**, one with types and one without;
  * **one source for each definition**, which is nothing but types;
  * **the entry point**, which exports every operation;
  * **the manifest** for the package manager. -/

namespace ClientGen

structure PackageInfo where
  name : String
  version : String
  deriving DecidableEq, Repr

/-- A file to be written. -/
structure OutputFile where
  /-- The path below the output directory. -/
  path : String
  content : String
  deriving DecidableEq, Repr

namespace Package

/-! ## Entry point and manifest -/

def exportText (e : Export) : String :=
  e.name ++ ": require('./src/" ++ e.source ++ "." ++ Layout.CommonJs.extension ++ "').default"

/-- The text of the entry point. -/
def indexText (exports : List Export) : String :=
  "module.exports = " ++ Text.bracketed "\x7b" "\x7d" 0 (exports.map exportText) ++ ";\n"

/-- The manifest as a value. -/
def manifest (info : PackageInfo) : Json :=
  .object [("name", .string info.name),
    ("description", .string "auto-generated api from Swagger.json"),
    ("version", .string info.version), ("main", .string "index.js"),
    ("license", .string "MIT"), ("dependencies", .object [])]

def manifestText (info : PackageInfo) : String := (manifest info).pretty 0 ++ "\n"

/-! ## Files -/

def helperFiles : List OutputFile :=
  [⟨"helpers/" ++ Generated.request ++ ".js", requestHelper⟩,
    ⟨"helpers/" ++ Generated.makeQuery ++ ".js", queryHelper⟩]

def operationFiles (u : SourceUnit) : List OutputFile :=
  [⟨"src/" ++ u.name ++ "." ++ Layout.Flow.extension, Layout.Flow.script u.script⟩,
    ⟨"src/" ++ u.name ++ "." ++ Layout.CommonJs.extension, Layout.CommonJs.script u.script⟩]

def definitionFile (u : SourceUnit) : OutputFile :=
  ⟨"types/" ++ u.name ++ "." ++ Layout.Flow.extension, Layout.Flow.script u.script⟩

/-- The files of a package, in the order in which they are written. -/
def files (p : Package) (info : PackageInfo) : List OutputFile :=
  helperFiles ++ p.operations.flatMap operationFiles ++ p.definitions.map definitionFile
    ++ [⟨"index.js", indexText p.exports⟩, ⟨"package.json", manifestText info⟩]

end Package

end ClientGen
