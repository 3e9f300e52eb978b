import ClientGen.Package.Files
import ClientGen.Storage

/-! # Writing a package

  The files of a package are written one after the other below an output directory. The first that
  cannot be written ends the work; what was written before stays. -/

namespace ClientGen

structure WriteReport where
  /-- The paths of the files, in the order in which they were written. -/
  files : List String
  operations : Nat
  definitions : Nat
  deriving DecidableEq, Repr

namespace Package

section

variable {m : Type → Type} [Monad m]

/-- Writes files below a directory, in order, up to the first failure. The answer lists their
    paths. -/
def writeFilesOn (disk : Disk m) (output : String) :
    List OutputFile → m (Except WriteError (List String))
  | [] => return .ok []
  | file :: rest => do
    match ← disk.write (PathText.below output file.path) file.content.toUTF8 with
    | .error e => return .error e
    | .ok () => return (← writeFilesOn disk output rest).map (file.path :: ·)

def writeOn (disk : Disk m) (p : Package) (info : PackageInfo) (output : String) :
    m (Except WriteError WriteReport) := do
  return (← writeFilesOn disk output (p.files info)).map fun files =>
    { files := files, operations := p.operations.length, definitions := p.definitions.length }

end

/-! ## On a disk that is a value -/

def writeFiles (output : String) (files : List OutputFile) (st : Storage) :
    Storage × Except WriteError (List String) :=
  ((writeFilesOn Storage.disk output files).run st).swap

def write (p : Package) (info : PackageInfo) (output : String) (st : Storage) :
    Storage × Except WriteError WriteReport :=
  ((p.writeOn Storage.disk info output).run st).swap

end Package

end ClientGen
