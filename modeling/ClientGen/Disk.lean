import ClientGen.PathText

/-! # Disks

  What the program does with a disk, whatever the disk is. The program is written over these
  operations, so the same steps are taken on a disk that is a value and on the disk of a machine. -/

namespace ClientGen

/-- The operations of a disk, as actions of a monad. Those that may fail tell whether they were
    carried out. -/
structure Disk (m : Type → Type) where
  isThere : String → m Bool
  isFile : String → m Bool
  /-- The content of a file; none if it cannot be read. -/
  read? : String → m (Option ByteArray)
  /-- Makes a directory and every directory on the way to it. -/
  makeDirectories : String → m Bool
  /-- Stores a file in a directory that is there. -/
  putFile : String → ByteArray → m Bool

/-- Why a file cannot be written. -/
inductive WriteError where
  /-- Its directory cannot be made. -/
  | directory (path : String)
  /-- The file itself cannot be stored. -/
  | file (path : String)
  deriving DecidableEq, Repr

def WriteError.message : WriteError → String
  | .directory path => "Failed to create directory: " ++ path
  | .file path => "Failed to write to file: " ++ path

/-- Writes a file, after the directories on the way to it. -/
def Disk.write {m : Type → Type} [Monad m] (disk : Disk m) (path : String) (content : ByteArray) :
    m (Except WriteError Unit) := do
  if ← disk.makeDirectories (PathText.parent path) then
    if ← disk.putFile path content then return .ok () else return .error (.file path)
  else return .error (.directory (PathText.parent path))

end ClientGen
