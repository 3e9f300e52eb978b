import ClientGen.CommandLine
import ClientGen.Disk

/-! # Arguments that make no sense

  Arguments are looked at before a run: there must be a file to read, and the package must have a
  name. The run itself asks for neither. -/

namespace ClientGen

inductive ArgumentError where
  | inputMissing (path : String)
  | inputNotAFile (path : String)
  /-- The name of the package is blank. -/
  | emptyName
  deriving DecidableEq, Repr

def ArgumentError.message : ArgumentError → String
  | .inputMissing path => "Input file does not exist: " ++ path
  | .inputNotAFile path => "Input path is not a file: " ++ path
  | .emptyName => "Package name must not be empty"

/-- Checks arguments against a disk. -/
def CommandLine.check {m : Type → Type} [Monad m] (disk : Disk m) (args : CommandLine) :
    m (Except ArgumentError Unit) := do
  if !(← disk.isThere args.input) then return .error (.inputMissing args.input)
  if !(← disk.isFile args.input) then return .error (.inputNotAFile args.input)
  if Text.isAllBlank args.name then return .error .emptyName
  return .ok ()

end ClientGen
