import ClientGen.CommandLine.Check
import ClientGen.CommandLine.Parse
import ClientGen.Run

/-! # The program

  Reads the arguments, checks them, and makes the run that they ask for. The run is `Run.runOn`, of
  which `Run.run` is the case of a disk that is a value; all that stands here are the operations of
  the disk of the machine, and what is told to the user. -/

namespace ClientGen.Program

def usage : String :=
  "Usage: clientgen -i <FILE> -o <DIR> -n <NAME> [--package-version <VERSION>] [-v]"

/-- Tells whether an action came to its end. -/
def succeeds (action : IO Unit) : IO Bool := do
  try
    action
    return true
  catch _ => return false

/-- The disk of the machine. Paths start in the working directory. -/
def disk : Disk IO where
  isThere path := do ((← IO.currentDir) / path).pathExists
  isFile path := do
    let place := (← IO.currentDir) / path
    return (← place.pathExists) && !(← place.isDir)
  read? path := do
    try return some (← IO.FS.readBinFile ((← IO.currentDir) / path))
    catch _ => return none
  makeDirectories path := do succeeds (IO.FS.createDirAll ((← IO.currentDir) / path))
  putFile path content := do succeeds (IO.FS.writeBinFile ((← IO.currentDir) / path) content)

def tell (n : Notice) : IO Unit :=
  IO.eprintln ((match n.severity with | .warning => "WARN " | .error => "ERROR ") ++ n.message)

def run (args : CommandLine) : IO UInt32 := do
  match ← args.check disk with
  | .error e =>
    IO.eprintln e.message
    return 1
  | .ok () =>
    let ⟨notices, result⟩ ← Run.runOn disk args (← IO.getEnv "BUILD_NUMBER")
    notices.forM tell
    match result with
    | .error e =>
      (e.message :: e.causes).forM IO.eprintln
      return 1
    | .ok report =>
      if args.verbose then
        IO.eprintln ("Files written: " ++ toString report.files.length)
      return 0

end ClientGen.Program

def main (arguments : List String) : IO UInt32 :=
  match ClientGen.CommandLine.parse arguments with
  | .ok args => ClientGen.Program.run args
  | .error e => do
    IO.eprintln ClientGen.Program.usage
    return if e = .help || e = .version then 0 else 2
