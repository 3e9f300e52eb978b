import ClientGen.CommandLine
import ClientGen.Document.Load
import ClientGen.Package.Write

/-! # A whole run

  A run reads a document, makes a package from it and writes the package. Everything that can be
  wrong with the document shows before the first file is written. -/

namespace ClientGen

inductive RunError where
  /-- There is no file to read, it cannot be read, or it is no text. -/
  | unreadable (path : String)
  | load (path : String) (e : LoadError)
  | generate (e : GenerateError)
  | write (e : WriteError)
  deriving DecidableEq, Repr

namespace RunError

def message : RunError → String
  | .unreadable path => "Failed to read file: " ++ path
  | .load path _ => "Failed to parse Swagger document: " ++ path
  | .generate (.invalidOperation e) => e.message
  | .generate (.defect e) => e.message
  | .write e => e.message

/-- The causes of a failure, outermost first. -/
def causes : RunError → List String
  | .load _ e => e.message :: e.causes
  | .generate (.invalidOperation e) => [e.cause.message]
  | _ => []

end RunError

namespace Run

/-- The document in the content of the input. There is no content if the input cannot be read. -/
def document (input : String) (content : Option ByteArray) : Logged RunError Document :=
  match content.bind String.fromUTF8? with
  | none => .fail (.unreadable input)
  | some text => (Document.load (Format.ofPath input) text).mapError (.load input)

def package (input : String) (content : Option ByteArray) : Logged RunError Package := do
  let document ← document input content
  document.compile.mapError .generate

/-- A run, on any disk. -/
def runOn {m : Type → Type} [Monad m] (disk : Disk m) (args : CommandLine)
    (buildNumber : Option String) : m (Logged RunError WriteReport) := do
  match package args.input (← disk.read? args.input) with
  | ⟨notices, .error e⟩ => return ⟨notices, .error e⟩
  | ⟨notices, .ok p⟩ =>
    let written ← p.writeOn disk (args.packageInfo buildNumber) args.output
    return ⟨notices, written.mapError .write⟩

/-- A run on a disk that is a value: the disk after it, and its report or failure. -/
def run (args : CommandLine) (buildNumber : Option String) (st : Storage) :
    Storage × Logged RunError WriteReport :=
  ((runOn Storage.disk args buildNumber).run st).swap

end Run

end ClientGen
