import ClientGen.Document.Decode
import ClientGen.Json.Reader
import ClientGen.Logged
import ClientGen.PathText
import ClientGen.Yaml.Reader

/-! # Loading documents

  The text of a document is JSON or YAML, told apart by the name of its file. Either is read into a
  value, whose declared version is looked at before the value is read as a document. -/

namespace ClientGen

inductive Format where
  | json
  | yaml
  deriving DecidableEq, Repr

/-- Why a document cannot be loaded. -/
inductive LoadError where
  | invalidJson
  | invalidYaml
  /-- The value is not a document. -/
  | layout (cause : Cause)
  deriving DecidableEq, Repr

/-- The wording of a failure, without its cause. -/
def LoadError.message : LoadError → String
  | .invalidJson => "Invalid JSON"
  | .invalidYaml => "Invalid YAML"
  | .layout _ => "Document does not match the Swagger 2.0 layout"

def LoadError.causes : LoadError → List String
  | .layout cause => [cause.message]
  | _ => []

namespace Format

/-- The format of the file that a path leads to: YAML for the extensions of YAML in any ASCII case,
    JSON otherwise. -/
def ofPath (path : String) : Format :=
  match (PathText.extension? path).map fun e => e.toList.map Char.toLower with
  | some ['y', 'a', 'm', 'l'] => .yaml
  | some ['y', 'm', 'l'] => .yaml
  | _ => .json

def read (format : Format) (text : String) : Except LoadError Json :=
  match format with
  | .json => match Json.read? text with
    | some v => .ok v
    | none => .error .invalidJson
  | .yaml => match Yaml.read? text with
    | some v => .ok v
    | none => .error .invalidYaml

end Format

/-- The notices about the version that a value declares. -/
def versionNotices (v : Json) : List Notice :=
  match (v.member? "swagger").bind Json.text? with
  | some "2.0" => []
  | some version => [.otherVersion version]
  | none => [.noVersion]

/-- The document of a text. -/
def Document.load (format : Format) (text : String) : Logged LoadError Document := do
  let v ← Logged.ofExcept (format.read text)
  Logged.tell (versionNotices v)
  Logged.ofExcept ((Document.decode v).mapError .layout)

end ClientGen
