import ClientGen.Document.Decode

/-! # The operations of a document

  A document is flattened into its operations: path by path, and on each path in the order of the
  path item. Members of a path item that name no method are passed over, whatever they hold. -/

namespace ClientGen

structure InvalidOperation where
  method : HttpMethod
  /-- The path template, without the base path. -/
  template : String
  cause : Cause
  deriving DecidableEq, Repr

/-- The wording of the failure, without its cause. -/
def InvalidOperation.message (e : InvalidOperation) : String :=
  "Invalid operation " ++ e.method.name ++ " " ++ e.template

namespace Document

/-- The operations of one path item, of which `base` comes before every path. -/
def itemOperations (base template : String) :
    List (String × Json) → Except InvalidOperation (List Operation)
  | [] => .ok []
  | (key, v) :: rest =>
    match HttpMethod.ofKey? key with
    | none => itemOperations base template rest
    | some method =>
      match Operation.decode v with
      | .error cause => .error ⟨method, template, cause⟩
      | .ok op =>
        (itemOperations base template rest).map fun ops =>
          { op with method := method, path := base ++ template } :: ops

/-- The operations of path items, of which `base` comes before every path. -/
def pathOperations (base : String) :
    List (String × List (String × Json)) → Except InvalidOperation (List Operation)
  | [] => .ok []
  | (template, item) :: rest => do
    let here ← itemOperations base template item
    let later ← pathOperations base rest
    return here ++ later

/-- The operations of a document; the first that cannot be read is the failure. -/
def operations (d : Document) : Except InvalidOperation (List Operation) :=
  pathOperations d.pathRoot d.paths

end Document

end ClientGen
