import ClientGen.Logged
import ClientGen.Operation.Check
import ClientGen.Script
import ClientGen.Typing

/-! # The function of an operation

  An operation becomes a function that makes a request. Its arguments are the host, the required
  path parameters in the order of their declaration, the query and the payload, as far as the
  operation has them. Beside the function stands a type alias for the answer, and before both the
  imports of everything they use.

  Types are collected in one list of links: arguments first, the payload, then the answer. A linked
  definition with the name of the alias is imported under a fresh name. -/

namespace ClientGen.Operation

/-! ## Arguments -/

/-- The type of an argument that may be undeclared, and the links met so far. -/
def declaredInto (links : List String) (declared : Option Schema) :
    Option TypeTerm × List String :=
  match declared with
  | none => (none, links)
  | some schema =>
    let (type, links) := schema.typeInto links
    (some type, links)

/-- The arguments of parameters of which those with names in `seen` have been declared before, and
    the links met so far. A repeated parameter makes a notice and no argument. -/
def pathArguments (id : String) (seen links : List String) :
    List Parameter → Logged Defect (List Argument × List String)
  | [] => .ok ([], links)
  | p :: rest =>
    if p.name ∈ seen then do
      Logged.tell [.repeatedPathParameter id p.name]
      pathArguments id seen links rest
    else do
      let (type, links) := declaredInto links p.ownSchema?
      let (arguments, links) ← pathArguments id (p.name :: seen) links rest
      return (⟨p.name, type⟩ :: arguments, links)

def queryArguments (op : Operation) : List Argument :=
  if op.hasQuery then [⟨Generated.query, some .object⟩] else []

/-- The parameter that the payload carries. Of several the first counts, and each other one makes
    a notice. -/
def payload (op : Operation) : Logged Defect (Option Parameter) :=
  match op.payloadParameters with
  | [] => .ok none
  | first :: extras =>
    ⟨extras.map fun extra => .extraPayload op.id extra.name first.name, .ok (some first)⟩

/-- The argument of the payload, and the links met so far. -/
def payloadArguments (links : List String) : Option Parameter → List Argument × List String
  | none => ([], links)
  | some p =>
    let (type, links) := declaredInto links p.ownSchema?
    ([⟨Generated.data, type⟩], links)

/-! ## The request -/

def partOfSegment : Segment → TemplatePiece
  | .literal text => .text text
  | .placeholder name => .fill (.ident name)

/-- The address of the request: the host, the filled path, and the query if there is one. -/
def address (op : Operation) : Expr :=
  let path := Expr.template ((PathTemplate.segments op.path).map partOfSegment)
  .concat (.ident Generated.hostname)
    (if op.hasQuery then
      .concat path (.call Generated.makeQuery [.ident Generated.query])
    else path)

/-- The body of the function: it makes a request from a description. -/
def requestBody (op : Operation) (hasPayload : Bool) : List Statement :=
  let description := [("method", Expr.text op.method.name), ("url", op.address)]
    ++ if hasPayload then [(Generated.data, Expr.ident Generated.data)] else []
  [.result (.construct Generated.request [.object description])]

/-! ## The name of the answer -/

/-- The candidate names for an imported definition that has the name of the alias. -/
def candidate : Nat → String
  | 0 => Generated.response ++ "Type"
  | n + 1 => Generated.response ++ "Type" ++ toString (n + 2)

/-- Whether a candidate name is in use. -/
def isTaken (imports : List String) (name : String) : Bool :=
  imports.contains name || name = Generated.request || name = Generated.makeQuery

/-- The first candidate that is not in use, from the given one on, among as many as `fuel`. -/
def freshFrom (imports : List String) : Nat → Nat → String
  | 0, n => candidate n
  | fuel + 1, n =>
    if isTaken imports (candidate n) then freshFrom imports fuel (n + 1) else candidate n

/-- The name under which a definition with the name of the alias is imported; none if no such
    definition is imported. One of the first `imports.length` candidates is not in use, because the
    name of the alias itself is among the imports and is no candidate. -/
def responseImport? (imports : List String) : Option String :=
  if imports.contains Generated.response then some (freshFrom imports imports.length 0) else none

/-- A type with the links to a definition of the alias's name led to its import. -/
def withImport (fresh : Option String) (type : TypeTerm) : TypeTerm :=
  match fresh with
  | some name => type.relink Generated.response name
  | none => type

/-! ## The unit -/

/-- The import of a helper. -/
def importOfHelper (name : String) : Item := .imports (.value name ("../helpers/" ++ name))

def importOfDefinition (fresh : Option String) (name : String) : Item :=
  let localName := if name = Generated.response then fresh.getD name else name
  .imports (.type name localName ("../types/" ++ name))

def items (op : Operation) (imports : List String) (arguments : List Argument)
    (answer : TypeTerm) (hasPayload : Bool) : List Item :=
  let fresh := responseImport? imports
  (if op.hasQuery then [importOfHelper Generated.makeQuery] else [])
    ++ [importOfHelper Generated.request]
    ++ imports.map (importOfDefinition fresh)
    ++ [.typeAlias ⟨Generated.response, withImport fresh answer, true⟩,
      .function ⟨op.id, arguments.map fun a => { a with type := a.type.map (withImport fresh) },
        op.requestBody hasPayload⟩]

/-- The type of the answer to a successful request, and the links met so far. -/
def answerInto (op : Operation) (links : List String) : TypeTerm × List String :=
  match op.answerSchema? with
  | some schema => schema.typeInto links
  | none => (.any, links)

/-- The unit of an operation. -/
def compile (op : Operation) : Logged Defect SourceUnit := do
  Logged.ofExcept op.checkPathParameters
  let payload ← op.payload
  -- Payloads are told of even if a name is refused.
  Logged.ofExcept op.checkPathNames
  let (pathArguments, links) ← pathArguments op.id [] [] op.pathParameters
  let (payloadArguments, links) := payloadArguments links payload
  let (answer, links) := op.answerInto links
  let imports := Names.firstSeen links
  let arguments := [⟨Generated.hostname, some .string⟩] ++ pathArguments ++ op.queryArguments
    ++ payloadArguments
  return { name := op.id, kind := .operation,
           script := ⟨op.items imports arguments answer payload.isSome⟩, dependencies := imports }

end ClientGen.Operation
