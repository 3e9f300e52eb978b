import ClientGen.Defect
import ClientGen.Document
import ClientGen.PathTemplate
import ClientGen.Text.Identifier

/-! # Checks of an operation

  Before a function is made from an operation, two things are checked. The placeholders of its path
  must be exactly its required path parameters, in any order. Each such parameter must be fit to
  name an argument: an identifier that is not reserved, and none of the names that the generated
  function uses for its own ends. -/

namespace ClientGen

/-! ## Names that generated functions use -/

namespace Generated

def hostname : String := "hostname"

/-- The argument that holds the values of the query. -/
def query : String := "query"

/-- The argument, and the member of the request, that holds the payload. -/
def data : String := "data"

/-- The class of requests. -/
def request : String := "AjaxPipe"

/-- The function that writes a query. -/
def makeQuery : String := "makeQuery"

/-- The type of the answer to a successful request. -/
def response : String := "Response"

end Generated

namespace Operation

/-- The names of the required path parameters without repetitions, in order. -/
def pathParameterNames (op : Operation) : List String :=
  Names.firstSeen (op.pathParameters.map Parameter.name)

/-- Whether two lists hold the same names. -/
def sameNames (xs ys : List String) : Bool := xs.all ys.contains && ys.all xs.contains

/-- Checks that the placeholders of the path are the required path parameters. -/
def checkPathParameters (op : Operation) : Except Defect Unit :=
  let placeholders := PathTemplate.argumentNames op.path
  let parameters := op.pathParameterNames
  if sameNames placeholders parameters then .ok ()
  else .error (.pathMismatch op.id op.path placeholders parameters)

/-- Whether the function of an operation uses a name for its own ends. -/
def isGeneratedName (hasQuery hasPayload : Bool) (name : String) : Bool :=
  name = Generated.hostname || name = Generated.request
    || (hasQuery && (name = Generated.query || name = Generated.makeQuery))
    || (hasPayload && name = Generated.data)

/-- Checks the name of one path parameter. -/
def checkPathName (op : Operation) (name : String) : Except Defect Unit :=
  if !Text.isBindable name then .error (.unfitArgument op.id name)
  else if isGeneratedName op.hasQuery (!op.payloadParameters.isEmpty) name then
    .error (.reservedArgument op.id name)
  else .ok ()

/-- Checks the names of the required path parameters in the order of their declaration. -/
def checkPathNames (op : Operation) : Except Defect Unit :=
  op.pathParameters.forM fun p => checkPathName op p.name

end Operation

end ClientGen
