import GatedResources.Http.ContentType
import GatedResources.Http.Router
import GatedResources.Resource.Operations
import GatedResources.Rest.Problem
import GatedResources.Rest.Query

/-!
# Resources over HTTP

The collection of a resource answers lists, takes new records and removes in bulk; each
record can be read, changed and removed by its identifier. Bodies are assumed to be within what
the server takes, by default two megabytes (2,097,152 octets): a longer one is refused before any
handler sees it.
-/

namespace GatedResources
namespace Rest

structure Endpoint where
  resource : Resource
  verifier : Verifier

abbrev Step (α : Type) := Attempt Problem α

def principal (endpoint : Endpoint) (kind : Action) (request : Request) :
    Step Principal :=
  (Gate.identify kind endpoint.resource.policy (Bearer.credential request.headers)
    endpoint.verifier).convertError fun error =>
      Problem.ofResourceError (ResourceError.ofAccessError error)

def handleFor (endpoint : Endpoint) (kind : Action) : Step (Handle kind) :=
  match endpoint.resource.handle? kind with
  | some handle => .succeed handle
  | none => .fail (Problem.notFound "operation is not available")

def operating {α : Type} (attempt : Attempt ResourceError α) : Step α :=
  attempt.convertError Problem.ofResourceError

def brokenName (captures : Captures) : Option (List Char) :=
  (captures.find? fun capture => (Utf8.decode (Percent.decode capture.2)).isNone).map Prod.fst

def identifier (captures : Captures) : Step Int :=
  let problem (text : String) : Step Int := .fail (Problem.badRequest ("id: " ++ text))
  match brokenName captures, captures with
  | some name, _ => problem ("Invalid URL: Invalid UTF-8 in " ++ ticked (String.ofList name))
  | none, [(_, value)] =>
      let value := (Utf8.decode (Percent.decode value)).getD []
      match Integer.parseSigned 64 value with
      | .ok identifier => .succeed identifier
      | .error _ =>
          problem ("Invalid URL: Cannot parse " ++ ticked (String.ofList value) ++
            " to a \x60i64\x60")
  | none, captures =>
      problem ("Wrong number of path arguments for \x60Path\x60. Expected 1 but got " ++
        Decimal.natural captures.length ++ ". Note that multiple parameters must be extracted " ++
        "with a tuple \x60Path<(_, _)>\x60 or a struct \x60Path<YourParams>\x60")

def content (request : Request) : Step (List (String × Json)) :=
  if ContentType.saysJson request.headers then
    match Json.parse request.body with
    | some (.object members) => .succeed members
    | some _ => .fail (Problem.badRequest "body must be a JSON object")
    | none => .fail (Problem.badRequest "Failed to parse the request body as JSON")
  else
    .fail (Problem.badRequest ContentType.expectedText)

def queried {α : Type} (result : Except QueryFault α) : Step α :=
  match result with
  | .ok value => .succeed value
  | .error fault => .fail (Problem.badRequest fault.message)

/-- Makes a handler of steps on the backing of the resource. A problem is answered and leaves the
database as it was. -/
def answering (endpoint : Endpoint) (steps : Request -> Captures -> Steps Problem Response) :
    Handler :=
  fun request captures database =>
    let entity := endpoint.resource.entity
    let answered : Step (Response × Database) := do
      let (response, backing) ← (steps request captures).run (database.backing entity)
      return (response, database.store entity backing)
    answered.settle fun problem => Traced.quiet (problem.response, database)

def findAll (endpoint : Endpoint) (request : Request) (_ : Captures) :
    Steps Problem Response := do
  let wanted ← Steps.doing (queried (readListRequest request.query))
  let principal ← Steps.doing (principal endpoint .find request)
  let handle ← Steps.doing (handleFor endpoint .find)
  let page ← Steps.reading fun backing => operating (handle.findAll principal backing wanted)
  return Response.ofJson 200 (page.toJson Record.toJson)

def findOne (endpoint : Endpoint) (request : Request) (captures : Captures) :
    Steps Problem Response := do
  let identifier ← Steps.doing (identifier captures)
  let principal ← Steps.doing (principal endpoint .find request)
  let handle ← Steps.doing (handleFor endpoint .find)
  let record ← Steps.reading fun backing => operating (handle.findOne principal backing identifier)
  return Response.ofJson 200 record.toJson

def createOne (endpoint : Endpoint) (request : Request) (_ : Captures) :
    Steps Problem Response := do
  let principal ← Steps.doing (principal endpoint .create request)
  let input ← Steps.doing (content request)
  let handle ← Steps.doing (handleFor endpoint .create)
  let record ← (handle.creating principal input).calling Problem.ofResourceError
  return Response.ofJson 201 record.toJson

def updateOne (endpoint : Endpoint) (request : Request) (captures : Captures) :
    Steps Problem Response := do
  let identifier ← Steps.doing (identifier captures)
  let principal ← Steps.doing (principal endpoint .update request)
  let patch ← Steps.doing (content request)
  let handle ← Steps.doing (handleFor endpoint .update)
  let record ← (handle.updating principal identifier patch).calling Problem.ofResourceError
  return Response.ofJson 200 record.toJson

def remove (endpoint : Endpoint) (request : Request) (captures : Captures) :
    Steps Problem Response := do
  let identifier ← Steps.doing (identifier captures)
  let principal ← Steps.doing (principal endpoint .delete request)
  let handle ← Steps.doing (handleFor endpoint .delete)
  let removed ← (handle.removing principal identifier).calling Problem.ofResourceError
  return Response.ofJson 200 (.bool removed)

def removeMany (endpoint : Endpoint) (request : Request) (_ : Captures) :
    Steps Problem Response := do
  let wanted ← Steps.doing (queried (readFilterRequest request.query))
  let principal ← Steps.doing (principal endpoint .delete request)
  let handle ← Steps.doing (handleFor endpoint .delete)
  let removed ← (handle.removingMany principal wanted).calling Problem.ofResourceError
  if removed then
    return Response.ofJson 200 (.bool true)
  else
    Steps.doing (Attempt.fail (Problem.notFound "no matching records"))

def collection (endpoint : Endpoint) : List (String × Handler) :=
  let onlyIf (kind : Action) (entry : String × Handler) :=
    if endpoint.resource.offers kind then [entry] else []
  onlyIf .find ("GET", answering endpoint (findAll endpoint)) ++
    onlyIf .create ("POST", answering endpoint (createOne endpoint)) ++
    onlyIf .delete ("DELETE", answering endpoint (removeMany endpoint))

def item (endpoint : Endpoint) : List (String × Handler) :=
  let onlyIf (kind : Action) (entry : String × Handler) :=
    if endpoint.resource.offers kind then [entry] else []
  onlyIf .find ("GET", answering endpoint (findOne endpoint)) ++
    onlyIf .update ("PATCH", answering endpoint (updateOne endpoint)) ++
    onlyIf .delete ("DELETE", answering endpoint (remove endpoint))

def addRoute (path : String) (methods : List (String × Handler)) (router : Router) :
    Option Router :=
  if methods.isEmpty then some router else router.route path methods

/-- The routes of a resource. It crashes when the name makes no path. -/
def router (endpoint : Endpoint) : Attempt Empty Router := do
  let name := endpoint.resource.options.name
  let routed := do
    addRoute ("/" ++ name ++ "/\x7bid\x7d") (item endpoint)
      (← addRoute ("/" ++ name) (collection endpoint) Router.empty)
  match routed with
  | none => Attempt.ofOutcome .crashed
  | some router => do
      let flag (kind : Action) : String :=
        Found.flagText (endpoint.resource.offers kind)
      Attempt.report .debug "REST routes registered" [
        ("resource", name), ("find", flag .find), ("create", flag .create),
        ("update", flag .update), ("delete", flag .delete)]
      return router

end Rest
end GatedResources
