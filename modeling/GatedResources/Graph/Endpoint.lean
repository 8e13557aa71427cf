import GatedResources.Graph.RequestText
import GatedResources.Graph.Schema
import GatedResources.Http.ContentType
import GatedResources.Http.Router

/-!
# The graph endpoint over HTTP
-/

namespace GatedResources
namespace Graph

def badRequest (message : String) : Response :=
  Response.ofJson 400 (GraphResponse.failure ⟨"BAD_REQUEST", message⟩).toJson

def handler (schema : Schema) (verifier : Verifier) : Handler := fun request _ database =>
  if ContentType.saysJson request.headers then
    match GraphRequest.ofText request.body with
    | .ok wanted => do
        let (status, response, database) ←
          schema.execute verifier database wanted (Bearer.credential request.headers)
        return (Response.ofJson status response.toJson, database)
    | .error fault => return (badRequest fault.message, database)
  else
    return (badRequest ContentType.expectedText, database)

def router (schema : Schema) (verifier : Verifier) (path : String) : Option Router :=
  Router.empty.route path [("POST", handler schema verifier)]

end Graph
end GatedResources
