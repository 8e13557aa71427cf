import GatedResources.Identity.Bearer
import GatedResources.Json.Printer

/-!
# Requests and responses over the wire
-/

namespace GatedResources

structure Request where
  method : String
  path : String
  query : Option String
  headers : Headers
  body : String
deriving DecidableEq, Repr

inductive Body where
  | empty
  | json (value : Json)
  | text (content : String)
deriving DecidableEq, Repr

/-- A response. `allow` lists the methods of a path that does not have the one asked for. -/
structure Response where
  status : Nat
  contentType : Option String
  body : Body
  allow : Option String
deriving DecidableEq, Repr

namespace Response

def bare (status : Nat) : Response :=
  ⟨status, none, .empty, none⟩

def ofJson (status : Nat) (value : Json) : Response :=
  ⟨status, some "application/json", .json value, none⟩

/-- The same response without its content, as an answer to a request for the head only. -/
def head (response : Response) : Response :=
  { response with body := .empty }

end Response
end GatedResources
