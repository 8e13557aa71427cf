import GatedResources.Graph.Field

/-!
# Requests and responses of the graph endpoint
-/

namespace GatedResources

structure GraphRequest where
  type : RootType
  field : String
  arguments : Json
deriving DecidableEq, Repr

namespace GraphRequest

def memberNames : List String := ["kind", "field", "args"]

def shape : Shape GraphRequest where
  label := "GraphRequest"
  closed := true
  initial := ⟨.query, "", .null⟩
  members := [
    Member.of "kind" .required RootType.decoder fun type request => { request with type },
    Member.of "field" .required Decoder.text fun field request => { request with field },
    Member.of "args" .defaulted Decoder.any fun arguments request => { request with arguments }]

end GraphRequest

structure GraphError where
  code : String
  message : String
deriving DecidableEq, Repr

namespace GraphError

def unknownField (type : RootType) (field : String) : GraphError :=
  ⟨"GRAPHQL_VALIDATION_FAILED",
    "Cannot query field \"" ++ field ++ "\" on type \"" ++ type.typeName ++ "\""⟩

/-- What is told of an error. What is not the caller's business is reported only. -/
def ofResourceError (error : ResourceError) : Traced GraphError :=
  match error with
  | .unauthenticated => return ⟨"UNAUTHENTICATED", error.message⟩
  | .denied _ => return ⟨"FORBIDDEN", error.message⟩
  | .notFound _ _ => return ⟨"NOT_FOUND", error.message⟩
  | .validation _ _ => return ⟨"BAD_USER_INPUT", error.message⟩
  | .store _ => do
      Traced.report .error "resolver failed" [("error", error.message)]
      return ⟨"INTERNAL_SERVER_ERROR", "An internal error occurred"⟩
  | .internal _ => do
      Traced.report .error "resolver failed" [("error", error.message)]
      return ⟨"INTERNAL_SERVER_ERROR", "An internal error occurred"⟩

def toJson (error : GraphError) : Json :=
  .object [
    ("message", .string error.message),
    ("extensions", .object [("code", .string error.code)])]

end GraphError

inductive GraphResponse where
  | data (field : String) (value : Json)
  | failure (error : GraphError)
deriving DecidableEq, Repr

namespace GraphResponse

def toJson : GraphResponse -> Json
  | .data field value => .object [("data", .object [(field, value)])]
  | .failure error => .object [("data", .null), ("errors", .array [error.toJson])]

end GraphResponse
end GatedResources
