import GatedResources.Query.Request
import GatedResources.Text.Integer
import GatedResources.Text.Percent

/-!
# Query strings of list and bulk requests
-/

namespace GatedResources
namespace Rest

inductive QueryFault where
  | duplicate (field : String)
  | number (field : String) (refusal : Integer.Refusal)
deriving DecidableEq, Repr

def QueryFault.message : QueryFault -> String
  | .duplicate field => "Failed to deserialize query string: duplicate field " ++ ticked field
  | .number field refusal =>
      "Failed to deserialize query string: " ++ field ++ ": " ++ refusal.message

def number (field value : String) : Except QueryFault Nat :=
  match Integer.parseUnsigned 64 value.toList with
  | .ok number => .ok number
  | .error refusal => .error (.number field refusal)

/-- Takes a pair into a list request. Unknown names are passed over. -/
def takeListPair (request : ListRequest) (name value : String) :
    Except QueryFault ListRequest :=
  match name with
  | "filter" =>
      if request.filter.isSome then .error (.duplicate name)
      else .ok { request with filter := some (.text value) }
  | "sort" =>
      if request.sort.isSome then .error (.duplicate name)
      else .ok { request with sort := some (.text value) }
  | "offset" =>
      if request.offset.isSome then .error (.duplicate name)
      else do .ok { request with offset := some (← number name value) }
  | "limit" =>
      if request.limit.isSome then .error (.duplicate name)
      else do .ok { request with limit := some (← number name value) }
  | _ => .ok request

/-- Reads a list request. The first bad pair is reported. -/
def readListRequest (query : Option String) : Except QueryFault ListRequest :=
  (Percent.formPairs (query.getD "")).foldlM
    (fun request pair => takeListPair request pair.1 pair.2) ListRequest.everything

/-- Takes a pair into a bulk request, which knows a filter only. -/
def takeFilterPair (request : FilterRequest) (name value : String) :
    Except QueryFault FilterRequest :=
  if name = "filter" then
    if request.filter.isSome then .error (.duplicate name) else .ok ⟨some (.text value)⟩
  else
    .ok request

def readFilterRequest (query : Option String) : Except QueryFault FilterRequest :=
  (Percent.formPairs (query.getD "")).foldlM
    (fun request pair => takeFilterPair request pair.1 pair.2) ⟨none⟩

end Rest
end GatedResources
