import GatedResources.Json.Value

/-!
# Laying one value over another

Objects are joined member by member, anything else is replaced as a whole.
-/

namespace GatedResources
namespace Json

mutual

def overlay (lower : Json) : Json -> Json
  | .object upper =>
      match lower with
      | .object members => .object (overlayMembers members upper)
      | _ => .object (overlayMembers [] upper)
  | upper => upper

/-- Members in ascending key order with others laid over them one by one. -/
def overlayMembers (lower : List (String × Json)) : List (String × Json) -> List (String × Json)
  | [] => lower
  | (key, value) :: rest =>
      overlayMembers (insertMember key (overlay ((lookup key lower).getD .null) value) lower) rest

end

def nest : List String -> Json -> Json
  | [], value => value
  | key :: keys, value => .object [(key, nest keys value)]

/-- Whether a value says what stands at a path. What is not an object says it for all paths
below. -/
def settles : List String -> Json -> Bool
  | [], _ => true
  | key :: keys, .object members =>
      match lookup key members with
      | some value => settles keys value
      | none => false
  | _ :: _, _ => true

end Json
end GatedResources
