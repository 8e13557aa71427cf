import GatedResources.Query.Request
import GatedResources.Text.Trim
import GatedResources.Trace

/-!
# Sort orders

A sort order is an array of a field and a direction.
-/

namespace GatedResources

inductive Direction where
  | ascending
  | descending
deriving DecidableEq, Repr

namespace Direction

/-- Ascending wherever `ASC` occurs. -/
def ofText (text : String) : Direction :=
  if Trim.occurs ['A', 'S', 'C'] text.toList then .ascending else .descending

def keyword : Direction -> String
  | .ascending => "ASC"
  | .descending => "DESC"

def reportName : Direction -> String
  | .ascending => "Asc"
  | .descending => "Desc"

end Direction

structure SortOrder where
  field : String
  direction : Direction
deriving DecidableEq, Repr

namespace SortOrder

def toJson (order : SortOrder) : Json :=
  .object [("field", .string order.field), ("direction", .string order.direction.keyword)]

/-- The direction beside a field; descending unless a text says otherwise. -/
def directionOf : Option Json -> Direction
  | some (.string text) => .ofText text
  | _ => .descending

/-- Reads a sort order; anything else is no sort order. -/
def compile (sort : Encoded) : Traced (Option SortOrder) :=
  match sort.value? with
  | none => do
      Traced.report .warn "sort is not valid JSON, ignoring" [("sort", sort.reportText)]
      return none
  | some (.array (.string field :: rest)) => return some ⟨field, directionOf rest.head?⟩
  | some (.array _) => do
      Traced.report .warn "sort has no field, ignoring" []
      return none
  | some value => do
      Traced.report .warn "sort is not an array, ignoring" [("value", value.compact)]
      return none

end SortOrder
end GatedResources
