import GatedResources.Query.Request
import GatedResources.Query.Transform
import GatedResources.Store.Entity
import GatedResources.Trace

/-!
# Filters

A filter is an object; each member asks for something of one field. Members that make no
sense are passed over, and a filter that is no object asks for nothing.
-/

namespace GatedResources
namespace Filter

def identifiersKey : String := "ids"

/-- The text of a value that is one, a number, or a truth value. -/
def scalarText : Json -> Option String
  | .string text => some text
  | .number value => some (Json.numberText value)
  | .bool true => some "true"
  | .bool false => some "false"
  | .null => none
  | .array _ => none
  | .object _ => none

def members (filter : Encoded) : Traced (Option (List (String × Json))) :=
  match filter.value? with
  | some (.object members) => return some members
  | some value => do
      Traced.report .warn "filter is not an object, ignoring" [("value", value.compact)]
      return none
  | none => do
      Traced.report .warn "filter is not valid JSON, ignoring" [("filter", filter.reportText)]
      return none

def scalarPredicate (source : String) (transforms : Transforms) (field : String) (value : Json) :
    Option Predicate :=
  match transforms.find? field with
  | some transform =>
      match transform source value with
      | .predicate predicate => some predicate
      | .rewritten value => (scalarText value).map (Predicate.contains field)
      | .unchanged => (scalarText value).map (Predicate.contains field)
  | none => (scalarText value).map (Predicate.contains field)

def memberPredicate (source : String) (transforms : Transforms) (key : String) (value : Json) :
    Traced (Option Predicate) :=
  match value with
  | .array values =>
      if key = identifiersKey then
        return some (.oneOf identifierField values)
      else do
        Traced.report .debug "array value on non-ids key, skipping" [("field", key)]
        return none
  | .null => do
      Traced.report .debug "null or nested value, skipping" [("field", key)]
      return none
  | .object _ => do
      Traced.report .debug "null or nested value, skipping" [("field", key)]
      return none
  | scalar => return scalarPredicate source transforms key scalar

def memberPredicates (source : String) (transforms : Transforms) :
    List (String × Json) -> Traced (List Predicate)
  | [] => return []
  | (key, value) :: rest => do
      let predicate ← memberPredicate source transforms key value
      let predicates ← memberPredicates source transforms rest
      return predicate.toList ++ predicates

def compile (source : String) (transforms : Transforms) (filter : Encoded) :
    Traced (List Predicate) := do
  match ← members filter with
  | none => do
      Traced.report .debug "no filter" [("alias", source)]
      return []
  | some members => do
      Traced.report .debug "where body" [("alias", source), ("body", (Json.object members).compact)]
      memberPredicates source transforms members

end Filter
end GatedResources
