import GatedResources.Query.Filter
import GatedResources.Query.Sort

/-!
# Queries

A query is what a list request asks for, in terms of predicates.
-/

namespace GatedResources

structure Query where
  source : String
  predicates : List Predicate
  order : Option SortOrder
  offset : Option Nat
  limit : Option Nat
deriving DecidableEq, Repr

namespace Query

def isUnfiltered (query : Query) : Bool :=
  query.predicates.isEmpty

def toJson (query : Query) : Json :=
  .object [
    ("alias", .string query.source),
    ("predicates", .array (query.predicates.map Predicate.toJson)),
    ("order", (query.order.map SortOrder.toJson).getD .null),
    ("offset", Json.optionalNatural query.offset),
    ("limit", Json.optionalNatural query.limit)]

def compilePredicates (source : String) (transforms : Transforms) :
    Option Encoded -> Traced (List Predicate)
  | none => return []
  | some filter => Filter.compile source transforms filter

def compileOrder : Option Encoded -> Traced (Option SortOrder)
  | none => return none
  | some sort => do
      match ← SortOrder.compile sort with
      | none => return none
      | some order => do
          Traced.report .debug "sort body"
            [("field", order.field), ("direction", order.direction.reportName)]
          return some order

def compile (request : ListRequest) (source : String) (transforms : Transforms) :
    Traced Query := do
  let predicates ← compilePredicates source transforms request.filter
  let order ← compileOrder request.sort
  return ⟨source, predicates, order, request.offset, request.limit⟩

end Query
end GatedResources
