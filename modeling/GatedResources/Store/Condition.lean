import GatedResources.Query.Compile
import GatedResources.Store.Error
import GatedResources.Store.Scalar

/-!
# Conditions

A condition is a predicate whose field is known to be a column and whose values can be
handed to the store.
-/

namespace GatedResources

inductive Bound where
  | text (value : String)
  | signed (value : Int)
  | unsigned (value : Nat)
  | small (value : Int)
  | float (value : Binary64)
  | flag (value : Bool)
deriving DecidableEq, Repr

namespace Bound

def greatest : Nat := Nat.pow 2 63 - 1

def isStorable : Bound -> Bool
  | .unsigned value => value ≤ greatest
  | _ => true

def scalar : Bound -> Scalar
  | .text value => .text value
  | .signed value => .integer value
  | .unsigned value => .integer value
  | .small value => .integer value
  | .float value => .real value
  | .flag value => .integer (if value then 1 else 0)

def toJson : Bound -> Json
  | .text value => .object [("text", .string value)]
  | .signed value => .object [("i64", .integer value)]
  | .unsigned value => .object [("u64", .natural value)]
  | .small value => .object [("i32", .integer value)]
  | .float value => .object [("f64", .number (.float value))]
  | .flag value => .object [("bool", .bool value)]

/-- Takes a value over for a field. Only texts, numbers and truth values can be. -/
def ofJson (field : String) (value : Json) : Except StoreError Bound :=
  match value with
  | .string content => .ok (.text content)
  | .bool state => .ok (.flag state)
  | .number (.integer number) =>
      if number ≤ greatest then .ok (.signed number) else .ok (.unsigned number.toNat)
  | .number (.float number) => .ok (.float number)
  | .number .signedZero => .ok (.signed 0)
  | .number (.infinite _) => .error (.unbindable field value.compact)
  | .null => .error (.unbindable field value.compact)
  | .array _ => .error (.unbindable field value.compact)
  | .object _ => .error (.unbindable field value.compact)

end Bound

inductive Condition where
  | equals (column : String) (value : Bound)
  | like (column : String) (pattern : String)
  | oneOf (column : String) (values : List Bound)
  | raw (sql : String) (values : List Bound)
deriving DecidableEq, Repr

namespace Condition

def column (entity : Entity) (field : String) : Except StoreError String :=
  if entity.hasColumn field then .ok field else .error (.unknownField entity.table field)

def rawField : String := "<raw>"

def ofPredicate (entity : Entity) : Predicate -> Except StoreError Condition
  | .equals field value => do
      let column ← column entity field
      return .equals column (← Bound.ofJson field value)
  | .like field pattern => do
      return .like (← column entity field) pattern
  | .oneOf field values => do
      let bound ← values.mapM (Bound.ofJson field)
      return .oneOf (← column entity field) bound
  | .raw sql values => do
      return .raw sql (← values.mapM (Bound.ofJson rawField))

/-- The conditions of predicates; the first predicate without one is reported. -/
def ofPredicates (entity : Entity) (predicates : List Predicate) :
    Except StoreError (List Condition) :=
  predicates.mapM (ofPredicate entity)

end Condition

structure Selection where
  source : String
  conditions : List Condition
  order : Option SortOrder
  offset : Option Nat
  limit : Option Nat
deriving DecidableEq, Repr

namespace Selection

/-- The limit of a query that has an offset only. -/
def unboundedLimit : Nat := Bound.greatest

def knownOrder (entity : Entity) : Option SortOrder -> Traced (Option SortOrder)
  | none => return none
  | some order =>
      if entity.hasColumn order.field then
        return some order
      else do
        Traced.report .warn "sort on unknown field ignored" [("field", order.field)]
        return none

def ofQuery (entity : Entity) (query : Query) : Attempt StoreError Selection := do
  let conditions ← Attempt.ofExcept (Condition.ofPredicates entity query.predicates)
  let order ← Attempt.ofTraced (knownOrder entity query.order)
  let limit :=
    match query.offset, query.limit with
    | _, some limit => some limit
    | some _, none => some unboundedLimit
    | none, none => none
  return ⟨query.source, conditions, order, query.offset, limit⟩

def filterOnly (entity : Entity) (query : Query) : Except StoreError Selection := do
  let conditions ← Condition.ofPredicates entity query.predicates
  return ⟨query.source, conditions, none, none, none⟩

end Selection
end GatedResources
