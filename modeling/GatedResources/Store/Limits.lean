import GatedResources.Store.Expression
import GatedResources.Store.Condition

/-!
# The size of statements

The store takes statements up to a size only. How many values there are and how deep the
conditions nest is known before any record is read. A pattern is refused as too long when it
is to be matched with a record, and so only if a record gets that far.
-/

namespace GatedResources
namespace Sql

def greatestValues : Nat := 32766

def greatestDepth : Nat := 1000

def greatestPattern : Nat := 50000

end Sql

namespace Expression

/-- How deep the expression nests at most, in whatever order a chain of parts is joined. -/
def depth : Expression -> Nat
  | .column _ _ => 2
  | .literal _ => 2
  | .compare _ left right => max left.depth right.depth + 1
  | .conjunction left right => max left.depth 3 + max right.depth 3 - 2
  | .disjunction left right => max left.depth 3 + max right.depth 3 - 2
  | .negation inner => inner.depth + 1

end Expression

namespace Condition

def depth (entity : Entity) : Condition -> Nat
  | .oneOf _ [] => 2
  | .raw sql values =>
      match Expression.parse entity sql (values.map Bound.scalar) with
      | some expression => expression.depth
      | none => 0
  | _ => 3

def joinedDepth (entity : Entity) : List Condition -> Nat
  | [] => 0
  | first :: rest =>
      rest.foldl (fun depth condition => max depth (condition.depth entity) + 1)
        (first.depth entity)

def isOverlong : Condition -> Bool
  | .like _ pattern => Sql.greatestPattern < pattern.utf8ByteSize
  | _ => false

def isLookup (entity : Entity) : Condition -> Bool
  | .equals column _ => entity.keyColumn == column
  | .oneOf column _ => entity.keyColumn == column
  | _ => false

/-- Whether no record meets the condition, whatever it holds. -/
def isVacant : Condition -> Bool
  | .oneOf _ [] => true
  | _ => false

/-- The conditions in the order they are tested: first those that need no record to be read. -/
def inTurn (entity : Entity) (conditions : List Condition) : List Condition :=
  let early := fun condition : Condition => condition.isVacant || condition.isLookup entity
  conditions.filter early ++ conditions.filter fun condition => !early condition

end Condition

namespace Sql

def excess? (entity : Entity) (conditions : List Condition) (values : List Bound) :
    Option String :=
  if greatestValues < values.length then
    some "too many SQL variables"
  else if greatestDepth < Condition.joinedDepth entity conditions then
    some ("Expression tree is too large (maximum depth " ++ Decimal.natural greatestDepth ++ ")")
  else
    none

end Sql
end GatedResources
