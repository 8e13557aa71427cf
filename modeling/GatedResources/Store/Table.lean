import GatedResources.Sql.Render
import GatedResources.Store.Like
import GatedResources.Store.Limits

/-!
# Tables and statements on them

A table holds records in the order they were inserted. Executing a statement either crashes
because a value cannot be handed over, or is refused, or answers. It may be refused for its size,
when it is prepared or while it goes through the records.
-/

namespace GatedResources

/-- The records of an entity, and the identifier the next one gets. -/
structure Table where
  records : List Record
  nextIdentifier : Nat
deriving DecidableEq, Repr

/-- A table that may not have been created. -/
abbrev Backing := Option Table

namespace Table

def empty : Table := ⟨[], 1⟩

end Table

namespace Condition

def affinityOf (entity : Entity) (column : String) : Affinity :=
  match entity.typeOf? column with
  | some type => type.affinity
  | none => .none

def hasValue (entity : Entity) (column : String) (value : Bound) (record : Record) : Bool :=
  (Scalar.ofCell (record.cell column)).equal
    (Scalar.adapted (affinityOf entity column) value.scalar)

def isLike (column pattern : String) (record : Record) : Bool :=
  match (Scalar.ofCell (record.cell column)).text? with
  | some text => Like.isMatch pattern.toList text.toList
  | none => false

/-- How a condition is tested on a record. SQL that is not a condition is refused. -/
def test (entity : Entity) : Condition -> Except StoreError (Record -> Bool)
  | .equals column value => .ok (hasValue entity column value)
  | .like column pattern => .ok (isLike column pattern)
  | .oneOf column values =>
      .ok fun record => values.any fun value => hasValue entity column value record
  | .raw sql values =>
      match Expression.parse entity sql (values.map Bound.scalar) with
      | some expression => .ok expression.holds
      | none => .error (.database ("near \"" ++ sql ++ "\": syntax error"))

def testAll (entity : Entity) (conditions : List Condition) :
    Except StoreError (Record -> Bool) := do
  let tests ← conditions.mapM (test entity)
  return fun record => tests.all fun test => test record

def isMet (entity : Entity) (condition : Condition) (record : Record) : Bool :=
  match test entity condition with
  | .ok holds => holds record
  | .error _ => false

/-- Whether testing a record in turn, up to the first condition that does not hold, comes to a
pattern that is too long. -/
def comesToOverlong (entity : Entity) (record : Record) : List Condition -> Bool
  | [] => false
  | condition :: rest =>
      condition.isOverlong || (condition.isMet entity record && comesToOverlong entity record rest)

def interruption? (entity : Entity) (conditions : List Condition) (records : List Record) :
    Option String :=
  let turns := inTurn entity conditions
  if records.any fun record => comesToOverlong entity record turns then
    some "LIKE or GLOB pattern too complex"
  else
    none

end Condition

namespace Backing

/-- Puts a statement to the database. Its values must be storable, it must not be too large, the
table must exist and the conditions must be valid. Then the conditions are tested on the records
that are read, and the answer is made from the table and the test. -/
def execute {α : Type} (entity : Entity) (backing : Backing) (statement : Sql.Statement)
    (conditions : List Condition) (read : Table -> List Record)
    (answer : Table -> (Record -> Bool) -> α) : Outcome StoreError α :=
  match Sql.render statement with
  | none => .crashed
  | some rendered =>
      if rendered.values.all Bound.isStorable then
        match Sql.excess? entity conditions rendered.values with
        | some reason => .failed (.database reason)
        | none =>
            match backing with
            | none => .failed (.database ("no such table: " ++ entity.table))
            | some table =>
                match Condition.testAll entity conditions with
                | .error error => .failed error
                | .ok holds =>
                    match Condition.interruption? entity conditions (read table) with
                    | some reason => .failed (.database reason)
                    | none => .done (answer table holds)
      else
        .crashed

end Backing

namespace SortOrder

def allows (order : SortOrder) (first second : Record) : Bool :=
  let cell := fun record : Record => Scalar.ofCell (record.cell order.field)
  let compared := (cell first).order (cell second)
  match order.direction with
  | .ascending => compared != .gt
  | .descending => compared != .lt

/-- Sorts records; records that compare equal stay as they were. -/
def sort (order : SortOrder) (records : List Record) : List Record :=
  records.mergeSort order.allows

end SortOrder

/-- Records as the store comes to them: in the order of their key where conditions look it up. -/
def Condition.visited (entity : Entity) (conditions : List Condition) (records : List Record) :
    List Record :=
  match entity.key with
  | .assigned => records
  | .supplied column =>
      if conditions.any (isLookup entity) then SortOrder.sort ⟨column, .ascending⟩ records
      else records

namespace Selection

def page (selection : Selection) (records : List Record) : List Record :=
  let sorted :=
    match selection.order with
    | some order => order.sort records
    | none => records
  let rest := sorted.drop (selection.offset.getD 0)
  match selection.limit with
  | some limit => rest.take limit
  | none => rest

/-- The records that are read; for an empty page there are none. -/
def read (selection : Selection) (table : Table) : List Record :=
  if selection.limit = some 0 then [] else table.records

def run (entity : Entity) (backing : Backing) (selection : Selection) :
    Outcome StoreError (List Record) :=
  backing.execute entity (Sql.select entity selection) selection.conditions selection.read
    fun table holds =>
      selection.page (Condition.visited entity selection.conditions (table.records.filter holds))

def count (entity : Entity) (backing : Backing) (selection : Selection) :
    Outcome StoreError Nat :=
  backing.execute entity (Sql.select entity selection) selection.conditions Table.records
    fun table holds => (table.records.filter holds).length

end Selection
end GatedResources
