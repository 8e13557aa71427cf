import GatedResources.Query.Page
import GatedResources.Store.Steps

/-!
# Operations of the store

Reading operations answer from a backing. Writing operations are steps; run as a whole they answer
the new backing beside their result.
-/

namespace GatedResources
namespace Store

def findMany (entity : Entity) (backing : Backing) (query : Query) :
    Attempt StoreError (List Record) := do
  let selection ← Selection.ofQuery entity query
  let records ← Attempt.ofOutcome (selection.run entity backing)
  Attempt.report .debug "fetched" [("rows", Decimal.natural records.length)]
  return records

/-- The records of a query, and how many there are without order and bounds. -/
def findPage (entity : Entity) (backing : Backing) (query : Query) :
    Attempt StoreError (Page Record) := do
  let selection ← Selection.ofQuery entity query
  let records ← Attempt.ofOutcome (selection.run entity backing)
  let filtered ← Attempt.ofExcept (Selection.filterOnly entity query)
  let count ← Attempt.ofOutcome (filtered.count entity backing)
  Attempt.report .debug "fetched page"
    [("rows", Decimal.natural records.length), ("count", Decimal.natural count)]
  return ⟨records, count⟩

def findById (entity : Entity) (backing : Backing) (identifier : Int) :
    Attempt StoreError (Option Record) := do
  let column ← Attempt.ofExcept (Condition.column entity identifierField)
  let conditions := [Condition.equals column (.signed identifier)]
  let statement := Sql.select entity ⟨entity.table, conditions, none, none, none⟩
  Attempt.ofOutcome (backing.execute entity statement conditions Table.records
    fun table holds => table.records.find? holds)

def knownFields (entity : Entity) : List (String × Json) -> Traced (List (String × Json))
  | [] => return []
  | (key, value) :: rest => do
      if key != identifierField && entity.hasColumn key then
        return (key, value) :: (← knownFields entity rest)
      else
        Traced.report .debug "dropping field" [("table", entity.table), ("field", key)]
        knownFields entity rest

def inputShape (entity : Entity) : Shape (List (String × Cell)) where
  label := "Model"
  closed := false
  initial := []
  members := entity.body.map fun column =>
    Member.of column.name (if column.required then .required else .defaulted) column.decoder
      fun cell given => given ++ [(column.name, cell)]

def readInput (entity : Entity) (fields : List (String × Json)) :
    Except StoreError (List (String × Cell)) :=
  match (inputShape entity).decode .request (.object fields) with
  | .ok given => .ok given
  | .error fault => .error (.decode ("Json Error: " ++ fault.requestMessage))

def newCell (given : List (String × Cell)) (column : Column) : Except StoreError (String × Cell) :=
  match (given.lookup column.name).or column.initial with
  | some cell => .ok (column.name, cell)
  | none => .error (.database ("NOT NULL constraint failed: " ++ column.name))

def insertInto (entity : Entity) (table : Table) (given : List (String × Cell)) :
    Except StoreError (Record × Table) := do
  let body ← entity.body.mapM (newCell given)
  match entity.key with
  | .assigned =>
      let record := (identifierField, Cell.integer table.nextIdentifier) :: body
      return (record, ⟨table.records ++ [record], table.nextIdentifier + 1⟩)
  | .supplied column =>
      let value := Record.cell body column
      if table.records.any fun record => record.cell column == value then
        .error (.database ("UNIQUE constraint failed: " ++ entity.table ++ "." ++ column))
      else
        return (body, ⟨table.records ++ [body], table.nextIdentifier⟩)

def inserting (entity : Entity) (fields : List (String × Json)) : Steps StoreError Record := do
  let fields ← Steps.doing (Attempt.ofTraced (knownFields entity fields))
  let given ← Steps.doing (Attempt.ofExcept (readInput entity fields))
  Steps.writing fun backing =>
    match backing with
    | none => Attempt.fail (.database ("no such table: " ++ entity.table))
    | some table => do
        let (record, table) ← Attempt.ofExcept (insertInto entity table given)
        return (record, some table)

def insert (entity : Entity) (backing : Backing) (fields : List (String × Json)) :
    Attempt StoreError (Record × Backing) :=
  (inserting entity fields).run backing

def overwrite (given : List (String × Cell)) (record : Record) : Record :=
  record.map fun field => (field.1, (given.lookup field.1).getD field.2)

def replaceById (identifier : Int) (given : List (String × Cell)) (table : Table) : Table :=
  { table with
    records := table.records.map fun record =>
      if record.identifier? = some identifier then overwrite given record else record }

/-- Changes the record with an identifier, if there is one. -/
def updating (entity : Entity) (identifier : Int) (patch : List (String × Json)) :
    Steps StoreError (Option Record) := do
  match ← Steps.reading fun backing => findById entity backing identifier with
  | none => return none
  | some existing => do
      let fields ← Steps.doing (Attempt.ofTraced (knownFields entity patch))
      if fields.isEmpty then
        return some existing
      else
        let given ← Steps.doing (Attempt.ofExcept (readInput entity fields))
        Steps.writing fun backing =>
          return (some (overwrite given existing), backing.map (replaceById identifier given))

def update (entity : Entity) (backing : Backing) (identifier : Int)
    (patch : List (String × Json)) : Attempt StoreError (Option Record × Backing) :=
  (updating entity identifier patch).run backing

/-- Removes the records that meet all predicates and answers how many. Without a predicate
nothing is removed. -/
def deletingWhere (entity : Entity) (predicates : List Predicate) : Steps StoreError Nat :=
  if predicates.isEmpty then do
    Steps.doing (Attempt.report .warn "refusing unrestricted delete" [])
    return 0
  else do
    let conditions ← Steps.doing (Attempt.ofExcept (Condition.ofPredicates entity predicates))
    let statement := Sql.deleteWhere entity entity.table conditions
    let affected ← Steps.writing fun backing => Attempt.ofOutcome
      (backing.execute entity statement conditions Table.records fun table holds =>
        ((table.records.filter holds).length,
          some { table with records := table.records.filter fun record => !holds record }))
    Steps.doing (Attempt.report .debug "deleted" [("affected", Decimal.natural affected)])
    return affected

def deleteWhere (entity : Entity) (backing : Backing) (predicates : List Predicate) :
    Attempt StoreError (Nat × Backing) :=
  (deletingWhere entity predicates).run backing

def deletingById (entity : Entity) (identifier : Int) : Steps StoreError Nat :=
  deletingWhere entity [.equals identifierField (.integer identifier)]

def deleteById (entity : Entity) (backing : Backing) (identifier : Int) :
    Attempt StoreError (Nat × Backing) :=
  (deletingById entity identifier).run backing

end Store
end GatedResources
