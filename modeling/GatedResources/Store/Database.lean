import GatedResources.Store.Table

/-!
# Databases

A database holds the tables that have been created.
-/

namespace GatedResources

structure Database where
  tables : List (String × Table)
deriving DecidableEq, Repr

namespace Database

def empty : Database := ⟨[]⟩

def backing (database : Database) (entity : Entity) : Backing :=
  database.tables.lookup entity.table

def withTable (name : String) (table : Table) : List (String × Table) -> List (String × Table)
  | [] => [(name, table)]
  | (held, existing) :: rest =>
      if held = name then (name, table) :: rest else (held, existing) :: withTable name table rest

def store (database : Database) (entity : Entity) : Backing -> Database
  | some table => ⟨withTable entity.table table database.tables⟩
  | none => ⟨database.tables.filter fun entry => entry.1 != entity.table⟩

/-- Creates the table of an entity unless it is there already. -/
def create (database : Database) (entity : Entity) : Database :=
  match database.backing entity with
  | some _ => database
  | none => database.store entity (some Table.empty)

def ofEntities (entities : List Entity) : Database :=
  entities.foldl create empty

end Database
end GatedResources
