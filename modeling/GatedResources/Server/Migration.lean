import GatedResources.Store.Database

/-!
# Migrations

The server's database is brought up to date by named steps, each of which can be undone.
-/

namespace GatedResources

structure Migration where
  name : String
  up : Database -> Database
  down : Database -> Database

namespace Migration

def createFaqs : Migration where
  name := "m20240101_000001_create_faqs"
  up := fun database => database.create Entity.faqs
  down := fun database => database.store Entity.faqs none

def all : List Migration := [createFaqs]

def applyAll (database : Database) : Database :=
  all.foldl (fun database migration => migration.up database) database

def revertAll (database : Database) : Database :=
  all.foldr (fun migration database => migration.down database) database

def refresh (database : Database) : Database :=
  applyAll (revertAll database)

end Migration
end GatedResources
