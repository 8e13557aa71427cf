import GatedResources.Store.Database

/-!
# Tables side by side

Storing the table of an entity is read back, touches no table of another name, and changes
nothing when the table is the one that was there.
-/

namespace GatedResources
namespace Database

variable {database : Database} {entity other : Entity}

theorem lookup_with_table (name : String) (table : Table) (tables : List (String × Table)) :
    (withTable name table tables).lookup name = some table := by
  induction tables with
  | nil => simp [withTable]
  | cons entry rest claim =>
      obtain ⟨held, existing⟩ := entry
      unfold withTable
      by_cases same : held = name
      · simp [same]
      · rw [if_neg same, List.lookup_cons, beq_eq_false_iff_ne.mpr (Ne.symm same)]
        exact claim

theorem lookup_with_other {name wanted : String} (differs : wanted ≠ name) (table : Table)
    (tables : List (String × Table)) :
    (withTable name table tables).lookup wanted = tables.lookup wanted := by
  induction tables with
  | nil => simp [withTable, differs]
  | cons entry rest claim =>
      obtain ⟨held, existing⟩ := entry
      unfold withTable
      by_cases same : held = name
      · subst same
        rw [if_pos rfl, List.lookup_cons, List.lookup_cons, beq_eq_false_iff_ne.mpr differs]
      · rw [if_neg same, List.lookup_cons, List.lookup_cons, claim]

theorem with_table_present {name : String} {table : Table} {tables : List (String × Table)}
    (present : tables.lookup name = some table) : withTable name table tables = tables := by
  induction tables with
  | nil => cases present
  | cons entry rest claim =>
      obtain ⟨held, existing⟩ := entry
      unfold withTable
      rw [List.lookup_cons] at present
      by_cases same : held = name
      · subst same
        rw [beq_self_eq_true] at present
        cases present
        rw [if_pos rfl]
      · rw [beq_eq_false_iff_ne.mpr (Ne.symm same)] at present
        rw [if_neg same, claim present]

theorem lookup_filter (name wanted : String) (tables : List (String × Table)) :
    (tables.filter fun entry => entry.1 != name).lookup wanted =
      if wanted = name then none else tables.lookup wanted := by
  induction tables with
  | nil => simp
  | cons entry rest claim =>
      obtain ⟨held, existing⟩ := entry
      by_cases dropped : held = name
      · subst dropped
        rw [List.filter_cons_of_neg (by simp), claim, List.lookup_cons]
        by_cases same : wanted = held
        · rw [if_pos same, if_pos same]
        · rw [if_neg same, if_neg same, beq_eq_false_iff_ne.mpr same]
      · rw [List.filter_cons_of_pos (by simp [dropped]), List.lookup_cons, List.lookup_cons, claim]
        by_cases same : wanted = held
        · subst same
          rw [beq_self_eq_true, if_neg dropped, if_neg dropped]
        · rw [beq_eq_false_iff_ne.mpr same]

@[simp] theorem backing_store (database : Database) (entity : Entity) (backing : Backing) :
    (database.store entity backing).backing entity = backing := by
  cases backing with
  | none => exact (lookup_filter entity.table entity.table _).trans (if_pos rfl)
  | some table => exact lookup_with_table entity.table table database.tables

/-- Tables of other names stay as they are. -/
theorem backing_store_other (differs : other.table ≠ entity.table) (backing : Backing) :
    (database.store entity backing).backing other = database.backing other := by
  cases backing with
  | none => exact (lookup_filter entity.table other.table _).trans (if_neg differs)
  | some table => exact lookup_with_other differs table database.tables

theorem store_backing (database : Database) (entity : Entity) :
    database.store entity (database.backing entity) = database := by
  cases present : database.backing entity with
  | some table =>
      show Database.mk (withTable entity.table table database.tables) = database
      rw [with_table_present present]
  | none =>
      have kept : ∀ entry ∈ database.tables, (entry.1 != entity.table) = true := by
        intro entry member
        have other := List.lookup_eq_none_iff.mp present entry member
        rw [bne_iff_ne]
        intro same
        simp [same] at other
      show Database.mk (database.tables.filter fun entry => entry.1 != entity.table) = database
      rw [List.filter_eq_self.mpr kept]

end Database
end GatedResources
