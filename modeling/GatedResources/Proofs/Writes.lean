import GatedResources.Proofs.RecordDecoding
import GatedResources.Proofs.Statements
import GatedResources.Store.Operations

/-!
# What writing does to a table

Each writing operation of the store either leaves its backing alone or changes it in one way of
its own: an insertion appends a record, an update overwrites the records of one identifier, a
deletion keeps the records that fail a test. Nothing else can come out of them, so invariants of
tables need only be checked on these changes.
-/

namespace GatedResources

namespace Table

def without (holds : Record -> Bool) (table : Table) : Table :=
  { table with records := table.records.filter fun record => !holds record }

theorem without_none {holds : Record -> Bool} {table : Table}
    (none : table.records.filter holds = []) : table.without holds = table := by
  have all : (table.records.filter fun record => !holds record) = table.records := by
    rw [List.filter_eq_self]
    intro record member
    have fails := List.filter_eq_nil_iff.mp none record member
    simpa using fails
  unfold without
  rw [all]

theorem without_false (table : Table) : (table.without fun _ => false) = table :=
  without_none (List.filter_eq_nil_iff.mpr fun _ _ => Bool.false_ne_true)

theorem without_congr {table : Table} {holds others : Record -> Bool}
    (same : ∀ record ∈ table.records, holds record = others record) :
    table.without holds = table.without others := by
  unfold without
  rw [List.filter_congr fun record member => congrArg not (same record member)]

theorem without_without (table : Table) (first second : Record -> Bool) :
    (table.without first).without second =
      table.without fun record => first record || second record := by
  unfold without
  rw [List.filter_filter]
  simp only [Bool.not_or, Bool.and_comm]

theorem without_twice (table : Table) (holds : Record -> Bool) :
    (table.without holds).records.filter holds = [] ∧
      (table.without holds).without holds = table.without holds := by
  unfold without
  constructor
  · rw [List.filter_filter, List.filter_eq_nil_iff]
    intro record _
    cases holds record <;> simp
  · rw [List.filter_filter]
    simp only [Bool.and_self]

end Table

theorem Steps.doing_eq_done {ε α β : Type} {first : Attempt ε α} {next : α -> Steps ε β}
    {backing : Backing} {answer : β × Backing} :
    ((doing first >>= next).run backing).outcome = .done answer ↔
      ∃ value, first.outcome = .done value ∧
        ((next value).run backing).outcome = .done answer := by
  rw [run_doing, Attempt.outcome_bind]
  exact Outcome.bind_eq_done

namespace Store

variable {entity : Entity} {backing after : Backing}

def keptFields (entity : Entity) (fields : List (String × Json)) : List (String × Json) :=
  fields.filter fun field => field.1 != identifierField && entity.hasColumn field.1

theorem known_fields_value (entity : Entity) (fields : List (String × Json)) :
    (knownFields entity fields).value = keptFields entity fields := by
  induction fields with
  | nil => rfl
  | cons field rest claim =>
      obtain ⟨key, value⟩ := field
      unfold knownFields keptFields
      by_cases known : (key != identifierField && entity.hasColumn key) = true
      · rw [if_pos known, List.filter_cons, if_pos known, Traced.value_bind, Traced.value_pure,
          claim]
        rfl
      · rw [if_neg known, List.filter_cons, if_neg known, Traced.value_bind, claim]
        rfl

theorem read_members_entries (entity : Entity) (fields : List (String × Json))
    (start given : List (String × Cell))
    (read : (inputShape entity).readMembers .request fields start = .ok given) :
    ∀ entry ∈ given, entry ∈ start ∨ ∃ column ∈ entity.body, ∃ value,
      column.name = entry.1 ∧ (entry.1, value) ∈ fields ∧
        column.decoder .request value = .ok entry.2 := by
  induction fields generalizing start with
  | nil =>
      intro entry member
      cases read
      exact .inl member
  | cons field rest claim =>
      obtain ⟨key, value⟩ := field
      intro entry member
      have later : ∀ {start : List (String × Cell)},
          (inputShape entity).readMembers .request rest start = .ok given → entry ∈ start ∨
            ∃ column ∈ entity.body, ∃ own, column.name = entry.1 ∧
              (entry.1, own) ∈ (key, value) :: rest ∧
              column.decoder .request own = .ok entry.2 := by
        intro start read
        refine (claim start read entry member).imp_right ?_
        rintro ⟨column, inBody, own, named, inside, decoded⟩
        exact ⟨column, inBody, own, named, List.mem_cons_of_mem _ inside, decoded⟩
      unfold Shape.readMembers at read
      cases found : (inputShape entity).members.find? fun known => known.name == key with
      | none =>
          rw [found] at read
          exact later read
      | some known =>
          rw [found] at read
          obtain ⟨next, taken, continued⟩ := except_bind_eq_ok.mp read
          have named : known.name = key := by
            have same := List.find?_some found
            exact eq_of_beq same
          obtain ⟨column, inBody, built⟩ := List.mem_map.mp (List.mem_of_find?_eq_some found)
          subst built
          obtain ⟨cell, decoded, put⟩ := except_bind_eq_ok.mp taken
          cases put
          rcases later continued with held | other
          · rcases List.mem_append.mp held with before | added
            · exact .inl before
            · have same := List.mem_singleton.mp added
              subst same
              refine .inr ⟨column, inBody, value, rfl, ?_, ?_⟩
              · rw [← named]
                exact List.mem_cons_self
              · exact under_key_eq_ok.mp decoded
          · exact .inr other

/-- What an input gives are values of body columns, each read from a member of the input. -/
theorem read_input_entries {fields : List (String × Json)} {given : List (String × Cell)}
    (read : readInput entity fields = .ok given) :
    ∀ entry ∈ given, ∃ column ∈ entity.body, ∃ value, column.name = entry.1 ∧
      (entry.1, value) ∈ fields ∧ column.decoder .request value = .ok entry.2 := by
  have decoded : (inputShape entity).decode .request (.object fields) = .ok given := by
    unfold readInput at read
    split at read
    · cases read
      assumption
    · cases read
  obtain ⟨result, taken, finished⟩ := except_bind_eq_ok.mp decoded
  have same : result = given := by
    split at finished
    · cases finished
    · cases finished
      rfl
  subst same
  intro entry member
  exact (read_members_entries entity _ _ _ taken entry member).resolve_left List.not_mem_nil

theorem read_input_without_identifier {fields : List (String × Json)}
    {given : List (String × Cell)}
    (read : readInput entity (keptFields entity fields) = .ok given) :
    given.lookup identifierField = none := by
  rw [List.lookup_eq_none_iff]
  intro entry member
  obtain ⟨_, _, value, _, kept, _⟩ := read_input_entries read entry member
  have known := (List.mem_filter.mp kept).2
  simp only [Bool.and_eq_true, bne_iff_ne, ne_eq] at known
  simpa using Ne.symm known.1

theorem insert_outcome (entity : Entity) (backing : Backing) (fields : List (String × Json)) :
    (insert entity backing fields).outcome =
      Outcome.ofExcept (readInput entity (keptFields entity fields)) >>= fun given =>
        match backing with
        | none => .failed (.database ("no such table: " ++ entity.table))
        | some table => Outcome.ofExcept (insertInto entity table given) >>= fun added =>
            .done (added.1, some added.2) := by
  unfold insert inserting
  rw [Steps.run_doing, Attempt.outcome_bind, Attempt.outcome_of_traced, Outcome.done_bind,
    known_fields_value, Steps.run_doing, Attempt.outcome_bind, Attempt.outcome_of_except]
  apply congrArg (Outcome.ofExcept _ >>= ·)
  funext given
  rw [Steps.outcome_writing]
  cases backing with
  | none => rfl
  | some table => exact Attempt.outcome_bind _ _

/-- An insertion that succeeds has read the kept members of its input, and its backing is a
table that has taken the record. -/
theorem insert_eq_done {fields : List (String × Json)} {record : Record}
    (inserted : (insert entity backing fields).outcome = .done (record, after)) :
    ∃ table given grown, backing = some table ∧
      readInput entity (keptFields entity fields) = .ok given ∧
      insertInto entity table given = .ok (record, grown) ∧ after = some grown := by
  rw [insert_outcome] at inserted
  obtain ⟨given, read, inserted⟩ := Outcome.bind_eq_done.mp inserted
  rw [Outcome.of_except_eq_done] at read
  cases backing with
  | none => cases inserted
  | some table =>
      obtain ⟨⟨added, grown⟩, taken, finished⟩ := Outcome.bind_eq_done.mp inserted
      rw [Outcome.of_except_eq_done] at taken
      cases finished
      exact ⟨table, given, grown, rfl, read, taken, rfl⟩

/-- A table of numbered records takes a record at its end, under the next identifier. -/
theorem insert_into_assigned {table grown : Table} {given : List (String × Cell)}
    {record : Record} (assigned : entity.key = .assigned)
    (taken : insertInto entity table given = .ok (record, grown)) :
    ∃ body, entity.body.mapM (newCell given) = .ok body ∧
      record = (identifierField, .integer table.nextIdentifier) :: body ∧
      grown = ⟨table.records ++ [record], table.nextIdentifier + 1⟩ := by
  unfold insertInto at taken
  obtain ⟨body, made, finished⟩ := except_bind_eq_ok.mp taken
  rw [assigned] at finished
  cases finished
  exact ⟨body, made, rfl, rfl⟩

/-- A table with a key of its records takes one whose key it does not hold. -/
theorem insert_into_supplied {table grown : Table} {given : List (String × Cell)}
    {record : Record} {column : String} (supplied : entity.key = .supplied column)
    (taken : insertInto entity table given = .ok (record, grown)) :
    entity.body.mapM (newCell given) = .ok record ∧
      (∀ held ∈ table.records, held.cell column ≠ record.cell column) ∧
      grown = ⟨table.records ++ [record], table.nextIdentifier⟩ := by
  unfold insertInto at taken
  obtain ⟨body, made, finished⟩ := except_bind_eq_ok.mp taken
  rw [supplied] at finished
  dsimp only at finished
  split at finished
  · cases finished
  · next unique =>
      cases finished
      refine ⟨made, ?_, rfl⟩
      intro held member same
      exact unique (List.any_eq_true.mpr ⟨held, member, beq_iff_eq.mpr same⟩)

theorem update_outcome (entity : Entity) (backing : Backing) (identifier : Int)
    (patch : List (String × Json)) :
    (update entity backing identifier patch).outcome =
      (findById entity backing identifier).outcome >>= fun found =>
        match found with
        | none => .done (none, backing)
        | some existing =>
            if (keptFields entity patch).isEmpty then .done (some existing, backing)
            else Outcome.ofExcept (readInput entity (keptFields entity patch)) >>= fun given =>
              .done (some (overwrite given existing),
                backing.map (replaceById identifier given)) := by
  unfold update updating
  rw [Steps.run_reading, Attempt.outcome_bind]
  apply congrArg ((findById entity backing identifier).outcome >>= ·)
  funext found
  cases found with
  | none => rfl
  | some existing =>
      dsimp only
      rw [Steps.run_doing, Attempt.outcome_bind, Attempt.outcome_of_traced, Outcome.done_bind,
        known_fields_value]
      split
      · rfl
      · rw [Steps.run_doing, Attempt.outcome_bind, Attempt.outcome_of_except]
        rfl

/-- An update that succeeds has found no record, or has found one and nothing to change, or has
overwritten the records of its identifier with what it read. -/
theorem update_eq_done {identifier : Int} {patch : List (String × Json)}
    {result : Option Record}
    (updated : (update entity backing identifier patch).outcome = .done (result, after)) :
    ((findById entity backing identifier).outcome = .done none ∧ result = none ∧
        after = backing) ∨
      ∃ existing, (findById entity backing identifier).outcome = .done (some existing) ∧
        ((keptFields entity patch = [] ∧ result = some existing ∧ after = backing) ∨
          ∃ given, keptFields entity patch ≠ [] ∧
            readInput entity (keptFields entity patch) = .ok given ∧
            result = some (overwrite given existing) ∧
            after = backing.map (replaceById identifier given)) := by
  rw [update_outcome] at updated
  obtain ⟨found, sought, updated⟩ := Outcome.bind_eq_done.mp updated
  cases found with
  | none =>
      cases updated
      exact .inl ⟨sought, rfl, rfl⟩
  | some existing =>
      refine .inr ⟨existing, sought, ?_⟩
      dsimp only at updated
      by_cases nothing : (keptFields entity patch).isEmpty = true
      · rw [if_pos nothing] at updated
        cases updated
        exact .inl ⟨List.isEmpty_iff.mp nothing, rfl, rfl⟩
      · rw [if_neg nothing] at updated
        obtain ⟨given, read, finished⟩ := Outcome.bind_eq_done.mp updated
        rw [Outcome.of_except_eq_done] at read
        cases finished
        have something : keptFields entity patch ≠ [] := by
          intro empty
          exact nothing (List.isEmpty_iff.mpr empty)
        exact .inr ⟨given, something, read, rfl, rfl⟩

theorem delete_where_outcome {predicates : List Predicate} (nonempty : predicates ≠ [])
    (backing : Backing) :
    (deleteWhere entity backing predicates).outcome =
      Outcome.ofExcept (Condition.ofPredicates entity predicates) >>= fun conditions =>
        backing.execute entity (Sql.deleteWhere entity entity.table conditions) conditions
          Table.records fun table holds =>
            ((table.records.filter holds).length, some (table.without holds)) := by
  have something : ¬predicates.isEmpty = true := by
    intro empty
    exact nonempty (List.isEmpty_iff.mp empty)
  unfold deleteWhere deletingWhere
  rw [if_neg something, Steps.run_doing, Attempt.outcome_bind, Attempt.outcome_of_except]
  apply congrArg (Outcome.ofExcept _ >>= ·)
  funext conditions
  rw [Steps.run_writing, Attempt.outcome_bind, Attempt.outcome_of_outcome]
  -- The report after the statement changes nothing.
  exact Outcome.bind_done _

/-- A deletion that succeeds had no predicate and left everything, or has taken away the records
that meet a test and counted them. -/
theorem delete_where_eq_done {predicates : List Predicate} {affected : Nat}
    (deleted : (deleteWhere entity backing predicates).outcome = .done (affected, after)) :
    (predicates = [] ∧ affected = 0 ∧ after = backing) ∨
      ∃ table conditions holds, backing = some table ∧
        Condition.ofPredicates entity predicates = .ok conditions ∧
        Condition.testAll entity conditions = .ok holds ∧
        affected = (table.records.filter holds).length ∧ after = some (table.without holds) := by
  by_cases nothing : predicates = []
  · subst nothing
    cases deleted
    exact .inl ⟨rfl, rfl, rfl⟩
  · rw [delete_where_outcome nothing] at deleted
    obtain ⟨conditions, formed, executed⟩ := Outcome.bind_eq_done.mp deleted
    rw [Outcome.of_except_eq_done] at formed
    obtain ⟨_, held, holds, _, _, _, present, valid, _, same⟩ :=
      Backing.execute_eq_done.mp executed
    cases same
    exact .inr ⟨held, conditions, holds, present, formed, valid, rfl, rfl⟩

end Store
end GatedResources
