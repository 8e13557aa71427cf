import GatedResources.Proofs.GivenValues
import GatedResources.Proofs.StoreRuns

/-!
# Inserted records

An insertion puts one record behind those that are there, with a value for each column from the
input or, where the input has none, from the table. From then on the record is found by its
identifier as it was answered, whatever calls are put to the store, until one of them updates or
removes it.
-/

namespace GatedResources

def Record.meets (entity : Entity) (predicates : List Predicate) (record : Record) : Bool :=
  match Condition.ofPredicates entity predicates >>= Condition.testAll entity with
  | .ok holds => holds record
  | .error _ => false

theorem Record.meets_tested {entity : Entity} {predicates : List Predicate}
    {conditions : List Condition} {holds : Record -> Bool}
    (formed : Condition.ofPredicates entity predicates = .ok conditions)
    (tested : Condition.testAll entity conditions = .ok holds) (record : Record) :
    record.meets entity predicates = holds record := by
  unfold meets
  rw [except_bind_eq_ok.mpr ⟨conditions, formed, tested⟩]

namespace StoreCall

def isFor (entity : Entity) (record : Record) : StoreCall -> Bool
  | .update identifier _ | .deleteById identifier => record.identifier? = some identifier
  | .deleteWhere predicates => !predicates.isEmpty && record.meets entity predicates
  | .insert _ | .findById _ | .findMany _ | .findPage _ => false

/-- Whether a call is answered that is an update or a removal of a record. -/
def touches (entity : Entity) (record : Record) (backing : Backing) (call : StoreCall) : Bool :=
  match ((call.steps entity).run backing).1 with
  | .done _ => call.isFor entity record
  | .failed _ | .crashed => false

def runTouches (entity : Entity) (record : Record) : Backing -> List StoreCall -> Bool
  | _, [] => false
  | backing, call :: rest =>
      call.touches entity record backing ||
        runTouches entity record ((call.steps entity).run backing).2 rest

end StoreCall

namespace Store

variable {entity : Entity} {table : Table} {fields : List (String × Json)}

section Identifiers

variable (assigned : entity.key = .assigned)

include assigned

theorem equals_identifier {record : Record} {held : Int} (own : record.identifier? = some held)
    (identifier : Int) :
    record.equalsValue entity identifierField (.integer identifier) =
      decide (record.identifier? = some identifier) := by
  rw [← has_identifier assigned own]
  exact (Condition.has_value_scalar rfl record).symm

theorem identifier_holds (identified : table.IsIdentified) {record : Record}
    (member : record ∈ table.records) (identifier : Int) :
    Predicate.allHold entity [.equals identifierField (.integer identifier)] record =
      decide (record.identifier? = some identifier) := by
  obtain ⟨held, own⟩ := identified record member
  exact (Bool.and_true _).trans (equals_identifier assigned own identifier)

/-- What a removal by identifier leaves, if it is answered. -/
theorem delete_by_id_eq_done (identified : table.IsIdentified) {identifier : Int} {count : Nat}
    {after : Backing}
    (deleted : (deleteById entity (some table) identifier).outcome = .done (count, after)) :
    after = some (table.without fun record => decide (record.identifier? = some identifier)) := by
  obtain ⟨impossible, _⟩ | ⟨_, conditions, holds, present, formed, tested, _, left⟩ :=
    delete_where_eq_done deleted
  · cases impossible
  cases present
  obtain ⟨_, made, _, testedToo⟩ :=
    Condition.of_predicates_sound (identifier_sound assigned identifier)
  cases formed.symm.trans made
  cases tested.symm.trans testedToo
  rw [left]
  apply congrArg some
  apply Table.without_congr
  intro record member
  exact identifier_holds assigned identified member identifier

end Identifiers

/-! ## What an insertion adds -/

theorem insert_kept_eq {others : List (String × Json)}
    (same : keptFields entity others = keptFields entity fields) (backing : Backing) :
    (insert entity backing others).outcome = (insert entity backing fields).outcome := by
  rw [insert_outcome, insert_outcome, same]

theorem insert_typed {record : Record} {after : Backing}
    (inserted : (insert entity (some table) fields).outcome = .done (record, after)) :
    ∀ field ∈ keptFields entity fields, entity.hasType field = true := by
  obtain ⟨_, given, _, _, read, _⟩ := insert_eq_done inserted
  have takes := read_input_iff.mp ⟨given, read⟩
  exact List.all_eq_true.mp (Bool.and_eq_true_iff.mp takes).1

/-- A new record stands behind the others under the next identifier. It has what the input gives
its columns, and what the table has for the others. -/
theorem insert_adds (assigned : entity.key = .assigned)
    {record : Record} {after : Backing}
    (inserted : (insert entity (some table) fields).outcome = .done (record, after)) :
    after = some ⟨table.records ++ [record], table.nextIdentifier + 1⟩ ∧
      record.map Prod.fst = entity.columnNames ∧
      record.identifier? = some (table.nextIdentifier : Int) ∧
      ∀ column ∈ entity.body,
        (valueGiven? entity fields column.name).or column.initial =
          some (record.cell column.name) := by
  obtain ⟨_, given, grown, present, read, taken, same⟩ := insert_eq_done inserted
  cases present
  obtain ⟨body, made, shape, grownIs⟩ := insert_into_assigned assigned taken
  obtain ⟨names, cells⟩ := new_body_cells entity.distinct made
  subst shape grownIs
  refine ⟨same, ?_, by simp [Record.identifier?], ?_⟩
  · rw [Entity.columnNames, assigned, List.map_cons, names]
  · intro column member
    obtain ⟨cell, chosen, own⟩ := new_cell_eq_ok.mp (cells column member)
    have differs : column.name ≠ identifierField := by
      intro same
      exact entity.unnumbered (List.mem_map.mpr ⟨column, member, same⟩)
    rw [read_input_lookup read] at chosen
    rw [chosen, Record.cell, lookup_cons_other differs]
    exact congrArg some (Prod.mk.inj own).2.symm

end Store

/-! ## Calls that come later -/

def Backing.Holds (record : Record) (backing : Backing) : Prop :=
  ∃ table, backing = some table ∧ record ∈ table.records

theorem Autocommit.Whole.holds {ε α : Type} {steps : Autocommit ε α}
    {operation : Backing -> Attempt ε (α × Backing)} (whole : steps.Whole operation)
    {record : Record} {backing : Backing} (held : Backing.Holds record backing)
    (spares : ∀ value after, (operation backing).outcome = .done (value, after) →
      Backing.Holds record after) : Backing.Holds record (steps.run backing).2 := by
  rw [whole]
  cases ended : (operation backing).outcome with
  | done answer => exact spares answer.1 answer.2 ended
  | failed error => exact held
  | crashed => exact held

namespace StoreCall

variable {entity : Entity} {table after : Table} {record : Record}

/-- A table of numbered records stays one, whatever is done to it. -/
theorem Effect.numbered {call : StoreCall} {ended : Outcome StoreError StoreAnswer}
    (assigned : entity.key = .assigned) (numbered : table.Numbered)
    (effect : call.Effect entity table ended after) : after.Numbered := by
  cases effect with
  | unchanged _ => exact numbered
  | inserted _ _ taken =>
      obtain ⟨body, _, shape, same⟩ := Store.insert_into_assigned assigned taken
      rw [same, shape]
      exact numbered.append body
  | replaced _ _ kept => exact numbered.replace _ kept
  | removed _ => exact numbered.without _

theorem update_spares {identifier : Int} {patch : List (String × Json)} {found : Option Record}
    {left : Backing} (member : record ∈ table.records)
    (other : record.identifier? ≠ some identifier)
    (updated : (Store.update entity (some table) identifier patch).outcome = .done (found, left)) :
    Backing.Holds record left := by
  rcases Store.update_eq_done updated with ⟨_, _, same⟩ | ⟨_, _, ⟨_, _, same⟩ | changed⟩
  · exact ⟨table, same, member⟩
  · exact ⟨table, same, member⟩
  · obtain ⟨given, _, _, _, same⟩ := changed
    refine ⟨_, same, List.mem_map.mpr ⟨record, member, ?_⟩⟩
    exact if_neg other

theorem removal_spares {predicates : List Predicate} {count : Nat} {left : Backing}
    (member : record ∈ table.records)
    (spared : (!predicates.isEmpty && record.meets entity predicates) = false)
    (deleted : (Store.deleteWhere entity (some table) predicates).outcome = .done (count, left)) :
    Backing.Holds record left := by
  cases predicates with
  | nil =>
      cases deleted
      exact ⟨table, rfl, member⟩
  | cons first rest =>
      obtain ⟨impossible, _⟩ | ⟨_, conditions, holds, present, formed, tested, _, same⟩ :=
        Store.delete_where_eq_done deleted
      · cases impossible
      cases present
      have fails : record.meets entity (first :: rest) = false := spared
      rw [Record.meets_tested formed tested] at fails
      refine ⟨_, same, List.mem_filter.mpr ⟨member, ?_⟩⟩
      rw [fails, Bool.not_false]

/-- A call that does not touch a record leaves it in the table. -/
theorem steps_spare (assigned : entity.key = .assigned) (identified : table.IsIdentified)
    (member : record ∈ table.records) {call : StoreCall}
    (untouched : call.touches entity record (some table) = false) :
    Backing.Holds record ((call.steps entity).run (some table)).2 := by
  have held : Backing.Holds record (some table) := ⟨table, rfl, member⟩
  cases call with
  | insert fields =>
      rw [steps, Autocommit.run_map]
      apply (Autocommit.insert_whole fields).holds held
      intro added left inserted
      obtain ⟨_, given, grown, present, _, taken, same⟩ := Store.insert_eq_done inserted
      cases present
      obtain ⟨_, _, _, grownIs⟩ := Store.insert_into_assigned assigned taken
      subst grownIs
      exact ⟨_, same, List.mem_append_left _ member⟩
  | update identifier patch =>
      rw [steps, Autocommit.run_map]
      apply (Autocommit.update_whole identifier patch).holds held
      intro found left updated
      apply update_spares member _ updated
      rw [touches, steps, Autocommit.run_map, Autocommit.update_whole, updated] at untouched
      exact of_decide_eq_false untouched
  | deleteWhere predicates =>
      rw [steps, Autocommit.run_map]
      apply (Autocommit.delete_where_whole predicates).holds held
      intro count left deleted
      apply removal_spares member _ deleted
      rw [touches, steps, Autocommit.run_map, Autocommit.delete_where_whole, deleted] at untouched
      exact untouched
  | deleteById identifier =>
      rw [steps, Autocommit.run_map]
      apply (Autocommit.delete_by_id_whole identifier).holds held
      intro count left deleted
      rw [touches, steps, Autocommit.run_map, Autocommit.delete_by_id_whole, deleted] at untouched
      have other : decide (record.identifier? = some identifier) = false := untouched
      refine ⟨_, Store.delete_by_id_eq_done assigned identified deleted, ?_⟩
      exact List.mem_filter.mpr ⟨member, congrArg not other⟩
  | findById identifier | findMany query | findPage query =>
      rw [steps, Autocommit.run_map]
      exact held

/-- As long as no call touches a record, it is found as it is. -/
theorem run_finds (assigned : entity.key = .assigned) (calls : List StoreCall)
    (numbered : table.Numbered) (member : record ∈ table.records) {identifier : Int}
    (named : record.identifier? = some identifier)
    (untouched : runTouches entity record (some table) calls = false) :
    (Store.findById entity (runAll entity (some table) calls).2 identifier).outcome =
      .done (some record) := by
  induction calls generalizing table with
  | nil =>
      rw [runAll, Store.find_by_id_identified assigned numbered.identified,
        numbered.find_own member named]
  | cons call rest claim =>
      rw [runTouches, Bool.or_eq_false_iff] at untouched
      obtain ⟨after, left, effect⟩ := steps_effect entity table call
      obtain ⟨same, own, held⟩ := steps_spare assigned numbered.identified member untouched.1
      rw [left] at own untouched
      cases own
      rw [run_cons, left]
      exact claim (effect.numbered assigned numbered) held untouched.2

end StoreCall

namespace Store

/-- An insertion is done when the record type takes what is kept of the input, and then the new
record stands behind the old ones, has what the input gives its columns and what the table has for
the others, and is found until a call updates or removes it. Nothing else of the input counts. -/
theorem insert_then_read {entity : Entity}
    (assigned : entity.key = .assigned) (complete : entity.IsComplete) {table : Table}
    (reached : table.Reached entity) (fields : List (String × Json)) :
    let insert := fun fields => (Store.insert entity (some table) fields).outcome
    ((∃ record after, insert fields = .done (record, after)) ↔
      ∃ given, (inputShape entity).decode .request (.object (keptFields entity fields)) =
        .ok given) ∧
    (∀ record after, insert fields = .done (record, after) →
      ∃ left, after = some left ∧ left.records = table.records ++ [record] ∧
        record.map Prod.fst = entity.columnNames ∧
        (∀ column ∈ entity.body,
          (∀ value, fields.lookup column.name = some value →
            value.cell? = some (record.cell column.name)) ∧
          (fields.lookup column.name = none →
            column.initial = some (record.cell column.name))) ∧
        ∃ identifier, record.identifier? = some identifier ∧
          (∀ other ∈ table.records, other.identifier? ≠ some identifier) ∧
          ∀ calls, StoreCall.runTouches entity record after calls = false →
            (findById entity (StoreCall.runAll entity after calls).2 identifier).outcome =
              .done (some record)) ∧
    ∀ others, keptFields entity others = keptFields entity fields →
      insert others = insert fields := by
  intro insert
  refine ⟨⟨?_, ?_⟩, ?_, fun others same => insert_kept_eq same (some table)⟩
  · rintro ⟨record, after, inserted⟩
    obtain ⟨_, given, _, _, read, _⟩ := insert_eq_done inserted
    exact ⟨given, read_input_eq_ok.mp read⟩
  · rintro ⟨given, decoded⟩
    exact insert_takes assigned complete
      (read_input_iff.mp ⟨given, read_input_eq_ok.mpr decoded⟩)
  · intro record after inserted
    obtain ⟨same, names, named, cells⟩ := insert_adds assigned inserted
    subst same
    have numbered := (Table.Reached.insert reached inserted).numbered assigned
    refine ⟨_, rfl, rfl, names, ?_, _, named, ?_, ?_⟩
    · intro column member
      have own := cells column member
      rw [value_given_column member] at own
      constructor
      · intro value given
        obtain ⟨cell, read⟩ := value_of_named (insert_typed inserted) member given
        rw [given, Option.bind_some, read, Option.some_or] at own
        exact read.trans own
      · intro absent
        rw [absent, Option.bind_none, Option.none_or] at own
        exact own
    · intro other member same
      obtain ⟨held, own, below⟩ := (reached.numbered assigned).bounded other member
      cases own.symm.trans same
      exact absurd below (Int.lt_irrefl _)
    · intro calls untouched
      exact StoreCall.run_finds assigned calls numbered
        (List.mem_append_right _ List.mem_cons_self) named untouched

/-- An item gets a quantity and an activity from the table. It is found after other items have
come, changed and gone, and a removal of other quantities has passed it by. -/
theorem item_inserted_and_read :
    let fields : List (String × Json) :=
      [("color", .string "red"), ("id", .integer 9), ("title", .string "b")]
    let first : Record := [("id", .integer 1), ("title", .text "a"), ("qty", .integer 7),
      ("active", .flag true), ("note", .null)]
    let second : Record := [("id", .integer 2), ("title", .text "b"), ("qty", .integer 7),
      ("active", .flag true), ("note", .null)]
    let later : List StoreCall := [.update 1 [("qty", .integer 3)],
      .deleteWhere [.equals "qty" (.integer 3)], .update 2 [("title", .bool true)],
      .insert [("title", .string "c")], .deleteById 3]
    Table.Reached Entity.items ⟨[first], 2⟩ ∧
      (Store.insert Entity.items (some ⟨[first], 2⟩) fields).outcome =
        .done (second, some ⟨[first, second], 3⟩) ∧
      (Store.insert Entity.items (some ⟨[first], 2⟩) [("title", .string "b")]).outcome =
        .done (second, some ⟨[first, second], 3⟩) ∧
      StoreCall.runTouches Entity.items second (some ⟨[first, second], 3⟩) later = false ∧
      (findById Entity.items
        (StoreCall.runAll Entity.items (some ⟨[first, second], 3⟩) later).2 2).outcome =
          .done (some second) := by
  intro fields first second later
  have complete : Entity.items.IsComplete := Entity.all_complete _ (by decide) rfl
  have reached : Table.Reached Entity.items ⟨[first], 2⟩ := by
    have inserted : (Store.insert Entity.items (some Table.empty)
        [("title", .string "a")]).outcome = .done (first, some ⟨[first], 2⟩) := by
      decide +kernel
    exact .insert .empty inserted
  have inserted : (Store.insert Entity.items (some ⟨[first], 2⟩) fields).outcome =
      .done (second, some ⟨[first, second], 3⟩) := by
    decide +kernel
  have untouched :
      StoreCall.runTouches Entity.items second (some ⟨[first, second], 3⟩) later = false := by
    decide +kernel
  obtain ⟨_, read, alone⟩ := insert_then_read rfl complete reached fields
  obtain ⟨_, _, _, _, _, identifier, named, _, found⟩ := read second _ inserted
  cases named
  exact ⟨reached, inserted, (alone _ rfl).trans inserted, untouched, found later untouched⟩

end Store

end GatedResources
