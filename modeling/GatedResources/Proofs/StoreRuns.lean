import GatedResources.Proofs.Autocommit
import GatedResources.Proofs.StoredRecords

/-!
# Runs of store operations

A run puts any operations to the store one after the other, whether they succeed or fail. What a
single operation can do to a table is said once; invariants of runs follow from it by induction on
the operations.
-/

namespace GatedResources

inductive StoreCall where
  | insert (fields : List (String × Json))
  | update (identifier : Int) (patch : List (String × Json))
  | deleteWhere (predicates : List Predicate)
  | deleteById (identifier : Int)
  | findById (identifier : Int)
  | findMany (query : Query)
  | findPage (query : Query)

inductive StoreAnswer where
  | inserted (record : Record)
  | found (record : Option Record)
  | affected (count : Nat)
  | records (records : List Record)
  | page (page : Page Record)

namespace StoreCall

open Autocommit in
def steps (entity : Entity) : StoreCall -> Autocommit StoreError StoreAnswer
  | .insert fields => do
      return .inserted (← Autocommit.insert entity fields)
  | .update identifier patch => do
      return .found (← Autocommit.update entity identifier patch)
  | .deleteWhere predicates => do
      return .affected (← Autocommit.deleteWhere entity predicates)
  | .deleteById identifier => do
      return .affected (← Autocommit.deleteById entity identifier)
  | .findById identifier => do
      return .found (← reading fun backing => Store.findById entity backing identifier)
  | .findMany query => do
      return .records (← reading fun backing => Store.findMany entity backing query)
  | .findPage query => do
      return .page (← reading fun backing => Store.findPage entity backing query)

def inserts : StoreCall -> Bool
  | .insert _ => true
  | _ => false

def removes : StoreCall -> Bool
  | .deleteWhere _ | .deleteById _ => true
  | _ => false

end StoreCall

def StoreAnswer.inserted? : Outcome StoreError StoreAnswer -> Option Record
  | .done (.inserted record) => some record
  | _ => none

def Table.identifiers (table : Table) : List (Option Int) :=
  table.records.map Record.identifier?

/-- A table whose records are those of the entity, no two of them with the same key. -/
structure Table.Kept (entity : Entity) (table : Table) : Prop where
  described : ∀ record ∈ table.records, entity.Describes record
  distinct : ∀ column, entity.key = .supplied column →
    (table.records.map fun record => record.cell column).Nodup

namespace StoreCall

def runAll (entity : Entity) :
    Backing -> List StoreCall -> List (Outcome StoreError StoreAnswer) × Backing
  | backing, [] => ([], backing)
  | backing, call :: rest =>
      let (ended, left) := (call.steps entity).run backing
      let (others, last) := runAll entity left rest
      (ended :: others, last)

/-- What a call may have done to a table, and how it then ended. -/
inductive Effect (entity : Entity) (table : Table) (call : StoreCall) :
    Outcome StoreError StoreAnswer -> Table -> Prop where
  | unchanged {ended : Outcome StoreError StoreAnswer}
      (nothing : StoreAnswer.inserted? ended = none) : Effect entity table call ended table
  | inserted {record : Record} {grown : Table} {given : List (String × Cell)}
      (inserts : call.inserts = true) (admits : entity.Admits given)
      (taken : Store.insertInto entity table given = .ok (record, grown)) :
      Effect entity table call (.done (.inserted record)) grown
  | replaced {answer : Option Record} {identifier : Int} {given : List (String × Cell)}
      (addressed : entity.hasColumn identifierField = true) (admits : entity.Admits given)
      (kept : given.lookup identifierField = none) :
      Effect entity table call (.done (.found answer)) (Store.replaceById identifier given table)
  | removed {count : Nat} {holds : Record -> Bool} (removes : call.removes = true) :
      Effect entity table call (.done (.affected count)) (table.without holds)

variable {entity : Entity} {table : Table}

theorem find_by_id_addressed {backing : Backing} {identifier : Int} {found : Option Record}
    (done : (Store.findById entity backing identifier).outcome = .done found) :
    entity.hasColumn identifierField = true := by
  unfold Store.findById at done
  rw [Attempt.outcome_bind] at done
  obtain ⟨column, known, _⟩ := Outcome.bind_eq_done.mp done
  by_contra unknown
  rw [Attempt.outcome_of_except, Condition.column, if_neg unknown] at known
  cases known

theorem reading_effect {α : Type} (entity : Entity) (table : Table) (call : StoreCall)
    (ask : Backing -> Attempt StoreError α) {change : α -> StoreAnswer}
    (reads : ∀ value, StoreAnswer.inserted? (.done (change value)) = none) :
    let ended := (Autocommit.reading ask >>= fun value =>
      (pure (change value) : Autocommit StoreError StoreAnswer)).run (some table)
    ∃ after, ended.2 = some after ∧ call.Effect entity table ended.1 after := by
  intro ended
  have same : ended = (((ask (some table)).outcome.map change), some table) :=
    Autocommit.run_map _ _ _
  rw [same]
  refine ⟨table, rfl, .unchanged ?_⟩
  cases (ask (some table)).outcome with
  | done value => exact reads value
  | failed error => rfl
  | crashed => rfl

theorem removal_effect (entity : Entity) (table : Table) {call : StoreCall}
    (removes : call.removes = true) (predicates : List Predicate) :
    let ended := (Autocommit.deleteWhere entity predicates >>= fun count =>
      (pure (.affected count) : Autocommit StoreError StoreAnswer)).run (some table)
    ∃ after, ended.2 = some after ∧ call.Effect entity table ended.1 after := by
  intro ended
  have same : ended = _ := Autocommit.run_map _ _ _
  rw [same, Autocommit.delete_where_whole]
  cases deleted : (Store.deleteWhere entity (some table) predicates).outcome with
  | done answer =>
      obtain ⟨count, after⟩ := answer
      rcases Store.delete_where_eq_done deleted with ⟨_, _, kept⟩ | removed
      · exact ⟨table, kept, .unchanged rfl⟩
      · obtain ⟨_, _, holds, present, _, _, _, left⟩ := removed
        cases present
        exact ⟨table.without holds, left, .removed removes⟩
  | failed error => exact ⟨table, rfl, .unchanged rfl⟩
  | crashed => exact ⟨table, rfl, .unchanged rfl⟩

/-- A call leaves a table, in which it has done what a call of its kind can do. -/
theorem steps_effect (entity : Entity) (table : Table) (call : StoreCall) :
    ∃ after, ((call.steps entity).run (some table)).2 = some after ∧
      call.Effect entity table ((call.steps entity).run (some table)).1 after := by
  cases call with
  | insert fields =>
      unfold steps
      rw [Autocommit.run_map, Autocommit.insert_whole]
      cases ended : (Store.insert entity (some table) fields).outcome with
      | done answer =>
          obtain ⟨record, after⟩ := answer
          obtain ⟨_, given, grown, present, read, taken, same⟩ := Store.insert_eq_done ended
          cases present
          exact ⟨grown, same, .inserted rfl (Store.read_input_admitted read) taken⟩
      | failed error => exact ⟨table, rfl, .unchanged rfl⟩
      | crashed => exact ⟨table, rfl, .unchanged rfl⟩
  | update identifier patch =>
      unfold steps
      rw [Autocommit.run_map, Autocommit.update_whole]
      cases ended : (Store.update entity (some table) identifier patch).outcome with
      | done answer =>
          obtain ⟨found, after⟩ := answer
          rcases Store.update_eq_done ended with ⟨_, _, same⟩ | ⟨_, sought, held⟩
          · exact ⟨table, same, .unchanged rfl⟩
          · rcases held with ⟨_, _, same⟩ | ⟨given, _, read, _, same⟩
            · exact ⟨table, same, .unchanged rfl⟩
            · exact ⟨_, same, .replaced (find_by_id_addressed sought)
                (Store.read_input_admitted read) (Store.read_input_without_identifier read)⟩
      | failed error => exact ⟨table, rfl, .unchanged rfl⟩
      | crashed => exact ⟨table, rfl, .unchanged rfl⟩
  | deleteWhere predicates => exact removal_effect entity table rfl predicates
  | deleteById identifier => exact removal_effect entity table rfl _
  | findById identifier => exact reading_effect entity table _ _ fun _ => rfl
  | findMany query => exact reading_effect entity table _ _ fun _ => rfl
  | findPage query => exact reading_effect entity table _ _ fun _ => rfl

/-- A call that is not answered has changed nothing. -/
theorem Effect.unanswered {call : StoreCall} {ended : Outcome StoreError StoreAnswer}
    {after : Table} (effect : call.Effect entity table ended after)
    (fails : ∀ answer, ended ≠ .done answer) : after = table := by
  cases effect with
  | unchanged _ => rfl
  | inserted _ _ _ => exact absurd rfl (fails _)
  | replaced _ _ _ => exact absurd rfl (fails _)
  | removed _ => exact absurd rfl (fails _)

theorem replaced_identifiers (table : Table) (identifier : Int) {given : List (String × Cell)}
    (kept : given.lookup identifierField = none) :
    (Store.replaceById identifier given table).identifiers = table.identifiers := by
  unfold Table.identifiers Store.replaceById
  rw [List.map_map]
  apply List.map_congr_left
  intro record _
  show Record.identifier? (if record.identifier? = some identifier
    then Store.overwrite given record else record) = record.identifier?
  split
  · exact Store.overwrite_identifier kept record
  · rfl

/-- A call that neither inserts nor removes leaves all identifiers as they are. -/
theorem Effect.identifiers_kept {call : StoreCall} {ended : Outcome StoreError StoreAnswer}
    {after : Table} (inserts : call.inserts = false) (removes : call.removes = false)
    (effect : call.Effect entity table ended after) :
    after.identifiers = table.identifiers ∧ after.nextIdentifier = table.nextIdentifier := by
  cases effect with
  | unchanged _ => exact ⟨rfl, rfl⟩
  | inserted does _ _ =>
      rw [does] at inserts
      cases inserts
  | @replaced _ identifier _ _ _ kept => exact ⟨replaced_identifiers table identifier kept, rfl⟩
  | removed does =>
      rw [does] at removes
      cases removes

/-- A call that inserts a record gives it the next identifier and puts it last. Any other call
assigns no identifier. -/
theorem Effect.identifiers {call : StoreCall} {ended : Outcome StoreError StoreAnswer}
    {after : Table} (assigned : entity.key = .assigned)
    (effect : call.Effect entity table ended after) :
    (∃ record, StoreAnswer.inserted? ended = some record ∧
        record.identifier? = some (table.nextIdentifier : Int) ∧
        after.identifiers = table.identifiers ++ [record.identifier?] ∧
        after.nextIdentifier = table.nextIdentifier + 1) ∨
      (StoreAnswer.inserted? ended = none ∧ after.identifiers.Sublist table.identifiers ∧
        after.nextIdentifier = table.nextIdentifier) := by
  cases effect with
  | unchanged nothing => exact .inr ⟨nothing, .refl _, rfl⟩
  | @inserted record _ _ _ _ taken =>
      obtain ⟨body, _, shape, same⟩ := Store.insert_into_assigned assigned taken
      refine .inl ⟨record, rfl, ?_, ?_, ?_⟩
      · simp [shape, Record.identifier?]
      · simp [same, Table.identifiers]
      · rw [same]
  | @replaced _ identifier _ _ _ kept =>
      have same := replaced_identifiers table identifier kept
      exact .inr ⟨rfl, same ▸ .refl _, rfl⟩
  | removed _ => exact .inr ⟨rfl, List.filter_sublist.map _, rfl⟩

theorem empty_kept (entity : Entity) : Table.empty.Kept entity := by
  constructor
  · intro record member
    cases member
  · intro column _
    exact List.nodup_nil

theorem Effect.kept {call : StoreCall} {ended : Outcome StoreError StoreAnswer} {after : Table}
    (kept : table.Kept entity)
    (room : call.inserts = true → table.nextIdentifier < Nat.pow 2 63)
    (effect : call.Effect entity table ended after) :
    after.Kept entity ∧ after.nextIdentifier ≤ table.nextIdentifier + call.inserts.toNat := by
  cases effect with
  | unchanged _ => exact ⟨kept, Nat.le_add_right _ _⟩
  | @inserted record _ given inserts admits taken =>
      have described := Store.inserted_described admits (room inserts) taken
      have grows : after.records = table.records ++ [record] ∧
          after.nextIdentifier ≤ table.nextIdentifier + 1 := by
        cases key : entity.key with
        | assigned =>
            obtain ⟨_, _, _, same⟩ := Store.insert_into_assigned key taken
            simp [same]
        | supplied column =>
            obtain ⟨_, _, same⟩ := Store.insert_into_supplied key taken
            simp [same]
      refine ⟨⟨?_, ?_⟩, by simpa [inserts] using grows.2⟩
      · intro held member
        rw [grows.1] at member
        rcases List.mem_append.mp member with earlier | added
        · exact kept.described held earlier
        · exact List.mem_singleton.mp added ▸ described
      · intro column supplied
        obtain ⟨_, unique, _⟩ := Store.insert_into_supplied supplied taken
        rw [grows.1, List.map_append, List.nodup_append']
        refine ⟨kept.distinct column supplied, List.nodup_singleton _, ?_⟩
        intro value earlier added
        obtain ⟨held, member, same⟩ := List.mem_map.mp earlier
        have own : value = record.cell column := by simpa using added
        exact unique held member (same.trans own)
  | @replaced answer identifier given addressed admits identity =>
      refine ⟨⟨?_, ?_⟩, Nat.le_add_right _ _⟩
      · intro record member
        obtain ⟨original, earlier, same⟩ := List.mem_map.mp member
        subst same
        have own := kept.described original earlier
        split
        · exact Store.overwrite_described admits own
        · exact own
      · intro column supplied
        -- The records of such an entity have no identifier to be addressed by.
        exfalso
        unfold Entity.hasColumn Entity.columnNames at addressed
        rw [supplied] at addressed
        exact entity.unnumbered (by simpa using addressed)
  | @removed count holds _ =>
      refine ⟨⟨?_, ?_⟩, Nat.le_add_right _ _⟩
      · intro record member
        exact kept.described record (List.mem_filter.mp member).1
      · intro column supplied
        exact (kept.distinct column supplied).sublist (List.filter_sublist.map _)

theorem run_cons (entity : Entity) (backing : Backing) (call : StoreCall)
    (rest : List StoreCall) :
    runAll entity backing (call :: rest) =
      (((call.steps entity).run backing).1 ::
          (runAll entity ((call.steps entity).run backing).2 rest).1,
        (runAll entity ((call.steps entity).run backing).2 rest).2) := rfl

def inserted (entity : Entity) (backing : Backing) (calls : List StoreCall) : List Record :=
  (runAll entity backing calls).1.filterMap StoreAnswer.inserted?

theorem run_kept (calls : List StoreCall)
    (kept : table.Kept entity)
    (room : table.nextIdentifier + (calls.filter inserts).length ≤ Nat.pow 2 63) :
    ∃ last, (runAll entity (some table) calls).2 = some last ∧ last.Kept entity := by
  induction calls generalizing table with
  | nil => exact ⟨table, rfl, kept⟩
  | cons call rest claim =>
      obtain ⟨after, left, effect⟩ := steps_effect entity table call
      have count : ((call :: rest).filter inserts).length =
          call.inserts.toNat + (rest.filter inserts).length := by
        cases own : call.inserts <;> simp [own, Nat.add_comm]
      rw [count] at room
      -- Every insertion, failed or not, is counted against the numbers that are left.
      have ownRoom : call.inserts = true → table.nextIdentifier < Nat.pow 2 63 := by
        intro inserting
        rw [inserting, Bool.toNat_true] at room
        omega
      obtain ⟨afterKept, grows⟩ := effect.kept kept ownRoom
      rw [run_cons, left]
      exact claim afterKept (by omega)

/-- The records that a run inserts get the identifiers from the next one on, without a gap, and the
table that is left has identifiers it had before or got in the run, in the same order. -/
theorem run_identifiers (assigned : entity.key = .assigned) (calls : List StoreCall)
    (table : Table) :
    ∃ last, (runAll entity (some table) calls).2 = some last ∧
      (inserted entity (some table) calls).map Record.identifier? =
        (List.range' table.nextIdentifier (inserted entity (some table) calls).length).map
          (fun number : Nat => some (number : Int)) ∧
      last.nextIdentifier =
        table.nextIdentifier + (inserted entity (some table) calls).length ∧
      last.identifiers.Sublist
        (table.identifiers ++ (inserted entity (some table) calls).map Record.identifier?) := by
  induction calls generalizing table with
  | nil =>
      refine ⟨table, rfl, rfl, rfl, ?_⟩
      simp [inserted, runAll]
  | cons call rest claim =>
      obtain ⟨after, left, effect⟩ := steps_effect entity table call
      obtain ⟨last, ends, numbers, next, held⟩ := claim after
      have later : inserted entity (some table) (call :: rest) =
          (StoreAnswer.inserted? ((call.steps entity).run (some table)).1).toList ++
            inserted entity (some after) rest := by
        unfold inserted
        rw [run_cons, left, List.filterMap_cons]
        cases StoreAnswer.inserted? ((call.steps entity).run (some table)).1 <;> rfl
      refine ⟨last, by rw [run_cons, left]; exact ends, ?_⟩
      rw [later]
      rcases effect.identifiers assigned with
        ⟨record, own, identity, grown, increased⟩ | ⟨own, kept, same⟩
      · rw [increased] at numbers next
        rw [grown, List.append_assoc] at held
        rw [own, Option.toList_some, List.singleton_append, List.map_cons, List.length_cons,
          List.range'_succ, List.map_cons, numbers, identity]
        refine ⟨rfl, by omega, ?_⟩
        rw [numbers, identity] at held
        exact held
      · rw [same] at numbers next
        rw [own, Option.toList_none, List.nil_append]
        exact ⟨numbers, next, held.trans (kept.append_right _)⟩

/-- The key of a record is no null. -/
theorem key_not_null {column : String}
    (supplied : entity.key = .supplied column) {record : Record}
    (described : entity.Describes record) : record.cell column ≠ .null := by
  intro null
  obtain ⟨held, inBody, named, strict⟩ := Entity.key_column supplied
  have admitted := described.values held (Entity.mem_columns inBody)
  rw [named, null] at admitted
  rw [show held.admits .null = held.nullable from rfl, strict] at admitted
  cases admitted

/-- Whatever calls are put to a table that was empty, its records are those of the entity and can
be read, the identifiers that were assigned are the numbers from one on, those in the table are
some of them in this order, and keys of the records are no nulls and differ. A further call that
fails changes nothing, and an update changes no identifier. -/
theorem runs_keep_records :
    ∀ entity : Entity, ∀ calls : List StoreCall,
      (calls.filter inserts).length < Nat.pow 2 63 →
      ∃ table, (runAll entity (some Table.empty) calls).2 = some table ∧
        (∀ record ∈ table.records, entity.Describes record ∧
          entity.readRecord (record.map fun field => (field.1, .ofCell field.2)) = some record) ∧
        (entity.key = .assigned →
          let added := inserted entity (some Table.empty) calls
          let assigned := List.range' 1 added.length
          added.map Record.identifier? = assigned.map (fun number : Nat => some (number : Int)) ∧
          table.nextIdentifier = added.length + 1 ∧
          ∃ numbers : List Nat, numbers.Sublist assigned ∧ numbers.Pairwise (· < ·) ∧
            table.identifiers = numbers.map fun number : Nat => some (number : Int)) ∧
        (∀ column, entity.key = .supplied column →
          (table.records.map fun record => record.cell column).Nodup ∧
          ∀ record ∈ table.records, record.cell column ≠ .null) ∧
        ∀ call : StoreCall,
          let ended := (call.steps entity).run (some table)
          ((∀ answer, ended.1 ≠ .done answer) → ended.2 = some table) ∧
          ∀ identifier patch, call = .update identifier patch →
            ∃ after, ended.2 = some after ∧ after.identifiers = table.identifiers ∧
              after.nextIdentifier = table.nextIdentifier := by
  intro entity calls few
  have room : Table.empty.nextIdentifier + (calls.filter inserts).length ≤ Nat.pow 2 63 := by
    show 1 + _ ≤ _
    omega
  obtain ⟨table, ends, kept⟩ := run_kept calls (empty_kept entity) room
  refine ⟨table, ends, ?_, ?_, ?_, ?_⟩
  · intro record member
    have described := kept.described record member
    exact ⟨described, Entity.read_stored described⟩
  · intro assigned added numbers
    obtain ⟨last, same, identities, next, held⟩ := run_identifiers assigned calls Table.empty
    rw [ends] at same
    cases same
    refine ⟨identities, by rw [next, Nat.add_comm]; rfl, ?_⟩
    rw [show Table.empty.identifiers = [] from rfl, List.nil_append, identities] at held
    obtain ⟨some, among, are⟩ := List.sublist_map_iff.mp held
    exact ⟨some, among, (List.pairwise_lt_range' 1).sublist among, are⟩
  · intro column supplied
    exact ⟨kept.distinct column supplied,
      fun record member => key_not_null supplied (kept.described record member)⟩
  · intro call ended
    obtain ⟨after, left, effect⟩ := steps_effect entity table call
    constructor
    · intro fails
      exact effect.unanswered fails ▸ left
    · intro identifier patch isUpdate
      subst isUpdate
      exact ⟨after, left, effect.identifiers_kept rfl rfl⟩

/-- A number is used once: not again after its record is gone, and not by an insertion that
fails. -/
theorem questions_numbered :
    let calls : List StoreCall := [.insert [("question", .string "Why?")], .deleteById 1,
      .insert [("question", .bool true)], .insert [("id", .integer 1)]]
    (calls.filter inserts).length < Nat.pow 2 63 ∧
      (inserted Entity.faqs (some Table.empty) calls).map Record.identifier? =
        [some 1, some 2] := by
  intro calls
  have few : (calls.filter inserts).length < Nat.pow 2 63 := by decide
  obtain ⟨table, _, _, numbered, _⟩ := runs_keep_records Entity.faqs calls few
  have count : (inserted Entity.faqs (some Table.empty) calls).length = 2 := by
    decide +kernel
  have identities := (numbered rfl).1
  rw [count] at identities
  exact ⟨few, identities⟩

end StoreCall
end GatedResources
