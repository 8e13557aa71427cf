import GatedResources.Proofs.FailedRequests
import GatedResources.Proofs.IdentifierLists
import GatedResources.Proofs.Interchange
import GatedResources.Proofs.NumberRange
import GatedResources.Proofs.RequestStages
import Mathlib.Data.List.Find

/-!
# What the store says to an operation

On a table that the store has built, an operation within the range of the store either is done or
meets one objection that the caller can do something about: the record is missing, the filter makes
no sense, or the input does not fit the columns. The database itself has an objection only to what
is too much for one statement.
-/

namespace GatedResources

namespace Entity

/-- Every column of the body has a value in a new record, from the input or of its own. -/
def IsComplete (entity : Entity) : Prop :=
  ∀ column ∈ entity.body, column.required = true ∨ column.initial.isSome = true

instance (entity : Entity) : Decidable entity.IsComplete :=
  List.decidableBAll _ entity.body

theorem all_complete : ∀ entity ∈ all, entity.key = .assigned → entity.IsComplete := by
  decide

def hasType (entity : Entity) (field : String × Json) : Bool :=
  match entity.bodyColumn? field.1 with
  | some column => (column.decoder .request field.2).isOk
  | none => true

/-- The members of an input have the types of their columns, and no required column is left out. -/
def takes (entity : Entity) (fields : List (String × Json)) : Bool :=
  fields.all entity.hasType &&
    entity.body.all fun column => !column.required || fields.any fun field => field.1 == column.name

end Entity

namespace Store

variable {entity : Entity}

theorem input_member (entity : Entity) (key : String) :
    ((inputShape entity).members.find? fun known => known.name == key) =
      (entity.bodyColumn? key).map fun column =>
        Member.of column.name (if column.required then .required else .defaulted) column.decoder
          fun cell given => given ++ [(column.name, cell)] :=
  List.find?_map

theorem body_column_name {key : String} {column : Column}
    (known : entity.bodyColumn? key = some column) : column ∈ entity.body ∧ column.name = key :=
  ⟨List.mem_of_find?_eq_some known,
    eq_of_beq (List.find?_some (p := fun column : Column => column.name == key) known)⟩

/-- A member of an input adds a value for the column that it names, or is a fault. -/
theorem read_member (entity : Entity) (key : String) (value : Json) :
    (entity.hasType (key, value) = true ∧ ∃ added : List (String × Cell),
      added.map Prod.fst = [key].filter (fun key => (entity.bodyColumn? key).isSome) ∧
      ∀ rest start, (inputShape entity).readMembers .request ((key, value) :: rest) start =
        (inputShape entity).readMembers .request rest (start ++ added)) ∨
    (entity.hasType (key, value) = false ∧ ∀ rest start, ∃ fault,
      (inputShape entity).readMembers .request ((key, value) :: rest) start = .error fault) := by
  cases known : entity.bodyColumn? key with
  | none =>
      refine .inl ⟨by simp [Entity.hasType, known], [], by simp [known], fun rest start => ?_⟩
      rw [Shape.readMembers, input_member, known, List.append_nil]
      rfl
  | some column =>
      obtain ⟨_, named⟩ := body_column_name known
      cases decoded : column.decoder .request value with
      | ok cell =>
          refine .inl ⟨by simp [Entity.hasType, known, decoded, Except.isOk, Except.toBool],
            [(column.name, cell)], by simp [known, named], fun rest start => ?_⟩
          rw [Shape.readMembers, input_member, known]
          dsimp only [Option.map_some, Member.of]
          rw [decoded]
          rfl
      | error fault =>
          refine .inr ⟨by simp [Entity.hasType, known, decoded, Except.isOk, Except.toBool],
            fun rest start => ⟨fault.under column.name, ?_⟩⟩
          rw [Shape.readMembers, input_member, known]
          dsimp only [Option.map_some, Member.of]
          rw [decoded]
          rfl

theorem read_members_typed {fields : List (String × Json)}
    (typed : fields.all entity.hasType = true) (start : List (String × Cell)) :
    ∃ given, (inputShape entity).readMembers .request fields start = .ok given ∧
      given.map Prod.fst = start.map Prod.fst ++
        (fields.map Prod.fst).filter fun key => (entity.bodyColumn? key).isSome := by
  induction fields generalizing start with
  | nil => exact ⟨start, rfl, (List.append_nil _).symm⟩
  | cons field rest claim =>
      rw [List.all_cons, Bool.and_eq_true] at typed
      rcases read_member entity field.1 field.2 with ⟨_, added, names, step⟩ | ⟨untyped, _⟩
      · obtain ⟨given, read, all⟩ := claim typed.2 (start ++ added)
        refine ⟨given, (step rest start).trans read, ?_⟩
        rw [all, List.map_append, names, List.append_assoc, ← List.filter_append]
        rfl
      · rw [untyped] at typed
        cases typed.1

theorem read_members_untyped {fields : List (String × Json)}
    (untyped : ¬fields.all entity.hasType = true) (start : List (String × Cell)) :
    ∃ fault, (inputShape entity).readMembers .request fields start = .error fault := by
  induction fields generalizing start with
  | nil => exact absurd rfl untyped
  | cons field rest claim =>
      rcases read_member entity field.1 field.2 with ⟨typed, added, _, step⟩ | ⟨_, step⟩
      · rw [List.all_cons, typed, Bool.true_and] at untyped
        obtain ⟨fault, read⟩ := claim untyped (start ++ added)
        exact ⟨fault, (step rest start).trans read⟩
      · exact step rest start

theorem input_missing (entity : Entity) (fields : List (String × Json)) :
    (inputShape entity).missing fields = none ↔
      entity.body.all (fun column =>
        !column.required || fields.any fun field => field.1 == column.name) = true := by
  unfold Shape.missing inputShape
  rw [Option.map_eq_none_iff, List.find?_eq_none, List.all_eq_true]
  simp only [List.mem_map, forall_exists_index, and_imp, forall_apply_eq_imp_iff₂, Member.of]
  refine forall₂_congr fun column _ => ?_
  cases column.required <;> simp

/-- An input is read exactly when it fits the columns; it then has a value for each column that
it names. -/
theorem read_input_takes {fields : List (String × Json)} (takes : entity.takes fields = true) :
    ∃ given, readInput entity fields = .ok given ∧
      given.map Prod.fst =
        (fields.map Prod.fst).filter fun key => (entity.bodyColumn? key).isSome := by
  obtain ⟨typed, whole⟩ := Bool.and_eq_true_iff.mp takes
  obtain ⟨given, read, names⟩ := read_members_typed typed []
  refine ⟨given, ?_, names⟩
  have decoded : (inputShape entity).decode .request (.object fields) = .ok given := by
    rw [Shape.decode]
    refine except_bind_eq_ok.mpr ⟨given, read, ?_⟩
    rw [(input_missing entity fields).mpr whole]
  unfold readInput
  rw [decoded]

theorem read_input_refuses {fields : List (String × Json)}
    (refuses : ¬entity.takes fields = true) :
    ∃ reason, readInput entity fields = .error (.decode reason) := by
  have faulty : ∃ fault, (inputShape entity).decode .request (.object fields) = .error fault := by
    rw [Shape.decode]
    by_cases typed : fields.all entity.hasType = true
    · obtain ⟨given, read, _⟩ := read_members_typed typed []
      have missing : (inputShape entity).missing fields ≠ none := by
        intro none
        exact refuses (Bool.and_eq_true_iff.mpr ⟨typed, (input_missing entity fields).mp none⟩)
      obtain ⟨field, own⟩ := Option.ne_none_iff_exists'.mp missing
      refine ⟨⟨[], .missingField field⟩, ?_⟩
      change ((inputShape entity).readMembers .request fields [] >>= _) = _
      rw [read, own]
      rfl
    · obtain ⟨fault, read⟩ := read_members_untyped typed []
      refine ⟨fault, ?_⟩
      change ((inputShape entity).readMembers .request fields [] >>= _) = _
      rw [read]
      rfl
  obtain ⟨fault, decoded⟩ := faulty
  refine ⟨"Json Error: " ++ fault.requestMessage, ?_⟩
  unfold readInput
  rw [decoded]

end Store

namespace Table

def IsIdentified (table : Table) : Prop :=
  ∀ record ∈ table.records, ∃ identifier, record.identifier? = some identifier

theorem Numbered.identified {table : Table} (numbered : table.Numbered) : table.IsIdentified := by
  intro record member
  obtain ⟨identifier, own, _⟩ := numbered.bounded record member
  exact ⟨identifier, own⟩

def hasRecord (table : Table) (identifier : Int) : Bool :=
  table.records.any fun record => decide (record.identifier? = some identifier)

end Table

namespace Store

section Table

variable {entity : Entity} {table : Table} (assigned : entity.key = .assigned)

include assigned

/-- The store compares the identifiers of records as the numbers that they are. -/
theorem has_identifier {record : Record} {held : Int} (own : record.identifier? = some held)
    (identifier : Int) :
    Condition.hasValue entity identifierField (.signed identifier) record =
      decide (record.identifier? = some identifier) := by
  have cell : record.cell identifierField = .integer held := by
    unfold Record.identifier? at own
    unfold Record.cell
    split at own
    · next value found =>
        cases own
        rw [found]
        rfl
    · cases own
  have numeric : Condition.affinityOf entity identifierField = .numeric := by
    unfold Condition.affinityOf Entity.typeOf? Entity.hasIdentifier
    rw [assigned]
    rfl
  unfold Condition.hasValue
  rw [cell, numeric, own]
  by_cases same : held = identifier
  · subst same
    simp [Scalar.ofCell, Scalar.adapted, Bound.scalar, Scalar.equal, Scalar.order,
      Scalar.fraction?, compareOfLessAndEq]
  · have ordered : compareOfLessAndEq held identifier ≠ .eq := by
      unfold compareOfLessAndEq
      rw [if_neg same]
      split <;> simp
    simp [Scalar.ofCell, Scalar.adapted, Bound.scalar, Scalar.equal, Scalar.order,
      Scalar.fraction?, ordered, same]

theorem find_by_id_identified (identified : table.IsIdentified) (identifier : Int) :
    (findById entity (some table) identifier).outcome = .done
      (table.records.find? fun record => decide (record.identifier? = some identifier)) := by
  let conditions := [Condition.equals identifierField (.signed identifier)]
  let selection : Selection := ⟨entity.table, conditions, none, none, none⟩
  have storable : selection.IsStorable := by
    refine .unbounded ?_ none
    intro condition member
    cases List.mem_singleton.mp member
    rfl
  have tested : Condition.testAll entity conditions =
      .ok fun record => Condition.hasValue entity identifierField (.signed identifier) record &&
        true := rfl
  have fit : Condition.FitStatement entity conditions 0 := by
    refine ⟨?_, show 1 ≤ 32766 by decide, show 3 ≤ 1000 by decide⟩
    intro condition member
    cases List.mem_singleton.mp member
    rfl
  have answered : Backing.execute entity (some table) (Sql.select entity selection) conditions
      Table.records (fun table holds => table.records.find? holds) = .done _ :=
    (Backing.execute_yields storable.select tested
      (Nat.le_of_eq (Selection.select_count entity selection))).fitting fit
  unfold findById
  rw [Attempt.outcome_bind, Condition.column_known (identifier_known assigned),
    Attempt.outcome_of_except, Outcome.of_except_ok, Outcome.done_bind, Attempt.outcome_of_outcome,
    answered]
  apply congrArg Outcome.done
  apply List.find?_congr
  intro record member
  obtain ⟨held, own⟩ := identified record member
  rw [Bool.and_true]
  exact has_identifier assigned own identifier

theorem update_identified (identified : table.IsIdentified) (identifier : Int)
    (patch : List (String × Json)) :
    (update entity (some table) identifier patch).outcome =
      match table.records.find? fun record => decide (record.identifier? = some identifier) with
      | none => .done (none, some table)
      | some existing =>
          if (keptFields entity patch).isEmpty then .done (some existing, some table)
          else Outcome.ofExcept (readInput entity (keptFields entity patch)) >>= fun given =>
            .done (some (overwrite given existing), some (replaceById identifier given table)) := by
  rw [update_outcome, find_by_id_identified assigned identified, Outcome.done_bind]
  cases table.records.find? fun record => decide (record.identifier? = some identifier) <;> rfl

/-- A complete entity takes every input that fits its columns. -/
theorem insert_takes (complete : entity.IsComplete) {fields : List (String × Json)}
    (takes : entity.takes (keptFields entity fields) = true) :
    ∃ record after, (insert entity (some table) fields).outcome = .done (record, after) := by
  obtain ⟨given, read, names⟩ := read_input_takes takes
  have filled : ∀ column ∈ entity.body, ∃ field, newCell given column = .ok field := by
    intro column member
    have value : ((given.lookup column.name).or column.initial).isSome = true := by
      rcases complete column member with required | initial
      · have whole := List.all_eq_true.mp (Bool.and_eq_true_iff.mp takes).2 column member
        rw [required, Bool.not_true, Bool.false_or] at whole
        obtain ⟨field, inside, named⟩ := List.any_eq_true.mp whole
        have known : (entity.bodyColumn? column.name).isSome = true :=
          List.find?_isSome.mpr ⟨column, member, beq_self_eq_true _⟩
        have listed : column.name ∈ given.map Prod.fst := by
          rw [names, List.mem_filter]
          exact ⟨List.mem_map.mpr ⟨field, inside, eq_of_beq named⟩, known⟩
        obtain ⟨entry, has, same⟩ := List.mem_map.mp listed
        have found : given.lookup column.name ≠ none := by
          intro none
          have differs := List.lookup_eq_none_iff.mp none entry has
          rw [same, bne_self_eq_false] at differs
          cases differs
        obtain ⟨cell, found⟩ := Option.ne_none_iff_exists'.mp found
        rw [found]
        rfl
      · rw [Option.isSome_or, initial, Bool.or_true]
    obtain ⟨cell, own⟩ := Option.isSome_iff_exists.mp value
    refine ⟨(column.name, cell), ?_⟩
    unfold newCell
    rw [own]
  obtain ⟨body, made⟩ := except_map_ok filled
  let record : Record := (identifierField, .integer table.nextIdentifier) :: body
  let grown : Table := ⟨table.records ++ [record], table.nextIdentifier + 1⟩
  have taken : insertInto entity table given = .ok (record, grown) := by
    unfold insertInto
    rw [made, assigned]
    rfl
  refine ⟨record, some grown, ?_⟩
  rw [insert_outcome, read, Outcome.of_except_ok, Outcome.done_bind]
  dsimp only
  rw [taken]
  rfl

end Table

theorem insert_refuses {entity : Entity} {table : Table} {fields : List (String × Json)}
    (refuses : ¬entity.takes (keptFields entity fields) = true) :
    ∃ reason, (insert entity (some table) fields).outcome = .failed (.decode reason) := by
  obtain ⟨reason, unread⟩ := read_input_refuses refuses
  refine ⟨reason, ?_⟩
  rw [insert_outcome, unread]
  rfl

section Queries

variable {entity : Entity} {table : Table} {query : Query}

/-- Why the database refuses to list the records of a query or to count them, if it does. -/
def pageRefusal? (entity : Entity) (table : Table) (query : Query) : Option String :=
  match Condition.ofPredicates entity query.predicates with
  | .ok conditions =>
      let paged : Selection := ⟨query.source, conditions,
        (Selection.knownOrder entity query.order).value, query.offset, Selection.limitOf query⟩
      let counted : Selection := ⟨query.source, conditions, none, none, none⟩
      (Backing.refusal? entity conditions (Sql.parameters (Sql.select entity paged))
        (paged.read table)).or
      (Backing.refusal? entity conditions (Sql.parameters (Sql.select entity counted))
        table.records)
  | .error _ => none

/-- Why the database refuses to remove what meets some predicates, if it does. -/
def removalRefusal? (entity : Entity) (table : Table) (predicates : List Predicate) :
    Option String :=
  match Condition.ofPredicates entity predicates with
  | .ok conditions => deletionRefusal? entity conditions table.records
  | .error _ => none

/-- A query that makes sense and is within range has a page, unless the database refuses it. -/
theorem find_page_within (table : Table)
    (sound : ∀ predicate ∈ query.predicates, predicate.isSound entity = true)
    (within : query.IsWithin) :
    ∃ page, (findPage entity (some table) query).outcome =
      (pageRefusal? entity table query).elim (.done page)
        fun reason => .failed (.database reason) := by
  obtain ⟨conditions, made, storable, tested⟩ := Condition.of_predicates_sound sound
  let paged : Selection := ⟨query.source, conditions,
    (Selection.knownOrder entity query.order).value, query.offset, Selection.limitOf query⟩
  let counted : Selection := ⟨query.source, conditions, none, none, none⟩
  have pagedStorable : paged.IsStorable :=
    ⟨storable within.predicates, within.offset, Selection.limit_within within⟩
  have countedStorable : counted.IsStorable := .unbounded (storable within.predicates) none
  have run : paged.run entity (some table) = _ :=
    Backing.execute_storable pagedStorable.select tested
  have count : counted.count entity (some table) = _ :=
    Backing.execute_storable countedStorable.select tested
  have refusal : pageRefusal? entity table query =
      (Backing.refusal? entity conditions (Sql.parameters (Sql.select entity paged))
        (paged.read table)).or
      (Backing.refusal? entity conditions (Sql.parameters (Sql.select entity counted))
        table.records) := by
    rw [pageRefusal?, made]
  let matching := table.records.filter (Predicate.allHold entity query.predicates)
  refine ⟨⟨paged.page (Condition.visited entity conditions matching), matching.length⟩, ?_⟩
  unfold findPage
  rw [Attempt.outcome_bind, Selection.of_query_made made, Outcome.done_bind, Attempt.outcome_bind,
    Attempt.outcome_of_outcome, run, refusal]
  cases Backing.refusal? entity conditions (Sql.parameters (Sql.select entity paged))
      (paged.read table) with
  | some reason => rfl
  | none =>
      rw [Option.elim_none, Outcome.done_bind, Attempt.outcome_bind, filter_only_made made,
        Attempt.outcome_of_except, Outcome.of_except_ok, Outcome.done_bind, Attempt.outcome_bind,
        Attempt.outcome_of_outcome, count, Option.none_or]
      cases Backing.refusal? entity conditions (Sql.parameters (Sql.select entity counted))
          table.records <;> rfl

theorem delete_where_within (table : Table) {predicates : List Predicate}
    (nonempty : predicates ≠ []) (sound : ∀ predicate ∈ predicates, predicate.isSound entity = true)
    (within : ∀ predicate ∈ predicates, predicate.IsWithin) :
    (deleteWhere entity (some table) predicates).outcome =
      (removalRefusal? entity table predicates).elim
        (.done ((table.records.filter (Predicate.allHold entity predicates)).length,
          some (table.without (Predicate.allHold entity predicates))))
        fun reason => .failed (.database reason) := by
  obtain ⟨conditions, made, storable, tested⟩ := Condition.of_predicates_sound sound
  rw [removalRefusal?, made]
  exact delete_where_formed (storable within) tested nonempty made

/-- A query that fits a statement is not refused. -/
theorem page_refusal_fitting (plain : ∀ predicate ∈ query.predicates, predicate.IsPlain)
    (fit : Predicate.FitStatement query.predicates 2) : pageRefusal? entity table query = none := by
  unfold pageRefusal?
  split
  · next conditions made =>
      have fits := Condition.of_predicates_fitting made plain fit
      have bounds : (Selection.limitOf query).toList.length + query.offset.toList.length ≤ 2 := by
        cases Selection.limitOf query <;> cases query.offset <;> simp
      dsimp only
      rw [Backing.refusal_fitting fits, Backing.refusal_fitting fits, Option.none_or]
      · rw [Selection.select_count]
        exact Nat.add_le_add_left (Nat.zero_le 2) _
      · rw [Selection.select_count]
        exact Nat.add_le_add_left bounds _
  · rfl

theorem removal_refusal_fitting {predicates : List Predicate}
    (plain : ∀ predicate ∈ predicates, predicate.IsPlain)
    (fit : Predicate.FitStatement predicates 0) :
    removalRefusal? entity table predicates = none := by
  unfold removalRefusal?
  split
  · next conditions made =>
      have fits := Condition.of_predicates_fitting made plain fit
      exact Backing.refusal_fitting fits (Nat.le_of_eq (delete_count entity conditions))
  · rfl

theorem find_page_refuses (plain : ∀ predicate ∈ query.predicates, predicate.IsPlain)
    (unsound : ¬∀ predicate ∈ query.predicates, predicate.isSound entity = true) :
    ∃ error field reason, (findPage entity (some table) query).outcome = .failed error ∧
      (ResourceError.ofStoreError error).value = .validation field reason := by
  obtain ⟨error, field, reason, failed, told⟩ := of_predicates_failed plain unsound
  refine ⟨error, field, reason, ?_, told⟩
  unfold findPage Selection.ofQuery
  rw [Attempt.outcome_bind, Attempt.outcome_bind, failed]
  rfl

theorem delete_where_refuses {predicates : List Predicate}
    (plain : ∀ predicate ∈ predicates, predicate.IsPlain)
    (unsound : ¬∀ predicate ∈ predicates, predicate.isSound entity = true) :
    ∃ error field reason, (deleteWhere entity (some table) predicates).outcome = .failed error ∧
      (ResourceError.ofStoreError error).value = .validation field reason := by
  have nonempty : predicates ≠ [] := by
    intro none
    subst none
    exact unsound fun predicate member => nomatch member
  obtain ⟨error, field, reason, failed, told⟩ := of_predicates_failed plain unsound
  refine ⟨error, field, reason, ?_, told⟩
  rw [delete_where_outcome nonempty, failed, Outcome.of_except_error, Outcome.failed_bind]

end Queries

end Store

/-- Every predicate of a filter names a column and compares it with scalars. -/
def Resource.makesSense (resource : Resource) (filter : Option Encoded) : Bool :=
  (resource.filterPredicates filter).all fun predicate => predicate.isSound resource.entity

/-- A resource over records that the store numbers, which takes every record that fits its columns
and writes no conditions in the language of the store. -/
structure Resource.IsRegular (resource : Resource) : Prop where
  assigned : resource.entity.key = .assigned
  complete : resource.entity.IsComplete
  plain : resource.HasPlainTransforms

namespace Operation

def IsWithin (resource : Resource) : Operation -> Prop
  | .findAll request => (resource.query request).value.IsWithin
  | .removeMany request =>
      ∀ predicate ∈ resource.filterPredicates request.filter, predicate.IsWithin
  | .remove identifier => identifier ≤ Bound.greatest
  | .findOne _ | .create _ | .update _ _ => True

/-- Whether the database refuses an operation for its size. -/
def isDeclined (resource : Resource) (table : Table) : Operation -> Bool
  | .findAll request =>
      (Store.pageRefusal? resource.entity table (resource.query request).value).isSome
  | .removeMany request =>
      (Store.removalRefusal? resource.entity table
        (resource.filterPredicates request.filter)).isSome
  | .findOne _ | .create _ | .update _ _ | .remove _ => false

def FitsStatement (resource : Resource) : Operation -> Prop
  | .findAll request => Predicate.FitStatement (resource.filterPredicates request.filter) 2
  | .removeMany request => Predicate.FitStatement (resource.filterPredicates request.filter) 0
  | .findOne _ | .create _ | .update _ _ | .remove _ => True

def objection (resource : Resource) (table : Table) (operation : Operation) : Option Failure :=
  match operation with
  | .findOne identifier => if table.hasRecord identifier then none else some .notFound
  | .findAll request =>
      if !resource.makesSense request.filter then some .badInput
      else if operation.isDeclined resource table then some .internal
      else none
  | .create input =>
      if resource.entity.takes (Store.keptFields resource.entity input) then none
      else some .badInput
  | .update identifier patch =>
      let fields := Store.keptFields resource.entity patch
      if !table.hasRecord identifier then some .notFound
      else if fields.isEmpty || resource.entity.takes fields then none
      else some .badInput
  | .remove _ => none
  | .removeMany request =>
      if !resource.makesSense request.filter then some .badInput
      else if operation.isDeclined resource table then some .internal
      else none

/-- A bulk removal without a usable filter, or with one that no record passes. -/
def removesNothing (resource : Resource) (table : Table) : Operation -> Bool
  | .removeMany request =>
      let predicates := resource.filterPredicates request.filter
      predicates.isEmpty || !table.records.any (Predicate.allHold resource.entity predicates)
  | _ => false

variable {resource : Resource} {table : Table}

def ended (resource : Resource) (table : Table) (operation : Operation) : Outcome Failure Bool :=
  ((operation.execute resource (some table)).mapError Failure.ofError).map fun answer =>
    Rest.removedNothing operation answer.1

theorem storing_done {α : Type} {attempt : Attempt StoreError α} {value : α}
    (done : attempt.outcome = .done value) : (storing attempt).outcome = .done value := by
  unfold storing
  rw [Attempt.outcome_convert_error, done]
  rfl

theorem storing_failed {α : Type} {attempt : Attempt StoreError α} {error : StoreError}
    (failed : attempt.outcome = .failed error) :
    (storing attempt).outcome = .failed (ResourceError.ofStoreError error).value := by
  unfold storing
  rw [Attempt.outcome_convert_error, failed]
  rfl

section Endings

theorem find_record {table : Table} {identifier : Int} :
    (table.records.find? fun record => decide (record.identifier? = some identifier)).isSome =
      table.hasRecord identifier := by
  rw [Bool.eq_iff_iff, List.find?_isSome]
  exact List.any_eq_true.symm

variable (assigned : resource.entity.key = .assigned) (identified : table.IsIdentified)

include assigned identified

theorem find_one_ended (identifier : Int) :
    (Operation.findOne identifier).ended resource table =
      if table.hasRecord identifier then .done false else .failed .notFound := by
  have sought := storing_done (Store.find_by_id_identified assigned identified identifier)
  rw [← find_record]
  cases found : table.records.find? fun record => decide (record.identifier? = some identifier) with
  | none =>
      rw [found] at sought
      unfold ended execute
      dsimp only
      rw [sought]
      rfl
  | some record =>
      rw [found] at sought
      unfold ended execute
      dsimp only
      rw [sought]
      rfl

theorem update_ended (identifier : Int) (patch : List (String × Json)) :
    (Operation.update identifier patch).ended resource table =
      if !table.hasRecord identifier then .failed .notFound
      else if (Store.keptFields resource.entity patch).isEmpty ||
        resource.entity.takes (Store.keptFields resource.entity patch) then .done false
      else .failed .badInput := by
  have updated := Store.update_identified assigned identified identifier patch
  rw [← find_record]
  cases found : table.records.find? fun record => decide (record.identifier? = some identifier) with
  | none =>
      rw [found] at updated
      unfold ended execute
      dsimp only
      rw [storing_done updated]
      rfl
  | some existing =>
      rw [found] at updated
      cases nothing : (Store.keptFields resource.entity patch).isEmpty with
      | true =>
          rw [nothing] at updated
          unfold ended execute
          dsimp only
          rw [storing_done updated]
          rfl
      | false =>
          rw [nothing] at updated
          by_cases takes : resource.entity.takes (Store.keptFields resource.entity patch) = true
          · obtain ⟨given, read, _⟩ := Store.read_input_takes takes
            rw [read] at updated
            rw [takes]
            unfold ended execute
            dsimp only
            rw [storing_done updated]
            rfl
          · obtain ⟨reason, unread⟩ := Store.read_input_refuses takes
            rw [unread] at updated
            rw [Bool.eq_false_iff.mpr takes]
            unfold ended execute
            dsimp only
            rw [storing_failed updated]
            rfl

omit identified in
theorem create_ended (complete : resource.entity.IsComplete) (input : List (String × Json)) :
    (Operation.create input).ended resource table =
      if resource.entity.takes (Store.keptFields resource.entity input) then .done false
      else .failed .badInput := by
  by_cases takes : resource.entity.takes (Store.keptFields resource.entity input) = true
  · obtain ⟨record, after, inserted⟩ := Store.insert_takes assigned complete takes
    rw [takes]
    unfold ended execute
    dsimp only
    rw [storing_done inserted]
    rfl
  · obtain ⟨reason, refused⟩ := Store.insert_refuses takes
    rw [Bool.eq_false_iff.mpr takes]
    unfold ended execute
    dsimp only
    rw [storing_failed refused]
    rfl

omit identified in
theorem remove_ended {identifier : Int} (small : identifier ≤ Bound.greatest) :
    (Operation.remove identifier).ended resource table = .done false := by
  unfold ended execute
  dsimp only
  rw [storing_done (Store.delete_by_id_sound assigned small table)]
  rfl

omit assigned identified

theorem find_all_sensible {request : ListRequest}
    (sense : resource.makesSense request.filter = true)
    (within : (resource.query request).value.IsWithin) :
    (Operation.findAll request).ended resource table =
      if (Operation.findAll request).isDeclined resource table then .failed .internal
      else .done false := by
  obtain ⟨order, query, _⟩ := resource.query_value request
  have sound : ∀ predicate ∈ (resource.query request).value.predicates,
      predicate.isSound resource.entity = true := by
    rw [query]
    exact List.all_eq_true.mp sense
  obtain ⟨page, found⟩ := Store.find_page_within table sound within
  have told : (Operation.findAll request).isDeclined resource table =
      (Store.pageRefusal? resource.entity table (resource.query request).value).isSome := rfl
  rw [told]
  unfold ended execute
  dsimp only
  cases refused : Store.pageRefusal? resource.entity table (resource.query request).value with
  | none =>
      rw [refused] at found
      rw [storing_done found]
      rfl
  | some reason =>
      rw [refused] at found
      rw [storing_failed found]
      rfl

/-- Without a usable filter nothing is put to the store. -/
theorem remove_many_unfiltered {request : FilterRequest}
    (nothing : resource.filterPredicates request.filter = []) :
    (Operation.removeMany request).isDeclined resource table = false ∧
      (Operation.removeMany request).ended resource table =
        .done ((Operation.removeMany request).removesNothing resource table) := by
  have fits : Predicate.FitStatement [] 0 :=
    ⟨nofun, show 0 ≤ 32766 by decide, show 2 ≤ 1000 by decide⟩
  have unrefused : Store.removalRefusal? resource.entity table [] = none :=
    Store.removal_refusal_fitting nofun fits
  unfold isDeclined ended execute removesNothing
  dsimp only
  rw [nothing, unrefused]
  exact ⟨rfl, rfl⟩

theorem remove_many_sensible {request : FilterRequest}
    (sense : resource.makesSense request.filter = true)
    (within : ∀ predicate ∈ resource.filterPredicates request.filter, predicate.IsWithin) :
    (Operation.removeMany request).ended resource table =
      if (Operation.removeMany request).isDeclined resource table then .failed .internal
      else .done ((Operation.removeMany request).removesNothing resource table) := by
  by_cases nothing : resource.filterPredicates request.filter = []
  · have unasked : (Operation.removeMany request).isDeclined resource table = false ∧ _ :=
      remove_many_unfiltered nothing
    rw [unasked.1, unasked.2]
    rfl
  · have deleted := Store.delete_where_within table nothing (List.all_eq_true.mp sense) within
    have counted : ∀ holds : Record -> Bool,
        decide (0 < (table.records.filter holds).length) = table.records.any holds := by
      intro holds
      rw [Bool.eq_iff_iff, decide_eq_true_iff, List.length_filter_pos_iff, List.any_eq_true]
    have told : (Operation.removeMany request).isDeclined resource table =
        (Store.removalRefusal? resource.entity table
          (resource.filterPredicates request.filter)).isSome := rfl
    rw [told]
    unfold ended execute removesNothing
    dsimp only
    rw [List.isEmpty_eq_false_iff.mpr nothing, if_neg Bool.false_ne_true]
    cases refused : Store.removalRefusal? resource.entity table
        (resource.filterPredicates request.filter) with
    | none =>
        rw [refused] at deleted
        rw [storing_done deleted]
        dsimp only [Outcome.done_bind]
        rw [counted]
        cases table.records.any (Predicate.allHold resource.entity
          (resource.filterPredicates request.filter)) <;> rfl
    | some reason =>
        rw [refused] at deleted
        rw [storing_failed deleted]
        rfl

variable (plain : resource.HasPlainTransforms)

include plain

theorem find_all_senseless {request : ListRequest}
    (senseless : resource.makesSense request.filter = false) :
    (Operation.findAll request).ended resource table = .failed .badInput := by
  obtain ⟨order, query, _⟩ := resource.query_value request
  have unsound : ¬∀ predicate ∈ (resource.query request).value.predicates,
      predicate.isSound resource.entity = true := by
    rw [query]
    exact fun sound => Bool.eq_false_iff.mp senseless (List.all_eq_true.mpr sound)
  have allPlain : ∀ predicate ∈ (resource.query request).value.predicates,
      predicate.IsPlain := by
    rw [query]
    exact plain.filter_predicates request.filter
  obtain ⟨error, field, reason, failed, told⟩ := Store.find_page_refuses allPlain unsound
  unfold ended execute
  dsimp only
  rw [storing_failed failed, told]
  rfl

theorem remove_many_senseless {request : FilterRequest}
    (senseless : resource.makesSense request.filter = false) :
    (Operation.removeMany request).ended resource table = .failed .badInput := by
  have unsound : ¬∀ predicate ∈ resource.filterPredicates request.filter,
      predicate.isSound resource.entity = true :=
    fun sound => Bool.eq_false_iff.mp senseless (List.all_eq_true.mpr sound)
  have usable : resource.filterPredicates request.filter ≠ [] := by
    intro empty
    rw [empty] at unsound
    exact unsound fun predicate member => nomatch member
  obtain ⟨error, field, reason, failed, told⟩ :=
    Store.delete_where_refuses (plain.filter_predicates request.filter) unsound
  unfold ended execute
  dsimp only
  rw [List.isEmpty_eq_false_iff.mpr usable, if_neg Bool.false_ne_true, storing_failed failed, told]
  rfl

theorem find_all_ended {request : ListRequest} (within : (resource.query request).value.IsWithin) :
    (Operation.findAll request).ended resource table =
      if !resource.makesSense request.filter then .failed .badInput
      else if (Operation.findAll request).isDeclined resource table then .failed .internal
      else .done false := by
  cases sense : resource.makesSense request.filter with
  | true => exact find_all_sensible sense within
  | false => exact find_all_senseless plain sense

theorem remove_many_ended {request : FilterRequest}
    (within : ∀ predicate ∈ resource.filterPredicates request.filter, predicate.IsWithin) :
    (Operation.removeMany request).ended resource table =
      if !resource.makesSense request.filter then .failed .badInput
      else if (Operation.removeMany request).isDeclined resource table then .failed .internal
      else .done ((Operation.removeMany request).removesNothing resource table) := by
  cases sense : resource.makesSense request.filter with
  | true => exact remove_many_sensible sense within
  | false => exact remove_many_senseless plain sense

end Endings

theorem ended_as_objected (regular : resource.IsRegular) (identified : table.IsIdentified)
    {operation : Operation} (within : operation.IsWithin resource) :
    operation.ended resource table =
      match operation.objection resource table with
      | some failure => .failed failure
      | none => .done (operation.removesNothing resource table) := by
  cases operation with
  | findOne identifier =>
      rw [find_one_ended regular.assigned identified]
      unfold objection
      dsimp only
      split <;> rfl
  | findAll request =>
      rw [find_all_ended regular.plain within]
      unfold objection
      dsimp only
      split
      · rfl
      · split <;> rfl
  | create input =>
      rw [create_ended regular.assigned regular.complete]
      unfold objection
      dsimp only
      split <;> rfl
  | update identifier patch =>
      rw [update_ended regular.assigned identified]
      unfold objection
      dsimp only
      cases !table.hasRecord identifier with
      | true => rfl
      | false =>
          rw [if_neg Bool.false_ne_true, if_neg Bool.false_ne_true]
          split <;> rfl
  | remove identifier => exact remove_ended regular.assigned within
  | removeMany request =>
      rw [remove_many_ended regular.plain within]
      unfold objection
      dsimp only
      split
      · rfl
      · split <;> rfl

/-- The store does an operation that it has no objection to, and fails with the objection that it
has. -/
theorem execute_cases (regular : resource.IsRegular) (identified : table.IsIdentified)
    {operation : Operation} (within : operation.IsWithin resource) :
    (∃ value after, operation.execute resource (some table) = .done (value, after) ∧
      operation.objection resource table = none ∧
      Rest.removedNothing operation value = operation.removesNothing resource table) ∨
    ∃ error, operation.execute resource (some table) = .failed error ∧
      operation.objection resource table = some (Failure.ofError error) := by
  have same := ended_as_objected regular identified within
  unfold ended at same
  cases objected : operation.objection resource table with
  | none =>
      rw [objected] at same
      obtain ⟨⟨value, after⟩, done, removed⟩ := Outcome.map_eq_done.mp same
      exact .inl ⟨value, after, Outcome.map_error_eq_done.mp done, rfl, removed⟩
  | some failure =>
      rw [objected] at same
      cases own : operation.execute resource (some table) with
      | done answer =>
          rw [own] at same
          cases same
      | failed error =>
          rw [own] at same
          cases same
          exact .inr ⟨error, rfl, rfl⟩
      | crashed =>
          rw [own] at same
          cases same

section Declined

variable (plain : resource.HasPlainTransforms)

include plain

/-- What makes no sense is not put to the database. -/
theorem senseless_failed {filter : Option Encoded} (sense : ¬resource.makesSense filter = true) :
    ∃ error, Condition.ofPredicates resource.entity (resource.filterPredicates filter) =
      .error error := by
  have unsound : ¬∀ predicate ∈ resource.filterPredicates filter,
      predicate.isSound resource.entity = true :=
    fun sound => sense (List.all_eq_true.mpr sound)
  obtain ⟨error, _, _, failed, _⟩ :=
    Store.of_predicates_failed (plain.filter_predicates filter) unsound
  exact ⟨error, failed⟩

/-- The service is to blame for what the database refuses, and for nothing else. -/
theorem objection_internal {operation : Operation} :
    operation.objection resource table = some .internal ↔
      operation.isDeclined resource table = true := by
  cases operation with
  | remove identifier => simp [objection, isDeclined]
  | findOne _ | create _ =>
      unfold objection isDeclined
      dsimp only
      split <;> simp
  | update identifier patch =>
      unfold objection isDeclined
      dsimp only
      split
      · simp
      · split <;> simp
  | findAll request =>
      by_cases sense : resource.makesSense request.filter = true
      · unfold objection
        simp [sense]
      · obtain ⟨order, query, _⟩ := resource.query_value request
        obtain ⟨error, failed⟩ := senseless_failed plain sense
        have unasked : Store.pageRefusal? resource.entity table (resource.query request).value =
            none := by
          rw [Store.pageRefusal?, query, failed]
        simp [objection, isDeclined, sense, unasked]
  | removeMany request =>
      by_cases sense : resource.makesSense request.filter = true
      · unfold objection
        simp [sense]
      · obtain ⟨error, failed⟩ := senseless_failed plain sense
        have unasked : Store.removalRefusal? resource.entity table
            (resource.filterPredicates request.filter) = none := by
          rw [Store.removalRefusal?, failed]
        simp [objection, isDeclined, sense, unasked]

/-- The database refuses nothing that fits one statement. -/
theorem undeclined_of_fits {operation : Operation}
    (fits : operation.FitsStatement resource) : operation.isDeclined resource table = false := by
  cases operation with
  | findAll request =>
      obtain ⟨order, query, _⟩ := resource.query_value request
      have asked : (resource.query request).value.predicates =
          resource.filterPredicates request.filter := by
        rw [query]
      have unrefused : Store.pageRefusal? resource.entity table (resource.query request).value =
          none :=
        Store.page_refusal_fitting (asked ▸ plain.filter_predicates request.filter) (asked ▸ fits)
      unfold isDeclined
      dsimp only
      rw [unrefused]
      rfl
  | removeMany request =>
      have unrefused : Store.removalRefusal? resource.entity table
          (resource.filterPredicates request.filter) = none :=
        Store.removal_refusal_fitting (plain.filter_predicates request.filter) fits
      unfold isDeclined
      dsimp only
      rw [unrefused]
      rfl
  | findOne _ | create _ | update _ _ | remove _ => rfl

omit plain in
/-- A list by nothing but a text that is too long is refused wherever there is a record. -/
theorem declined_of_overlong {request : ListRequest} {field pattern : String}
    (asks : resource.filterPredicates request.filter = [.like field pattern])
    (isColumn : resource.entity.hasColumn field = true)
    (long : Sql.greatestPattern < pattern.utf8ByteSize) (filled : table.records ≠ []) :
    (Operation.findAll request).isDeclined resource table = true := by
  obtain ⟨order, query, _⟩ := resource.query_value request
  have overlong : (Condition.like field pattern).isOverlong = true := decide_eq_true long
  have refused : ∀ values : List Bound, (Backing.refusal? resource.entity
      [.like field pattern] values table.records).isSome = true := by
    intro values
    unfold Backing.refusal?
    rw [Condition.interruption_overlong overlong filled]
    cases Sql.excess? resource.entity [.like field pattern] values <;> rfl
  unfold isDeclined
  dsimp only
  rw [query, asks, Store.pageRefusal?, Store.of_like_predicate isColumn]
  dsimp only
  rw [Option.isSome_or, refused, Bool.or_true]

end Declined

end Operation
end GatedResources
