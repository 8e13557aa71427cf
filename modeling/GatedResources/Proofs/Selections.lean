import GatedResources.Proofs.PredicateMeaning
import GatedResources.Proofs.Writes
import Mathlib.Algebra.Order.BigOperators.Group.List
import Mathlib.Algebra.Order.Group.Nat

/-!
# Reading and deleting by predicates

With sound predicates the store reads, counts and deletes exactly the records that are what all
of the predicates say; the order of a selection does not matter for which records these are.
With an unsound predicate it does none of this.
-/

namespace GatedResources

namespace Selection

variable {entity : Entity} {table : Table} {selection : Selection} {holds : Record -> Bool}

def boundCount (selection : Selection) : Nat :=
  selection.limit.toList.length + selection.offset.toList.length

structure IsStorable (selection : Selection) : Prop where
  conditions : ∀ condition ∈ selection.conditions, condition.IsStorable
  offset : ∀ offset, selection.offset = some offset → offset ≤ Bound.greatest
  limit : ∀ limit, selection.limit = some limit → limit ≤ Bound.greatest

theorem IsStorable.select (storable : selection.IsStorable) :
    Sql.IsStorable (Sql.select entity selection) := by
  unfold Sql.select
  apply Sql.is_storable_append
  · apply Sql.is_storable_append
    · apply Sql.is_storable_append
      · apply Sql.is_storable_append
        · exact Sql.is_storable_cons trivial Sql.is_storable_nil
        · exact Condition.where_clause_storable storable.conditions _
      · cases selection.order with
        | none => exact Sql.is_storable_nil
        | some order => exact Sql.is_storable_cons trivial Sql.is_storable_nil
    · cases own : selection.limit with
      | none => exact Sql.is_storable_nil
      | some held =>
          exact Sql.is_storable_cons trivial
            (Sql.is_storable_cons (decide_eq_true (storable.limit held own)) Sql.is_storable_nil)
  · cases own : selection.offset with
    | none => exact Sql.is_storable_nil
    | some held =>
        exact Sql.is_storable_cons trivial
          (Sql.is_storable_cons (decide_eq_true (storable.offset held own)) Sql.is_storable_nil)

theorem IsStorable.unbounded {source : String} {conditions : List Condition}
    (storable : ∀ condition ∈ conditions, condition.IsStorable) (order : Option SortOrder) :
    IsStorable ⟨source, conditions, order, none, none⟩ :=
  ⟨storable, nofun, nofun⟩

theorem select_count (entity : Entity) (selection : Selection) :
    (Sql.parameters (Sql.select entity selection)).length =
      (selection.conditions.map Condition.valueCount).sum + selection.boundCount := by
  obtain ⟨source, conditions, order, offset, limit⟩ := selection
  have whereCount := Condition.where_clause_count source conditions
  unfold Sql.select boundCount
  simp only [Sql.parameters_append, List.length_append, whereCount]
  cases order <;> cases limit <;> cases offset <;>
    simp [Sql.selectAll, Sql.parameters, Sql.Piece.values]

/-- The records that match, in the order of the store, come in the order and within the bounds
that are asked for. -/
theorem run_yields (storable : selection.IsStorable)
    (tested : Condition.testAll entity selection.conditions = .ok holds) :
    (selection.run entity (some table)).Yields .database
      (Condition.FitStatement entity selection.conditions selection.boundCount)
      (selection.page
        (Condition.visited entity selection.conditions (table.records.filter holds))) :=
  Backing.execute_yields storable.select tested (Nat.le_of_eq (select_count entity selection))

theorem count_yields (storable : selection.IsStorable)
    (tested : Condition.testAll entity selection.conditions = .ok holds) :
    (selection.count entity (some table)).Yields .database
      (Condition.FitStatement entity selection.conditions selection.boundCount)
      (table.records.filter holds).length :=
  Backing.execute_yields storable.select tested (Nat.le_of_eq (select_count entity selection))

theorem visited_perm (entity : Entity) (conditions : List Condition) (records : List Record) :
    (Condition.visited entity conditions records).Perm records := by
  unfold Condition.visited
  split
  · exact .refl records
  · split
    · exact List.mergeSort_perm records _
    · exact .refl records

/-- Records with numbers of their own are visited in the order of the table. -/
theorem visited_assigned (assigned : entity.key = .assigned) (conditions : List Condition)
    (records : List Record) : Condition.visited entity conditions records = records := by
  unfold Condition.visited
  rw [assigned]

theorem page_unbounded_perm (source : String) (conditions : List Condition)
    (order : Option SortOrder) (records : List Record) :
    (page ⟨source, conditions, order, none, none⟩ records).Perm records := by
  cases order with
  | none => exact .refl records
  | some order => exact List.mergeSort_perm records order.allows

/-- The limit that goes with a query: without one of its own, an offset has the greatest one. -/
def limitOf (query : Query) : Option Nat :=
  match query.offset, query.limit with
  | _, some limit => some limit
  | some _, none => some unboundedLimit
  | none, none => none

theorem of_query_made {query : Query} {conditions : List Condition}
    (made : Condition.ofPredicates entity query.predicates = .ok conditions) :
    (ofQuery entity query).outcome = .done ⟨query.source, conditions,
      (knownOrder entity query.order).value, query.offset, limitOf query⟩ := by
  unfold ofQuery
  rw [Attempt.outcome_bind, made]
  rfl

end Selection

namespace Store

variable {entity : Entity} {table : Table} {predicates : List Predicate}

def wholeQuery (source : String) (predicates : List Predicate) (order : Option SortOrder) : Query :=
  ⟨source, predicates, order, none, none⟩

theorem of_query_failed {query : Query} {error : StoreError}
    (failed : Condition.ofPredicates entity query.predicates = .error error) :
    (Selection.ofQuery entity query).outcome = .failed error := by
  unfold Selection.ofQuery
  rw [Attempt.outcome_bind, failed]
  rfl

theorem filter_only_made {query : Query} {conditions : List Condition}
    (made : Condition.ofPredicates entity query.predicates = .ok conditions) :
    Selection.filterOnly entity query = .ok ⟨query.source, conditions, none, none, none⟩ := by
  unfold Selection.filterOnly
  rw [made]
  rfl

theorem delete_storable {conditions : List Condition}
    (storable : ∀ condition ∈ conditions, condition.IsStorable) :
    Sql.IsStorable (Sql.deleteWhere entity entity.table conditions) := by
  refine Sql.is_storable_cons ?_ ?_
  · trivial
  · split
    · exact Sql.is_storable_cons trivial Sql.is_storable_nil
    · exact Condition.where_clause_storable storable _

theorem delete_count (entity : Entity) (conditions : List Condition) :
    (Sql.parameters (Sql.deleteWhere entity entity.table conditions)).length =
      (conditions.map Condition.valueCount).sum := by
  cases conditions with
  | nil => rfl
  | cons condition rest => exact Condition.where_clause_count entity.table (condition :: rest)

section Statements

variable {conditions : List Condition} {holds : Record -> Bool}
  (storable : ∀ condition ∈ conditions, condition.IsStorable)
  (tested : Condition.testAll entity conditions = .ok holds)

include storable tested

/-- A query whose conditions and bounds can be handed over yields a page of the records that
match, and their number. -/
theorem find_page_yields {query : Query}
    (made : Condition.ofPredicates entity query.predicates = .ok conditions)
    (offset : ∀ offset, query.offset = some offset → offset ≤ Bound.greatest)
    (limit : ∀ limit, Selection.limitOf query = some limit → limit ≤ Bound.greatest) :
    let selection : Selection := ⟨query.source, conditions,
      (Selection.knownOrder entity query.order).value, query.offset, Selection.limitOf query⟩
    (findPage entity (some table) query).outcome.Yields .database
      (Condition.FitStatement entity conditions selection.boundCount)
      ⟨selection.page (Condition.visited entity conditions (table.records.filter holds)),
        (table.records.filter holds).length⟩ := by
  intro selection
  have run : (selection.run entity (some table)).Yields .database _ _ :=
    Selection.run_yields ⟨storable, offset, limit⟩ tested
  have count : (Selection.count entity (some table)
      ⟨query.source, conditions, none, none, none⟩).Yields .database _ _ :=
    Selection.count_yields (.unbounded storable none) tested
  unfold findPage
  rw [Attempt.outcome_bind, Selection.of_query_made made, Outcome.done_bind,
    Attempt.outcome_bind, Attempt.outcome_of_outcome]
  refine run.bind ?_
  rw [Attempt.outcome_bind, filter_only_made made, Attempt.outcome_of_except,
    Outcome.of_except_ok, Outcome.done_bind, Attempt.outcome_bind, Attempt.outcome_of_outcome]
  exact (count.mono fun fit => fit.beside (Nat.zero_le _)).bind (.of_done rfl)

/-- Why a deletion with these conditions is refused, if it is. -/
def deletionRefusal? (entity : Entity) (conditions : List Condition) (records : List Record) :
    Option String :=
  Backing.refusal? entity conditions
    (Sql.parameters (Sql.deleteWhere entity entity.table conditions)) records

theorem delete_where_formed {predicates : List Predicate} (nonempty : predicates ≠ [])
    (made : Condition.ofPredicates entity predicates = .ok conditions) :
    (deleteWhere entity (some table) predicates).outcome =
      (deletionRefusal? entity conditions table.records).elim
        (.done ((table.records.filter holds).length, some (table.without holds)))
        fun reason => .failed (.database reason) := by
  rw [delete_where_outcome nonempty, made, Outcome.of_except_ok, Outcome.done_bind,
    Backing.execute_storable (delete_storable storable) tested]
  rfl

end Statements

section Refusals

variable {conditions : List Condition} {records : List Record}

/-- A deletion that is too much for the store remains so with more conditions. -/
theorem deletion_excess_mono {fewer more : List Condition} (among : fewer.Sublist more)
    (small : Sql.excess? entity more
      (Sql.parameters (Sql.deleteWhere entity entity.table more)) = none) :
    Sql.excess? entity fewer
      (Sql.parameters (Sql.deleteWhere entity entity.table fewer)) = none := by
  rw [Backing.excess_none_iff, delete_count] at small ⊢
  have values : (fewer.map Condition.valueCount).sum ≤ (more.map Condition.valueCount).sum :=
    (among.map _).sum_le_sum fun _ _ => Nat.zero_le _
  exact ⟨Nat.le_trans values small.1,
    Nat.le_trans (Condition.joined_depth_mono entity among) small.2⟩

/-- Where a deletion is refused and one with further conditions is not, a pattern is too long. -/
theorem deletion_refused_alone {fewer more : List Condition} (among : fewer.Sublist more)
    {reason : String} (refused : deletionRefusal? entity fewer records = some reason)
    (answered : deletionRefusal? entity more records = none) :
    ∃ condition ∈ more, condition.isOverlong = true := by
  by_contra short
  have noneLong : ∀ condition ∈ fewer, condition.isOverlong = false := by
    intro condition inside
    rw [← Bool.not_eq_true]
    intro long
    exact short ⟨condition, among.subset inside, long⟩
  have small := (Option.or_eq_none_iff.mp answered).1
  rw [deletionRefusal?, Backing.refusal_short noneLong, deletion_excess_mono among small]
    at refused
  cases refused

end Refusals

section Crowded

variable {backing : Backing} {conditions : List Condition}
  (storable : ∀ condition ∈ conditions, condition.IsStorable)

include storable

/-- With more values than a statement takes no page is answered, whatever the table. -/
theorem find_page_crowded {query : Query}
    (made : Condition.ofPredicates entity query.predicates = .ok conditions)
    (offset : ∀ offset, query.offset = some offset → offset ≤ Bound.greatest)
    (limit : ∀ limit, Selection.limitOf query = some limit → limit ≤ Bound.greatest)
    (crowded : Sql.greatestValues < (conditions.map Condition.valueCount).sum +
      (Selection.limitOf query).toList.length + query.offset.toList.length) :
    (findPage entity backing query).outcome = .failed (.database "too many SQL variables") := by
  let selection : Selection := ⟨query.source, conditions,
    (Selection.knownOrder entity query.order).value, query.offset, Selection.limitOf query⟩
  have whole : selection.IsStorable := ⟨storable, offset, limit⟩
  have refused : selection.run entity backing =
      .failed (.database "too many SQL variables") := by
    apply Backing.execute_crowded whole.select
    rw [Selection.select_count, Selection.boundCount, ← Nat.add_assoc]
    exact crowded
  unfold findPage
  rw [Attempt.outcome_bind, Selection.of_query_made made, Outcome.done_bind, Attempt.outcome_bind,
    Attempt.outcome_of_outcome]
  exact congrArg (· >>= _) refused

theorem find_many_crowded {source : String} {order : Option SortOrder}
    (made : Condition.ofPredicates entity predicates = .ok conditions)
    (crowded : Sql.greatestValues < (conditions.map Condition.valueCount).sum) :
    (findMany entity backing (wholeQuery source predicates order)).outcome =
      .failed (.database "too many SQL variables") := by
  let selection : Selection :=
    ⟨source, conditions, (Selection.knownOrder entity order).value, none, none⟩
  have refused : selection.run entity backing =
      .failed (.database "too many SQL variables") := by
    apply Backing.execute_crowded (Selection.IsStorable.unbounded storable _).select
    rw [Selection.select_count]
    exact crowded
  unfold findMany
  rw [Attempt.outcome_bind, Selection.of_query_made made, Outcome.done_bind, Attempt.outcome_bind,
    Attempt.outcome_of_outcome]
  exact congrArg (· >>= _) refused

theorem delete_where_crowded (nonempty : predicates ≠ [])
    (made : Condition.ofPredicates entity predicates = .ok conditions)
    (crowded : Sql.greatestValues < (conditions.map Condition.valueCount).sum) :
    (deleteWhere entity backing predicates).outcome =
      .failed (.database "too many SQL variables") := by
  rw [delete_where_outcome nonempty, made, Outcome.of_except_ok, Outcome.done_bind,
    Backing.execute_crowded (delete_storable storable) (by rw [delete_count]; exact crowded)]

end Crowded

section Sound

variable (sound : ∀ predicate ∈ predicates, predicate.isSound entity = true)
  (within : ∀ predicate ∈ predicates, predicate.IsWithin)

include sound within

/-- A list has the records that are what the predicates say; in the order of the store when no
order is asked for. -/
theorem find_many_sound (source : String) (order : Option SortOrder) :
    ∃ records, (findMany entity (some table) (wholeQuery source predicates order)).outcome.Yields
        .database (Predicate.FitStatement predicates 0) records ∧
      records.Perm (table.records.filter (Predicate.allHold entity predicates)) ∧
      (order = none → entity.key = .assigned →
        records = table.records.filter (Predicate.allHold entity predicates)) := by
  obtain ⟨conditions, made, storable, tested⟩ := Condition.of_predicates_sound sound
  let selection : Selection :=
    ⟨source, conditions, (Selection.knownOrder entity order).value, none, none⟩
  have run : (selection.run entity (some table)).Yields .database _ _ :=
    Selection.run_yields (.unbounded (storable within) _) tested
  refine ⟨selection.page (Condition.visited entity conditions
    (table.records.filter (Predicate.allHold entity predicates))), ?_,
    (Selection.page_unbounded_perm _ _ _ _).trans (Selection.visited_perm _ _ _), ?_⟩
  · unfold findMany
    rw [Attempt.outcome_bind, Selection.of_query_made made, Outcome.done_bind,
      Attempt.outcome_bind, Attempt.outcome_of_outcome]
    refine (run.mono ?_).bind (.of_done rfl)
    exact Condition.of_predicates_fitting made (Predicate.plain_of_sound sound)
  · intro unordered assigned
    subst unordered
    exact Selection.visited_assigned assigned _ _

/-- A page has these records too, and their number. -/
theorem find_page_sound (source : String) (order : Option SortOrder) :
    ∃ records, (findPage entity (some table) (wholeQuery source predicates order)).outcome.Yields
        .database (Predicate.FitStatement predicates 0) ⟨records, records.length⟩ ∧
      records.Perm (table.records.filter (Predicate.allHold entity predicates)) := by
  obtain ⟨conditions, made, storable, tested⟩ := Condition.of_predicates_sound sound
  have whole : Condition.ofPredicates entity (wholeQuery source predicates order).predicates =
      .ok conditions := made
  have page : (findPage entity (some table) _).outcome.Yields .database _ _ :=
    find_page_yields (storable within) tested whole nofun nofun
  have listed := (Selection.page_unbounded_perm source conditions
    (Selection.knownOrder entity order).value (Condition.visited entity conditions
      (table.records.filter (Predicate.allHold entity predicates)))).trans
    (Selection.visited_perm _ _ _)
  refine ⟨_, ?_, listed⟩
  rw [listed.length_eq]
  exact page.mono (Condition.of_predicates_fitting made (Predicate.plain_of_sound sound))

theorem delete_where_sound (nonempty : predicates ≠ []) :
    (deleteWhere entity (some table) predicates).outcome.Yields .database
      (Predicate.FitStatement predicates 0)
      ((table.records.filter (Predicate.allHold entity predicates)).length,
        some (table.without (Predicate.allHold entity predicates))) := by
  obtain ⟨conditions, made, storable, tested⟩ := Condition.of_predicates_sound sound
  rw [delete_where_formed (storable within) tested nonempty made]
  constructor
  · intro fit
    have fits := Condition.of_predicates_fitting made (Predicate.plain_of_sound sound) fit
    rw [deletionRefusal?, Backing.refusal_fitting fits (Nat.le_of_eq (delete_count _ _))]
    rfl
  · cases deletionRefusal? entity conditions table.records with
    | none => exact .inl rfl
    | some reason => exact .inr ⟨reason, rfl⟩

/-- Where the database refuses a deletion, it refuses one with further predicates too or finds
nothing for it. -/
theorem delete_where_narrower {fewer : List Predicate} (among : fewer.Sublist predicates)
    (nonempty : fewer ≠ []) {reason : String}
    (refused : (deleteWhere entity (some table) fewer).outcome = .failed (.database reason)) :
    (deleteWhere entity (some table) predicates).outcome = .done (0, some table) ∨
      ∃ reason, (deleteWhere entity (some table) predicates).outcome =
        .failed (.database reason) := by
  have nonemptyToo : predicates ≠ [] := by
    intro none
    subst none
    exact nonempty (List.sublist_nil.mp among)
  obtain ⟨conditions, made, storable, tested⟩ := Condition.of_predicates_sound sound
  obtain ⟨some, madeSome, someAmong⟩ := Condition.of_predicates_sublist among made
  obtain ⟨_, sameSome, storableSome, testedSome⟩ := Condition.of_predicates_sound
    fun predicate member => sound predicate (among.subset member)
  cases madeSome.symm.trans sameSome
  rw [delete_where_formed (storableSome fun predicate member =>
    within predicate (among.subset member)) testedSome nonempty madeSome] at refused
  rw [delete_where_formed (storable within) tested nonemptyToo made]
  cases answered : deletionRefusal? entity conditions table.records with
  | some reason => exact .inr ⟨reason, rfl⟩
  | none =>
      cases own : deletionRefusal? entity some table.records with
      | none =>
          rw [own] at refused
          cases refused
      | some reason =>
          have long := deletion_refused_alone someAmong own answered
          have passed := (Option.or_eq_none_iff.mp answered).2
          have unselected := Condition.interruption_none_selects passed long tested
          rw [unselected, Table.without_none unselected]
          exact .inl rfl

/-- A deletion that is answered is answered again, and finds nothing. -/
theorem delete_where_again (nonempty : predicates ≠ []) {affected : Nat} {after : Backing}
    (deleted : (deleteWhere entity (some table) predicates).outcome = .done (affected, after)) :
    (deleteWhere entity (some (table.without (Predicate.allHold entity predicates)))
        predicates).outcome =
      .done (0, some (table.without (Predicate.allHold entity predicates))) := by
  obtain ⟨conditions, made, storable, tested⟩ := Condition.of_predicates_sound sound
  rw [delete_where_formed (storable within) tested nonempty made] at deleted ⊢
  obtain ⟨nothing, unchanged⟩ := table.without_twice (Predicate.allHold entity predicates)
  cases refused : deletionRefusal? entity conditions table.records with
  | some reason =>
      rw [refused] at deleted
      cases deleted
  | none =>
      have again := Backing.refusal_fewer refused fun record member =>
        (List.mem_filter.mp (show record ∈ (table.without
          (Predicate.allHold entity predicates)).records from member)).1
      rw [deletionRefusal?, again, nothing, unchanged]
      rfl

end Sound

section Overlong

variable {field pattern : String} (isColumn : entity.hasColumn field = true)
  (long : Sql.greatestPattern < pattern.utf8ByteSize) (filled : table.records ≠ [])

include isColumn

theorem of_like_predicate :
    Condition.ofPredicates entity [.like field pattern] = .ok [.like field pattern] := by
  simp only [Condition.ofPredicates, Condition.ofPredicate, Condition.column_known isColumn,
    List.mapM_cons, List.mapM_nil]
  rfl

/-- Without records no pattern is matched. -/
theorem delete_where_unread (empty : table.records = []) :
    (deleteWhere entity (some table) [.like field pattern]).outcome = .done (0, some table) := by
  have storable : ∀ condition ∈ [Condition.like field pattern], condition.IsStorable := by
    intro condition member
    cases List.mem_singleton.mp member
    trivial
  have tested : Condition.testAll entity [.like field pattern] =
      .ok fun record => Condition.isLike field pattern record && true := rfl
  have small : Sql.excess? entity [.like field pattern]
      (Sql.parameters (Sql.deleteWhere entity entity.table [.like field pattern])) = none := by
    rw [Backing.excess_none_iff, delete_count]
    exact ⟨show 1 ≤ 32766 by decide, show 3 ≤ 1000 by decide⟩
  have unselected : ∀ holds : Record -> Bool, table.records.filter holds = [] := by
    intro holds
    rw [empty]
    rfl
  have passed : Condition.interruption? entity [.like field pattern] table.records = none := by
    rw [empty]
    rfl
  rw [delete_where_formed storable tested (List.cons_ne_nil _ _) (of_like_predicate isColumn),
    deletionRefusal?, Backing.refusal?, small, passed, unselected,
    Table.without_none (unselected _)]
  rfl

include long filled

/-- A pattern that is too long cannot be asked for where there is a record. -/
theorem find_page_overlong (source : String) (order : Option SortOrder) :
    (findPage entity (some table) (wholeQuery source [.like field pattern] order)).outcome =
      .failed (.database "LIKE or GLOB pattern too complex") := by
  let selection : Selection := ⟨source, [.like field pattern],
    (Selection.knownOrder entity order).value, none, none⟩
  have storable : selection.IsStorable :=
    .unbounded (fun condition member => by cases List.mem_singleton.mp member; trivial) _
  have count : (Sql.parameters (Sql.select entity selection)).length ≤ Sql.greatestValues := by
    rw [Selection.select_count]
    exact show 1 ≤ 32766 by decide
  have refused : selection.run entity (some table) =
      .failed (.database "LIKE or GLOB pattern too complex") :=
    Backing.execute_overlong storable.select count long filled
  unfold findPage
  rw [Attempt.outcome_bind, Selection.of_query_made (of_like_predicate isColumn),
    Outcome.done_bind, Attempt.outcome_bind, Attempt.outcome_of_outcome]
  exact congrArg (· >>= _) refused

theorem delete_where_overlong :
    (deleteWhere entity (some table) [.like field pattern]).outcome =
      .failed (.database "LIKE or GLOB pattern too complex") := by
  have count := delete_count entity [.like field pattern]
  rw [delete_where_outcome (List.cons_ne_nil _ _), of_like_predicate isColumn,
    Outcome.of_except_ok, Outcome.done_bind, Backing.execute_overlong]
  · apply delete_storable
    intro condition member
    cases List.mem_singleton.mp member
    trivial
  · rw [count]
    exact show 1 ≤ 32766 by decide
  · exact long
  · exact filled

end Overlong

section Unsound

variable {before after : List Predicate} {predicate : Predicate} {backing : Backing}
  (sound : ∀ held ∈ before, held.isSound entity = true) (plain : predicate.IsPlain)
  (unsound : predicate.isSound entity = false)

include sound plain unsound

/-- With an unsound predicate there is no page, and the first such predicate is told. -/
theorem find_page_unsound (source : String) (order : Option SortOrder) :
    ∃ error field reason,
      (findPage entity backing (wholeQuery source (before ++ predicate :: after) order)).outcome =
        .failed error ∧
      predicate.field? = some field ∧
      (ResourceError.ofStoreError error).value = .validation field reason := by
  obtain ⟨error, field, reason, failed, named, told⟩ :=
    Condition.of_predicates_unsound sound plain unsound
  refine ⟨error, field, reason, ?_, named, told⟩
  unfold findPage
  rw [Attempt.outcome_bind, of_query_failed failed]
  rfl

theorem delete_where_unsound :
    ∃ error field reason,
      (deleteWhere entity backing (before ++ predicate :: after)).outcome = .failed error ∧
      predicate.field? = some field ∧
      (ResourceError.ofStoreError error).value = .validation field reason := by
  obtain ⟨error, field, reason, failed, named, told⟩ :=
    Condition.of_predicates_unsound sound plain unsound
  refine ⟨error, field, reason, ?_, named, told⟩
  rw [delete_where_outcome (by simp), failed, Outcome.of_except_error, Outcome.failed_bind]

end Unsound

end Store
end GatedResources
