import GatedResources.Proofs.BoundValues
import GatedResources.Proofs.IdentifierLists
import GatedResources.Proofs.NumberRange
import Mathlib

/-!
# Paging

A list without bounds has the records that match, sorted by a column where the request names one
and in the order of the store otherwise. Records with the same value in the column keep their
order in both directions, so there is one such list for every table, and a list with bounds is a
part of it. Pages of one size, one after the other, are the whole list. Bounds are values of the
statement, so where a list just fits one, its pages may not.
-/

namespace GatedResources

/-- Where a value stands in an ascending order: null before numbers, numbers before texts, and
texts by code points. -/
def Cell.place : Cell -> WithBot (Int ⊕ₗ List Char)
  | .null => ⊥
  | .integer value => (Sum.inlₗ value : Int ⊕ₗ List Char)
  | .flag value => (Sum.inlₗ (if value then 1 else 0) : Int ⊕ₗ List Char)
  | .text value => (Sum.inrₗ value.toList : Int ⊕ₗ List Char)

namespace Scalar

inductive StandsAt : Scalar -> WithBot (Int ⊕ₗ List Char) -> Prop where
  | null : StandsAt .null ⊥
  | number (value : Int) : StandsAt (.integer value) (Sum.inlₗ value : Int ⊕ₗ List Char)
  | text (value : String) : StandsAt (.text value) (Sum.inrₗ value.toList : Int ⊕ₗ List Char)

theorem cell_stands (cell : Cell) : (ofCell cell).StandsAt cell.place := by
  cases cell with
  | null => exact .null
  | text value => exact .text value
  | integer value => exact .number value
  | flag value => exact .number _

theorem compare_congr {α β : Type} [LT α] [DecidableLT α] [DecidableEq α] [LinearOrder β]
    {first second : α} {left right : β} (less : first < second ↔ left < right)
    (same : first = second ↔ left = right) :
    compareOfLessAndEq first second = compare left right := by
  rw [LinearOrder.compare_eq_compareOfLessAndEq]
  unfold compareOfLessAndEq
  simp only [less, same]

/-- The values of cells are compared by their places. -/
theorem order_standing {first second : Scalar} {left right : WithBot (Int ⊕ₗ List Char)}
    (isFirst : first.StandsAt left) (isSecond : second.StandsAt right) :
    first.order second = compare left right := by
  cases isFirst with
  | null =>
      cases isSecond with
      | null => exact compare_congr (by simp) (by simp)
      | number value | text value => exact compare_congr (by simp [rank]) (by simp [rank])
  | number value =>
      cases isSecond with
      | number other => exact compare_congr (by simp) (by simp)
      | null | text other => exact compare_congr (by simp [rank]) (by simp [rank])
  | text value =>
      cases isSecond with
      | text other =>
          apply compare_congr
          · rw [WithBot.coe_lt_coe, Sum.Lex.inr_lt_inr_iff]
            exact String.lt_iff
          · simp [String.toList_inj]
      | null | number other => exact compare_congr (by simp [rank]) (by simp [rank])

theorem order_cells (first second : Cell) :
    (ofCell first).order (ofCell second) = compare first.place second.place :=
  order_standing (cell_stands first) (cell_stands second)

end Scalar

namespace SortOrder

def Admits (order : SortOrder) (first second : Record) : Prop :=
  match order.direction with
  | .ascending => (first.cell order.field).place ≤ (second.cell order.field).place
  | .descending => (second.cell order.field).place ≤ (first.cell order.field).place

/-- Records in an order: each may stand before all later ones, and those with one place in the
column stand as before. -/
structure Sorts (order : SortOrder) (records sorted : List Record) : Prop where
  permuted : sorted.Perm records
  ordered : sorted.Pairwise order.Admits
  stable : ∀ place, (sorted.filter fun record => (record.cell order.field).place = place) =
    records.filter fun record => (record.cell order.field).place = place

variable {order : SortOrder}

theorem allows_iff {first second : Record} :
    order.allows first second = true ↔ order.Admits first second := by
  unfold allows Admits
  dsimp only
  rw [Scalar.order_cells]
  cases order.direction with
  | ascending => rw [bne_iff_ne, Ne, compare_gt_iff_gt, not_lt]
  | descending => rw [bne_iff_ne, Ne, compare_lt_iff_lt, not_lt]

theorem allows_trans (first second third : Record) (before : order.allows first second = true)
    (behind : order.allows second third = true) : order.allows first third = true := by
  rw [allows_iff] at before behind ⊢
  unfold Admits at before behind ⊢
  cases own : order.direction with
  | ascending =>
      rw [own] at before behind
      exact le_trans before behind
  | descending =>
      rw [own] at before behind
      exact le_trans behind before

theorem allows_total (first second : Record) :
    (order.allows first second || order.allows second first) = true := by
  rw [Bool.or_eq_true, allows_iff, allows_iff]
  unfold Admits
  cases order.direction with
  | ascending => exact le_total _ _
  | descending => exact le_total _ _

theorem admits_same {first second : Record}
    (same : (first.cell order.field).place = (second.cell order.field).place) :
    order.Admits first second := by
  unfold Admits
  cases order.direction with
  | ascending => exact same.le
  | descending => exact same.ge

theorem sort_sorts (order : SortOrder) (records : List Record) :
    order.Sorts records (order.sort records) := by
  have permuted : (order.sort records).Perm records := List.mergeSort_perm records order.allows
  refine ⟨permuted, ?_, ?_⟩
  · exact (List.pairwise_mergeSort allows_trans allows_total records).imp allows_iff.mp
  · intro place
    let tied := fun record : Record => decide ((record.cell order.field).place = place)
    have admitted : (records.filter tied).Pairwise fun first second =>
        order.allows first second = true := by
      apply List.pairwise_of_forall_mem_list
      intro first firstIs second secondIs
      have firstPlace := of_decide_eq_true (List.mem_filter.mp firstIs).2
      have secondPlace := of_decide_eq_true (List.mem_filter.mp secondIs).2
      exact allows_iff.mpr (admits_same (firstPlace.trans secondPlace.symm))
    have kept : (records.filter tied).Sublist (order.sort records) :=
      List.sublist_mergeSort allows_trans allows_total admitted List.filter_sublist
    have among := kept.filter tied
    rw [List.filter_filter] at among
    simp only [Bool.and_self] at among
    exact (among.eq_of_length ((permuted.filter tied).length_eq.symm)).symm

theorem admits_antisymm {first second : Record} (before : order.Admits first second)
    (behind : order.Admits second first) :
    (first.cell order.field).place = (second.cell order.field).place := by
  unfold Admits at before behind
  cases own : order.direction with
  | ascending =>
      rw [own] at before behind
      exact le_antisymm before behind
  | descending =>
      rw [own] at before behind
      exact le_antisymm behind before

theorem mem_of_places {left right : List Record}
    (same : ∀ place, (left.filter fun record => (record.cell order.field).place = place) =
      right.filter fun record => (record.cell order.field).place = place) (record : Record) :
    record ∈ left ↔ record ∈ right := by
  have among := congrArg (record ∈ ·) (same (record.cell order.field).place)
  simpa using among

/-- Two lists in an order are one, if they have the same records in each place. -/
theorem ordered_unique {left right : List Record} (leftOrdered : left.Pairwise order.Admits)
    (rightOrdered : right.Pairwise order.Admits)
    (same : ∀ place, (left.filter fun record => (record.cell order.field).place = place) =
      right.filter fun record => (record.cell order.field).place = place) : left = right := by
  have members := mem_of_places same
  induction left generalizing right with
  | nil =>
      cases right with
      | nil => rfl
      | cons other rest => cases (members other).mpr List.mem_cons_self
  | cons record left claim =>
      cases right with
      | nil => cases (members record).mp List.mem_cons_self
      | cons other right =>
          obtain ⟨recordFirst, leftRest⟩ := List.pairwise_cons.mp leftOrdered
          obtain ⟨otherFirst, rightRest⟩ := List.pairwise_cons.mp rightOrdered
          have tied : (record.cell order.field).place = (other.cell order.field).place := by
            rcases List.mem_cons.mp ((members record).mp List.mem_cons_self) with equal | behind
            · rw [equal]
            · rcases List.mem_cons.mp ((members other).mpr List.mem_cons_self) with equal | later
              · rw [equal]
              · exact admits_antisymm (recordFirst other later) (otherFirst record behind)
          -- Both stand first among the records of their place.
          have heads := same (record.cell order.field).place
          rw [List.filter_cons_of_pos (by simp), List.filter_cons_of_pos (by simp [tied])] at heads
          obtain ⟨rfl, _⟩ := List.cons.inj heads
          have rest : ∀ place,
              (left.filter fun held => (held.cell order.field).place = place) =
                right.filter fun held => (held.cell order.field).place = place := by
            intro place
            have both := same place
            rw [List.filter_cons, List.filter_cons] at both
            split at both
            · exact (List.cons.inj both).2
            · exact both
          rw [claim leftRest rightRest rest (mem_of_places rest)]

/-- Records have one list in an order. -/
theorem Sorts.unique {records first second : List Record} (isFirst : order.Sorts records first)
    (isSecond : order.Sorts records second) : first = second :=
  ordered_unique isFirst.ordered isSecond.ordered fun place =>
    (isFirst.stable place).trans (isSecond.stable place).symm

end SortOrder

/-! ## Lists with bounds -/

namespace Sql

/-- A condition in SQL takes some of its values. -/
theorem positional_count {tokens : List Token} {values : List Bound} {rendered : Rendered}
    (matched : positional tokens values = some rendered) :
    rendered.values.length ≤ values.length := by
  fun_induction positional tokens values generalizing rendered with
  | case1 values =>
      cases matched
      exact Nat.zero_le _
  | case2 =>
      rename_i claim
      obtain ⟨others, read, finished⟩ := Option.bind_eq_some_iff.mp matched
      cases finished
      show others.values.length ≤ _
      exact claim read
  | case5 =>
      rename_i claim
      obtain ⟨others, read, finished⟩ := Option.bind_eq_some_iff.mp matched
      cases finished
      show others.values.length ≤ _
      exact claim read
  | case3 rest => cases matched
  | case4 =>
      rename_i claim
      obtain ⟨others, read, finished⟩ := Option.bind_eq_some_iff.mp matched
      cases finished
      exact Nat.succ_le_succ (claim read)

/-- A statement has no more values than its pieces. -/
theorem render_count {statement : Statement} {rendered : Rendered}
    (read : render statement = some rendered) :
    rendered.values.length ≤ (parameters statement).length := by
  induction statement generalizing rendered with
  | nil =>
      cases read
      exact Nat.le_refl 0
  | cons piece rest claim =>
      cases piece with
      | code text =>
          obtain ⟨others, readOthers, finished⟩ := Option.bind_eq_some_iff.mp read
          cases finished
          show others.values.length ≤ (parameters rest).length
          exact claim readOthers
      | parameter own =>
          obtain ⟨others, readOthers, finished⟩ := Option.bind_eq_some_iff.mp read
          cases finished
          exact Nat.succ_le_succ (claim readOthers)
      | raw sql given =>
          obtain ⟨own, matched, read⟩ := Option.bind_eq_some_iff.mp read
          obtain ⟨others, readOthers, finished⟩ := Option.bind_eq_some_iff.mp read
          cases finished
          show (own.values ++ others.values).length ≤ (given ++ parameters rest).length
          rw [List.length_append, List.length_append]
          exact Nat.add_le_add (positional_count matched) (claim readOthers)

/-- A statement that can be handed over can be with further pieces too. -/
theorem render_further {statement further : Statement} {rendered : Rendered}
    (read : render statement = some rendered) (storable : IsStorable further) :
    ∃ longer, render (statement ++ further) = some longer ∧
      longer.values = rendered.values ++ parameters further := by
  induction statement generalizing rendered with
  | nil =>
      obtain ⟨text, written, _⟩ := render_storable storable
      cases read
      exact ⟨_, written, rfl⟩
  | cons piece rest claim =>
      rw [List.cons_append]
      cases piece with
      | code text =>
          obtain ⟨others, readOthers, finished⟩ := Option.bind_eq_some_iff.mp read
          cases finished
          obtain ⟨longer, readLonger, values⟩ := claim readOthers
          refine ⟨⟨text.toList ++ longer.text, longer.values⟩, ?_, values⟩
          unfold render
          rw [readLonger]
          rfl
      | parameter own =>
          obtain ⟨others, readOthers, finished⟩ := Option.bind_eq_some_iff.mp read
          cases finished
          obtain ⟨longer, readLonger, values⟩ := claim readOthers
          refine ⟨⟨'?' :: longer.text, own :: longer.values⟩, ?_, congrArg (own :: ·) values⟩
          unfold render
          rw [readLonger]
          rfl
      | raw sql given =>
          obtain ⟨own, matched, read⟩ := Option.bind_eq_some_iff.mp read
          obtain ⟨others, readOthers, finished⟩ := Option.bind_eq_some_iff.mp read
          cases finished
          obtain ⟨longer, readLonger, values⟩ := claim readOthers
          refine ⟨own.append longer, ?_, ?_⟩
          · unfold render
            rw [matched, readLonger]
            rfl
          · show own.values ++ longer.values = (own.values ++ others.values) ++ parameters further
            rw [values, List.append_assoc]

theorem bound_storable (keyword : String) {bound : Option Nat}
    (within : ∀ held, bound = some held → held ≤ Bound.greatest) :
    IsStorable (boundClause keyword bound) := by
  cases bound with
  | none => exact is_storable_nil
  | some held =>
      exact is_storable_cons trivial
        (is_storable_cons (decide_eq_true (within held rfl)) is_storable_nil)

theorem bound_count (keyword : String) (bound : Option Nat) :
    (parameters (boundClause keyword bound)).length ≤ 1 := by
  cases bound with
  | none => exact Nat.zero_le 1
  | some held => exact Nat.le_refl 1

end Sql

namespace Selection

def bounds (offset limit : Option Nat) (records : List Record) : List Record :=
  match limit with
  | some limit => (records.drop (offset.getD 0)).take limit
  | none => records.drop (offset.getD 0)

variable {entity : Entity} {table : Table} {source : String} {conditions : List Condition}
  {order : Option SortOrder} {offset limit : Option Nat} {records : List Record}

/-- A limit that is given is the limit of the list. -/
theorem bounds_limited {query : Query} {taken : Nat} (limited : query.limit = some taken) :
    bounds query.offset (limitOf query) records =
      (records.drop (query.offset.getD 0)).take taken := by
  unfold limitOf bounds
  rw [limited]

/-- The limit that stands in for a missing one leaves nothing out of a list that the store can
number. -/
theorem bounds_unlimited {query : Query} (unlimited : query.limit = none)
    (short : query.offset = none ∨ records.length ≤ Bound.greatest) :
    bounds query.offset (limitOf query) records = records.drop (query.offset.getD 0) := by
  unfold limitOf bounds
  rw [unlimited]
  cases own : query.offset with
  | none => rfl
  | some skipped =>
      rw [own] at short
      rcases short with impossible | short
      · cases impossible
      · apply List.take_of_length_le
        rw [List.length_drop]
        exact (Nat.sub_le _ _).trans short

theorem page_bounds (records : List Record) :
    page ⟨source, conditions, order, offset, limit⟩ records =
      bounds offset limit (page ⟨source, conditions, order, none, none⟩ records) := by
  unfold page bounds
  rfl

theorem select_bounds :
    Sql.select entity ⟨source, conditions, order, offset, limit⟩ =
      Sql.select entity ⟨source, conditions, order, none, none⟩ ++
        (Sql.boundClause " LIMIT " limit ++ Sql.boundClause " OFFSET " offset) := by
  rw [Sql.select_clauses, Sql.select_clauses]
  unfold Sql.clauses Sql.boundClause
  simp only [List.append_nil, List.append_assoc]

/-- A list without bounds has the records of the page that the conditions hold of. -/
theorem run_eq_done :
    run entity (some table) ⟨source, conditions, order, none, none⟩ = .done records ↔
      ∃ rendered holds,
        Sql.render (Sql.select entity ⟨source, conditions, order, none, none⟩) = some rendered ∧
        rendered.values.all Bound.isStorable = true ∧
        Sql.excess? entity conditions rendered.values = none ∧
        Condition.testAll entity conditions = .ok holds ∧
        Condition.interruption? entity conditions table.records = none ∧
        records = page ⟨source, conditions, order, none, none⟩
          (Condition.visited entity conditions (table.records.filter holds)) := by
  unfold run
  rw [Backing.execute_eq_done]
  constructor
  · rintro ⟨rendered, own, holds, written, values, small, same, tested, passed, made⟩
    cases same
    exact ⟨rendered, holds, written, values, small, tested, passed, made⟩
  · rintro ⟨rendered, holds, written, values, small, tested, passed, made⟩
    exact ⟨rendered, table, holds, written, values, small, rfl, tested, passed, made⟩

/-- Where a list without bounds is answered, its parts are answered too, unless the bounds are too
many values. -/
theorem run_bounded
    (ran : run entity (some table) ⟨source, conditions, order, none, none⟩ = .done records)
    (offsetWithin : ∀ skipped, offset = some skipped → skipped ≤ Bound.greatest)
    (limitWithin : ∀ taken, limit = some taken → taken ≤ Bound.greatest) :
    (run entity (some table) ⟨source, conditions, order, offset, limit⟩).Yields .database
      ((conditions.map Condition.valueCount).sum + 2 ≤ Sql.greatestValues)
      (bounds offset limit records) := by
  obtain ⟨rendered, holds, written, values, small, tested, passed, made⟩ := run_eq_done.mp ran
  let further := Sql.boundClause " LIMIT " limit ++ Sql.boundClause " OFFSET " offset
  have furtherStorable : Sql.IsStorable further :=
    Sql.is_storable_append (Sql.bound_storable _ limitWithin) (Sql.bound_storable _ offsetWithin)
  have furtherValues := (Sql.render_storable furtherStorable).choose_spec.2
  obtain ⟨longer, readLonger, sameValues⟩ := Sql.render_further written furtherStorable
  rw [← select_bounds] at readLonger
  have all : longer.values.all Bound.isStorable = true := by
    rw [sameValues, List.all_append, values, furtherValues]
    rfl
  have passedToo : Condition.interruption? entity conditions
      (read ⟨source, conditions, order, offset, limit⟩ table) = none := by
    unfold read
    split
    · rfl
    · exact passed
  have answered : Sql.excess? entity conditions longer.values = none →
      run entity (some table) ⟨source, conditions, order, offset, limit⟩ =
        .done (bounds offset limit records) := by
    intro fits
    refine Backing.execute_eq_done.mpr ⟨longer, table, holds, readLonger, all, fits, rfl, tested,
      passedToo, ?_⟩
    rw [made]
    exact (page_bounds _).symm
  constructor
  · intro fit
    apply answered
    obtain ⟨_, flat⟩ := Backing.excess_none_iff.mp small
    refine Backing.excess_none_iff.mpr ⟨Nat.le_trans ?_ fit, flat⟩
    have own := Sql.render_count written
    rw [select_count] at own
    have limitCount := Sql.bound_count " LIMIT " limit
    have offsetCount := Sql.bound_count " OFFSET " offset
    rw [sameValues, List.length_append, Sql.parameters_append, List.length_append]
    exact Nat.add_le_add own (Nat.add_le_add limitCount offsetCount)
  · cases fits : Sql.excess? entity conditions longer.values with
    | none => exact .inl (answered fits)
    | some reason =>
        refine .inr ⟨reason, ?_⟩
        unfold run Backing.execute
        rw [readLonger]
        dsimp only
        rw [if_pos all, fits]

end Selection

namespace Store

variable {entity : Entity} {backing : Backing} {query : Query}

theorem find_page_eq_done {page : Page Record} :
    (findPage entity backing query).outcome = .done page ↔
      ∃ conditions, Condition.ofPredicates entity query.predicates = .ok conditions ∧
        Selection.run entity backing ⟨query.source, conditions,
          (Selection.knownOrder entity query.order).value, query.offset,
          Selection.limitOf query⟩ = .done page.data ∧
        Selection.count entity backing ⟨query.source, conditions, none, none, none⟩ =
          .done page.count := by
  constructor
  · intro found
    unfold findPage at found
    rw [Attempt.outcome_bind] at found
    obtain ⟨selection, selected, found⟩ := Outcome.bind_eq_done.mp found
    obtain ⟨conditions, made, rfl⟩ := Query.of_query_parts selected
    rw [Attempt.outcome_bind] at found
    obtain ⟨records, ran, found⟩ := Outcome.bind_eq_done.mp found
    rw [Attempt.outcome_bind, filter_only_made made, Attempt.outcome_of_except,
      Outcome.of_except_ok, Outcome.done_bind, Attempt.outcome_bind] at found
    obtain ⟨count, counted, found⟩ := Outcome.bind_eq_done.mp found
    cases found
    exact ⟨conditions, made, ran, counted⟩
  · rintro ⟨conditions, made, ran, counted⟩
    unfold findPage
    rw [Attempt.outcome_bind, Selection.of_query_made made, Outcome.done_bind,
      Attempt.outcome_bind, Attempt.outcome_of_outcome, ran, Outcome.done_bind,
      Attempt.outcome_bind, filter_only_made made, Attempt.outcome_of_except,
      Outcome.of_except_ok, Outcome.done_bind, Attempt.outcome_bind, Attempt.outcome_of_outcome,
      counted]
    rfl

/-- The records of a page are listed without their number too. -/
theorem find_many_of_page {page : Page Record}
    (found : (findPage entity backing query).outcome = .done page) :
    (findMany entity backing query).outcome = .done page.data := by
  obtain ⟨conditions, made, ran, _⟩ := find_page_eq_done.mp found
  unfold findMany
  rw [Attempt.outcome_bind, Selection.of_query_made made, Outcome.done_bind, Attempt.outcome_bind,
    Attempt.outcome_of_outcome, ran]
  rfl

variable {table : Table} {source : String} {predicates : List Predicate}
  {order : Option SortOrder} {whole : Page Record}

/-- A page of everything has the records that the conditions hold of, in the order asked for. -/
theorem find_page_whole
    (found : (findPage entity (some table) (wholeQuery source predicates order)).outcome =
      .done whole) :
    ∃ conditions matching, Condition.ofPredicates entity predicates = .ok conditions ∧
      Condition.testAll entity conditions = .ok matching ∧
      whole.data = Selection.page
        ⟨source, conditions, (Selection.knownOrder entity order).value, none, none⟩
        (Condition.visited entity conditions (table.records.filter matching)) ∧
      whole.count = (table.records.filter matching).length := by
  obtain ⟨conditions, made, ran, counted⟩ := find_page_eq_done.mp found
  obtain ⟨_, matching, _, _, _, tested, _, listed⟩ := Selection.run_eq_done.mp ran
  obtain ⟨_, _, counting, _, _, _, sameToo, testedToo, _, number⟩ :=
    Backing.execute_eq_done.mp counted
  cases sameToo
  cases tested.symm.trans testedToo
  exact ⟨conditions, matching, made, tested, listed, number⟩

/-- The pages of a query that is answered as a whole, with their number or without. -/
theorem find_bounded {offset limit : Option Nat}
    (found : (findPage entity (some table) (wholeQuery source predicates order)).outcome =
      .done whole)
    (offsetWithin : ∀ skipped, offset = some skipped → skipped ≤ Bound.greatest)
    (limitWithin : ∀ taken, limit = some taken → taken ≤ Bound.greatest) :
    let query : Query := ⟨source, predicates, order, offset, limit⟩
    let part := Selection.bounds offset (Selection.limitOf query) whole.data
    let fits := (predicates.map Predicate.valueCount).sum + 2 ≤ Sql.greatestValues
    (findPage entity (some table) query).outcome.Yields .database fits ⟨part, whole.count⟩ ∧
      (findMany entity (some table) query).outcome.Yields .database fits part := by
  intro query part fits
  obtain ⟨conditions, made, ran, counted⟩ := find_page_eq_done.mp found
  have bounding : Condition.ofPredicates entity query.predicates = .ok conditions := made
  have countedToo :
      Selection.count entity (some table) ⟨query.source, conditions, none, none, none⟩ =
        .done whole.count := counted
  have standIn : ∀ taken, Selection.limitOf query = some taken → taken ≤ Bound.greatest := by
    intro taken own
    cases limit with
    | some held =>
        have same : some held = some taken := by
          cases offset <;> exact own
        exact limitWithin taken same
    | none =>
        cases offset with
        | none => cases own
        | some skipped =>
            cases own
            exact Nat.le_refl _
  have bounded := Selection.run_bounded ran offsetWithin standIn
  rw [Condition.sized_value_count (Condition.of_predicates_sized made)] at bounded
  constructor
  · unfold findPage
    rw [Attempt.outcome_bind, Selection.of_query_made bounding, Outcome.done_bind,
      Attempt.outcome_bind, Attempt.outcome_of_outcome]
    refine bounded.bind (.of_done ?_)
    rw [Attempt.outcome_bind, filter_only_made bounding, Attempt.outcome_of_except,
      Outcome.of_except_ok, Outcome.done_bind, Attempt.outcome_bind, Attempt.outcome_of_outcome,
      countedToo]
    rfl
  · unfold findMany
    rw [Attempt.outcome_bind, Selection.of_query_made bounding, Outcome.done_bind,
      Attempt.outcome_bind, Attempt.outcome_of_outcome]
    exact bounded.bind (.of_done rfl)

end Store

/-- Pages of one size are the whole list, if there are enough of them. -/
theorem pages_join {α : Type} (size count : Nat) (records : List α)
    (enough : records.length ≤ count * size) :
    ((List.range count).flatMap fun number => (records.drop (number * size)).take size) =
      records := by
  induction count generalizing records with
  | zero =>
      rw [Nat.zero_mul, Nat.le_zero, List.length_eq_zero_iff] at enough
      rw [enough]
      rfl
  | succ count claim =>
      have rest := claim (records.drop size) (by
        rw [List.length_drop]
        rw [Nat.succ_mul] at enough
        omega)
      rw [List.range_succ_eq_map, List.flatMap_cons, List.flatMap_map, Nat.zero_mul,
        List.drop_zero]
      have later : ∀ number, (records.drop ((number + 1) * size)).take size =
          ((records.drop size).drop (number * size)).take size := by
        intro number
        rw [List.drop_drop, Nat.succ_mul, Nat.add_comm]
      simp only [Nat.succ_eq_add_one, later]
      rw [rest, List.take_append_drop]

/-! ## Lists of a resource -/

theorem Selection.known_order_value (entity : Entity) (asked : Option SortOrder) :
    (knownOrder entity asked).value = asked.filter fun order => entity.hasColumn order.field := by
  cases asked with
  | none => rfl
  | some order =>
      unfold knownOrder
      dsimp only [Option.filter_some]
      by_cases isColumn : entity.hasColumn order.field = true
      · rw [if_pos isColumn, if_pos isColumn]
        rfl
      · rw [if_neg isColumn, if_neg isColumn]
        rfl

/-- A sort order is an array that starts with a text. -/
theorem SortOrder.compile_value {sort : Encoded} {order : SortOrder} :
    (compile sort).value = some order ↔
      ∃ field rest, sort.value? = some (.array (.string field :: rest)) ∧
        order = ⟨field, directionOf rest.head?⟩ := by
  unfold compile
  cases sort.value? with
  | none => simp
  | some value =>
      cases value with
      | null | bool _ | number _ | string _ | object _ => simp
      | array elements =>
          cases elements with
          | nil => simp
          | cons first rest =>
              cases first with
              | null | bool _ | number _ | array _ | object _ => simp
              | string field => simp [eq_comm]

theorem Query.order_value {sort : Option Encoded} {order : SortOrder} :
    (compileOrder sort).value = some order ↔
      ∃ field rest, sort.bind Encoded.value? = some (.array (.string field :: rest)) ∧
        order = ⟨field, SortOrder.directionOf rest.head?⟩ := by
  cases sort with
  | none => simp [compileOrder]
  | some encoded =>
      rw [compile_order_some, Option.bind_some]
      exact SortOrder.compile_value

/-- The order of a list is the one that the request names, if it names a column. -/
theorem known_order_asked {entity : Entity} {sort : Option Encoded} {order : SortOrder} :
    (Selection.knownOrder entity (Query.compileOrder sort).value).value = some order ↔
      ∃ field rest, sort.bind Encoded.value? = some (.array (.string field :: rest)) ∧
        entity.hasColumn field = true ∧ order = ⟨field, SortOrder.directionOf rest.head?⟩ := by
  rw [Selection.known_order_value, Option.filter_eq_some_iff, Query.order_value]
  constructor
  · rintro ⟨⟨field, rest, read, rfl⟩, isColumn⟩
    exact ⟨field, rest, read, isColumn, rfl⟩
  · rintro ⟨field, rest, read, isColumn, rfl⟩
    exact ⟨⟨field, rest, read, rfl⟩, isColumn⟩

/-- Without conditions in the language of the store, the records that match are those that meet
all entries. -/
theorem Resource.matching_meets {resource : Resource} {filter : Option Encoded}
    {conditions : List Condition} {matching : Record -> Bool}
    (plain : resource.HasPlainTransforms)
    (made : Condition.ofPredicates resource.entity (resource.filterPredicates filter) =
      .ok conditions)
    (tested : Condition.testAll resource.entity conditions = .ok matching) (record : Record) :
    matching record = true ↔ ∀ entry ∈ Filter.entries filter,
      Filter.Meets resource.entity resource.options.transforms record entry.1 entry.2 := by
  have sound : ∀ predicate ∈ resource.filterPredicates filter,
      predicate.isSound resource.entity = true := by
    by_contra unsound
    obtain ⟨_, _, _, failed, _⟩ :=
      Store.of_predicates_failed (plain.filter_predicates filter) unsound
    cases made.symm.trans failed
  obtain ⟨_, same, _, agrees⟩ := Condition.of_predicates_sound sound
  cases made.symm.trans same
  cases tested.symm.trans agrees
  rw [Filter.predicates_of_entries]
  exact Filter.all_hold_meets _

namespace Handle

variable {handle : Handle .find} {principal : Principal}

section Bounded

variable {table : Table} {filter sort : Option Encoded} {whole : Page Record}
  (found : (handle.findAll principal (some table) ⟨filter, sort, none, none⟩).outcome =
    .done whole)

include found

theorem find_page_of_list :
    (Store.findPage handle.resource.entity (some table)
      (Store.wholeQuery handle.resource.entity.table (handle.resource.filterPredicates filter)
        (Query.compileOrder sort).value)).outcome = .done whole := by
  rw [find_all_admitted (find_all_eq_done found), Outcome.map_error_eq_done] at found
  exact found

/-- A list with bounds is a part of the one without, with its number or without. -/
theorem find_bounded {offset limit : Option Nat}
    (offsetWithin : ∀ skipped, offset = some skipped → skipped ≤ Bound.greatest)
    (limitWithin : ∀ taken, limit = some taken → taken ≤ Bound.greatest) :
    let request : ListRequest := ⟨filter, sort, offset, limit⟩
    let part := Selection.bounds offset
      (Selection.limitOf (handle.resource.query request).value) whole.data
    let fits := ((handle.resource.filterPredicates filter).map Predicate.valueCount).sum + 2 ≤
      Sql.greatestValues
    (handle.findAll principal (some table) request).outcome.Yields ResourceError.ofRefusal fits
        ⟨part, whole.count⟩ ∧
      (handle.findMany principal (some table) request).outcome.Yields ResourceError.ofRefusal fits
        part := by
  intro request part fits
  have admitted := find_all_eq_done found
  obtain ⟨page, records⟩ :=
    Store.find_bounded (find_page_of_list found) offsetWithin limitWithin
  constructor
  · rw [find_all_admitted admitted]
    exact page.of_store
  · rw [find_many_admitted admitted]
    exact records.of_store

theorem find_many_of_list :
    (handle.findMany principal (some table) ⟨filter, sort, none, none⟩).outcome =
      .done whole.data := by
  rw [find_many_admitted (find_all_eq_done found), Outcome.map_error_eq_done]
  exact Store.find_many_of_page (find_page_of_list found)

end Bounded

/-- A list of as many identifiers as a statement takes values is answered, and no page of it is. -/
theorem find_all_full {table : Table} {filter : Encoded} {identifiers : List Int} {taken : Nat}
    (admitted : (handle.resource.gate .find principal).outcome = .done ())
    (assigned : handle.resource.entity.key = .assigned)
    (small : ∀ identifier ∈ identifiers, identifier ≤ Bound.greatest)
    (full : identifiers.length = Sql.greatestValues)
    (read : filter.value? = some (Filter.ofIdentifiers identifiers))
    (within : taken ≤ Bound.greatest) :
    (∃ whole, (handle.findAll principal (some table) ⟨some filter, none, none, none⟩).outcome =
      .done whole) ∧
    (handle.findAll principal (some table) ⟨some filter, none, none, some taken⟩).outcome =
      .failed (.ofRefusal "too many SQL variables") := by
  have asked : handle.resource.filterPredicates (some filter) =
      [.oneOf identifierField (identifiers.map Json.integer)] :=
    Filter.compile_identifiers read _ _
  have nonempty : identifiers ≠ [] := by
    rintro rfl
    cases full
  constructor
  · obtain ⟨whole, yields, _⟩ : ∃ whole,
        (handle.findAll principal (some table) ⟨some filter, none, none, none⟩).outcome.Yields _ _
          whole ∧ _ :=
      find_all_sound admitted (by rw [asked]; exact Store.identifiers_sound assigned identifiers)
        (by rw [asked]; exact Store.identifiers_within small)
    refine ⟨whole, yields.fitting ?_⟩
    rw [asked]
    apply Predicate.choice_fits
    rw [List.length_map, full]
    decide
  · obtain ⟨conditions, made, storable, count⟩ := Store.identifiers_made assigned small nonempty
    rw [← asked] at made
    obtain ⟨order, query, _⟩ := handle.resource.query_value ⟨filter, none, none, taken⟩
    rw [find_all_admitted admitted, query, Store.find_page_crowded storable made]
    · rfl
    · rintro _ ⟨⟩
    · rintro _ ⟨⟩
      exact within
    · rw [count, full]
      exact Nat.lt_succ_self _

end Handle
end GatedResources
