import GatedResources.Proofs.BulkRemoval

/-!
# Numbers beyond the range of the store

The store takes whole numbers up to a greatest one, and a statement with a greater one ends
without an answer. The limit and the offset of a list, and the numbers that a filter compares
with, come from the request and are not checked against it, so an admitted request can end so. It
does exactly when the filter makes sense and one of its numbers is beyond the range.
-/

namespace GatedResources

namespace Sql

def Overflows (statement : Statement) : Prop :=
  ∃ value, Piece.parameter value ∈ statement ∧ value.isStorable = false

theorem mem_separated {separator : String} {statements : List Statement} {statement : Statement}
    {piece : Piece} (inside : piece ∈ statement) (member : statement ∈ statements) :
    piece ∈ separated separator statements := by
  induction statements with
  | nil => cases member
  | cons first rest claim =>
      cases rest with
      | nil =>
          rw [List.mem_singleton.mp member] at inside
          exact inside
      | cons next others =>
          rcases List.mem_cons.mp member with same | later
          · rw [same] at inside
            exact List.mem_append_left _ inside
          · exact List.mem_append_right _ (List.mem_cons_of_mem _ (claim later))

/-- Every value of a statement is handed over when it is rendered. -/
theorem render_parameter {statement : Statement} {rendered : Rendered} {value : Bound}
    (read : render statement = some rendered) (member : Piece.parameter value ∈ statement) :
    value ∈ rendered.values := by
  induction statement generalizing rendered with
  | nil => cases member
  | cons piece rest claim =>
      cases piece with
      | code text =>
          obtain ⟨others, readOthers, finished⟩ := Option.bind_eq_some_iff.mp read
          cases finished
          have later : Piece.parameter value ∈ rest := by simpa using member
          have inside := claim readOthers later
          exact inside
      | parameter own =>
          obtain ⟨others, readOthers, finished⟩ := Option.bind_eq_some_iff.mp read
          cases finished
          rcases List.mem_cons.mp member with same | later
          · cases same
            exact List.mem_cons_self
          · exact List.mem_cons_of_mem _ (claim readOthers later)
      | raw sql values =>
          obtain ⟨own, _, read⟩ := Option.bind_eq_some_iff.mp read
          obtain ⟨others, readOthers, finished⟩ := Option.bind_eq_some_iff.mp read
          cases finished
          have later : Piece.parameter value ∈ rest := by simpa using member
          exact List.mem_append_right _ (claim readOthers later)

end Sql

section Execution

variable {α : Type} {entity : Entity} {backing : Backing} {statement : Sql.Statement}
  {conditions : List Condition} {read : Table -> List Record}
  {answer : Table -> (Record -> Bool) -> α}

theorem Backing.execute_overflows (overflows : Sql.Overflows statement) :
    backing.execute entity statement conditions read answer = .crashed := by
  obtain ⟨value, member, refused⟩ := overflows
  unfold Backing.execute
  split
  · rfl
  · next rendered written =>
      rw [if_neg]
      intro storable
      have taken := List.all_eq_true.mp storable value (Sql.render_parameter written member)
      rw [refused] at taken
      cases taken

theorem Backing.execute_ends (storable : Sql.IsStorable statement) :
    backing.execute entity statement conditions read answer ≠ .crashed := by
  obtain ⟨text, written, values⟩ := Sql.render_storable storable
  unfold Backing.execute
  rw [written]
  dsimp only
  rw [if_pos values]
  split
  · exact nofun
  · split
    · exact nofun
    · split
      · exact nofun
      · split <;> exact nofun

end Execution

/-- A number that is not within range is handed over as one that the store does not take. -/
theorem Bound.of_json_beyond {field : String} {value : Json} {bound : Bound}
    (beyond : ¬value.IsWithin) (taken : ofJson field value = .ok bound) :
    bound.isStorable = false := by
  cases value with
  | null | bool _ | string _ | array _ | object _ => exact absurd trivial beyond
  | number value =>
      cases value with
      | float _ | signedZero | infinite _ => exact absurd trivial beyond
      | integer number =>
          have large : ¬number ≤ greatest := beyond
          have made : ofJson field (.number (.integer number)) = .ok (.unsigned number.toNat) :=
            if_neg large
          rw [made] at taken
          cases taken
          have beyondIt : ¬number.toNat ≤ greatest := by omega
          exact decide_eq_false beyondIt

namespace Condition

variable {entity : Entity}

theorem pieces_beyond {predicate : Predicate} {condition : Condition} (plain : predicate.IsPlain)
    (beyond : ¬predicate.IsWithin) (made : ofPredicate entity predicate = .ok condition)
    (source : String) (alone : Bool) :
    Sql.Overflows (Sql.conditionPieces source alone condition) := by
  have someBeyond : ∃ value ∈ predicate.carried, ¬value.IsWithin := by
    simpa [Predicate.IsWithin] using beyond
  obtain ⟨value, carried, large⟩ := someBeyond
  cases predicate with
  | equals field own =>
      cases List.mem_singleton.mp carried
      obtain ⟨column, _, made⟩ := except_bind_eq_ok.mp made
      obtain ⟨bound, taken, finished⟩ := except_bind_eq_ok.mp made
      cases finished
      exact ⟨bound, List.mem_cons_of_mem _ List.mem_cons_self, Bound.of_json_beyond large taken⟩
  | like field pattern => cases carried
  | oneOf field values =>
      obtain ⟨bounds, allTaken, made⟩ := except_bind_eq_ok.mp made
      obtain ⟨column, _, finished⟩ := except_bind_eq_ok.mp made
      cases finished
      obtain ⟨bound, inside, taken⟩ := except_map_mem allTaken carried
      refine ⟨bound, ?_, Bound.of_json_beyond large taken⟩
      cases bounds with
      | nil => cases inside
      | cons first rest =>
          apply List.mem_cons_of_mem
          apply List.mem_append_left
          exact Sql.mem_separated List.mem_cons_self
            (List.mem_map.mpr ⟨bound, inside, rfl⟩)
  | raw sql values => cases plain

theorem where_clause_beyond {predicates : List Predicate} {conditions : List Condition}
    (plain : ∀ predicate ∈ predicates, predicate.IsPlain)
    (beyond : ¬∀ predicate ∈ predicates, predicate.IsWithin)
    (made : ofPredicates entity predicates = .ok conditions) (source : String) :
    conditions ≠ [] ∧ Sql.Overflows (Sql.whereClause source conditions) := by
  have someBeyond : ∃ predicate ∈ predicates, ¬predicate.IsWithin := by
    simpa using beyond
  obtain ⟨predicate, member, large⟩ := someBeyond
  obtain ⟨condition, inside, own⟩ := except_map_mem made member
  cases conditions with
  | nil => cases inside
  | cons first rest =>
      obtain ⟨value, piece, refused⟩ := pieces_beyond (plain predicate member) large own source
        ((first :: rest).length == 1)
      refine ⟨List.cons_ne_nil _ _, value, ?_, refused⟩
      apply List.mem_cons_of_mem
      exact Sql.mem_separated piece (List.mem_map.mpr ⟨condition, inside, rfl⟩)

end Condition

/-- What a query asks of the store is within the range of the store. -/
structure Query.IsWithin (query : Query) : Prop where
  predicates : ∀ predicate ∈ query.predicates, predicate.IsWithin
  offset : ∀ offset, query.offset = some offset → offset ≤ Bound.greatest
  limit : ∀ limit, query.limit = some limit → limit ≤ Bound.greatest

theorem Query.not_within_iff {query : Query} : ¬query.IsWithin ↔
    (∃ predicate ∈ query.predicates, ¬predicate.IsWithin) ∨
      (∃ offset, query.offset = some offset ∧ Bound.greatest < offset) ∨
      ∃ limit, query.limit = some limit ∧ Bound.greatest < limit := by
  constructor
  · intro beyond
    by_contra none
    simp only [not_or, not_exists, not_and, not_not, Nat.not_lt] at none
    exact beyond ⟨none.1, none.2.1, none.2.2⟩
  · intro large within
    rcases large with ⟨predicate, member, large⟩ | ⟨offset, own, large⟩ | ⟨limit, own, large⟩
    · exact large (within.predicates predicate member)
    · exact Nat.not_le.mpr large (within.offset offset own)
    · exact Nat.not_le.mpr large (within.limit limit own)

namespace Selection

variable {entity : Entity} {backing : Backing} {query : Query} {conditions : List Condition}

theorem limit_within (within : query.IsWithin) :
    ∀ limit, limitOf query = some limit → limit ≤ Bound.greatest := by
  intro limit same
  unfold limitOf at same
  cases own : query.limit with
  | some held =>
      rw [own] at same
      have taken : some held = some limit := by
        cases query.offset <;> exact same
      exact within.limit limit (own.trans taken)
  | none =>
      rw [own] at same
      cases offset : query.offset with
      | none =>
          rw [offset] at same
          cases same
      | some skipped =>
          rw [offset] at same
          cases same
          exact Nat.le_refl _

theorem select_overflows {selection : Selection}
    (beyond : Sql.Overflows (Sql.whereClause selection.source selection.conditions) ∨
      (∃ offset, selection.offset = some offset ∧ ¬offset ≤ Bound.greatest) ∨
      ∃ limit, selection.limit = some limit ∧ ¬limit ≤ Bound.greatest) :
    Sql.Overflows (Sql.select entity selection) := by
  unfold Sql.select
  rcases beyond with ⟨value, member, refused⟩ | ⟨offset, own, large⟩ | ⟨limit, own, large⟩
  · refine ⟨value, ?_, refused⟩
    exact List.mem_append_left _ (List.mem_append_left _ (List.mem_append_left _
      (List.mem_append_right _ member)))
  · refine ⟨.unsigned offset, ?_, decide_eq_false large⟩
    rw [own]
    exact List.mem_append_right _ (List.mem_cons_of_mem _ List.mem_cons_self)
  · refine ⟨.unsigned limit, ?_, decide_eq_false large⟩
    rw [own]
    exact List.mem_append_left _ (List.mem_append_right _
      (List.mem_cons_of_mem _ List.mem_cons_self))

end Selection

namespace Store

variable {entity : Entity} {backing : Backing} {query : Query}

/-- A query whose predicates make sense has an end exactly when it is within range. -/
theorem run_crashed_iff (backing : Backing)
    (plain : ∀ predicate ∈ query.predicates, predicate.IsPlain)
    (sound : ∀ predicate ∈ query.predicates, predicate.isSound entity = true) :
    ∃ selection, (Selection.ofQuery entity query).outcome = .done selection ∧
      (selection.run entity backing = .crashed ↔ ¬query.IsWithin) := by
  obtain ⟨conditions, made, storable, _⟩ := Condition.of_predicates_sound sound
  refine ⟨_, Selection.of_query_made made, ?_⟩
  constructor
  · intro crashed within
    have selected : Selection.IsStorable ⟨query.source, conditions,
        (Selection.knownOrder entity query.order).value, query.offset, Selection.limitOf query⟩ :=
      ⟨storable within.predicates, within.offset, Selection.limit_within within⟩
    exact absurd crashed (Backing.execute_ends selected.select)
  · intro beyond
    apply Backing.execute_overflows
    apply Selection.select_overflows
    by_contra none
    simp only [not_or, not_exists, not_and, not_not] at none
    obtain ⟨noClause, noOffset, noLimit⟩ := none
    apply beyond
    refine ⟨?_, noOffset, ?_⟩
    · by_contra large
      exact noClause (Condition.where_clause_beyond plain large made _).2
    · intro limit own
      apply noLimit limit
      show Selection.limitOf query = some limit
      unfold Selection.limitOf
      rw [own]

/-- A filter with a predicate that makes no sense is refused before anything is handed over. -/
theorem of_predicates_failed {predicates : List Predicate}
    (plain : ∀ predicate ∈ predicates, predicate.IsPlain)
    (unsound : ¬∀ predicate ∈ predicates, predicate.isSound entity = true) :
    ∃ error field reason, Condition.ofPredicates entity predicates = .error error ∧
      (ResourceError.ofStoreError error).value = .validation field reason := by
  have someUnsound : ∃ predicate ∈ predicates, predicate.isSound entity = false := by
    simpa using unsound
  obtain ⟨before, first, after, split, sound, isNot⟩ := Predicate.exists_first_unsound someUnsound
  subst split
  have firstPlain := plain first (List.mem_append_right _ List.mem_cons_self)
  obtain ⟨error, field, reason, failed, _, told⟩ :=
    Condition.of_predicates_unsound sound firstPlain isNot
  exact ⟨error, field, reason, failed, told⟩

theorem find_many_crashed_iff (plain : ∀ predicate ∈ query.predicates, predicate.IsPlain) :
    (findMany entity backing query).outcome = .crashed ↔
      (∀ predicate ∈ query.predicates, predicate.isSound entity = true) ∧ ¬query.IsWithin := by
  by_cases sound : ∀ predicate ∈ query.predicates, predicate.isSound entity = true
  · obtain ⟨selection, made, crashes⟩ := run_crashed_iff backing plain sound
    unfold findMany
    rw [Attempt.outcome_bind, made, Outcome.done_bind, Attempt.outcome_bind,
      Attempt.outcome_of_outcome, ← crashes]
    constructor
    · intro crashed
      rcases Outcome.bind_eq_crashed.mp crashed with ran | ⟨_, _, impossible⟩
      · exact ⟨sound, ran⟩
      · cases impossible
    · rintro ⟨_, ran⟩
      rw [ran]
      rfl
  · obtain ⟨error, _, _, failed, _⟩ := of_predicates_failed plain sound
    unfold findMany Selection.ofQuery
    rw [Attempt.outcome_bind, Attempt.outcome_bind, failed]
    simp [sound]

theorem find_page_crashed_iff (plain : ∀ predicate ∈ query.predicates, predicate.IsPlain) :
    (findPage entity backing query).outcome = .crashed ↔
      (∀ predicate ∈ query.predicates, predicate.isSound entity = true) ∧ ¬query.IsWithin := by
  by_cases sound : ∀ predicate ∈ query.predicates, predicate.isSound entity = true
  · obtain ⟨selection, made, crashes⟩ := run_crashed_iff backing plain sound
    unfold findPage
    rw [Attempt.outcome_bind, made, Outcome.done_bind, Attempt.outcome_bind,
      Attempt.outcome_of_outcome]
    constructor
    · intro crashed
      refine ⟨sound, ?_⟩
      intro within
      rcases Outcome.bind_eq_crashed.mp crashed with ran | ⟨records, _, counting⟩
      · exact crashes.mp ran within
      · -- The count has the conditions of the page, and no bounds that could be out of range.
        obtain ⟨conditions, made, storable, _⟩ := Condition.of_predicates_sound sound
        rw [Attempt.outcome_bind, filter_only_made made, Attempt.outcome_of_except,
          Outcome.of_except_ok, Outcome.done_bind, Attempt.outcome_bind] at counting
        rcases Outcome.bind_eq_crashed.mp counting with counted | ⟨_, _, impossible⟩
        · have whole : Selection.IsStorable ⟨query.source, conditions, none, none, none⟩ :=
            .unbounded (storable within.predicates) none
          exact Backing.execute_ends whole.select counted
        · cases impossible
    · rintro ⟨_, beyond⟩
      rw [crashes.mpr beyond]
      rfl
  · obtain ⟨error, _, _, failed, _⟩ := of_predicates_failed plain sound
    unfold findPage Selection.ofQuery
    rw [Attempt.outcome_bind, Attempt.outcome_bind, failed]
    simp [sound]

theorem delete_overflows {conditions : List Condition} (filled : conditions ≠ [])
    (overflows : Sql.Overflows (Sql.whereClause entity.table conditions)) :
    Sql.Overflows (Sql.deleteWhere entity entity.table conditions) := by
  obtain ⟨value, member, refused⟩ := overflows
  refine ⟨value, ?_, refused⟩
  apply List.mem_cons_of_mem
  rw [if_neg (by simpa using filled)]
  exact member

theorem delete_where_crashed_iff {predicates : List Predicate}
    (plain : ∀ predicate ∈ predicates, predicate.IsPlain) :
    (deleteWhere entity backing predicates).outcome = .crashed ↔
      (∀ predicate ∈ predicates, predicate.isSound entity = true) ∧
        ¬∀ predicate ∈ predicates, predicate.IsWithin := by
  by_cases nothing : predicates = []
  · subst nothing
    simp [show (deleteWhere entity backing []).outcome = .done (0, backing) from rfl]
  rw [delete_where_outcome nothing]
  by_cases sound : ∀ predicate ∈ predicates, predicate.isSound entity = true
  · obtain ⟨conditions, made, storable, _⟩ := Condition.of_predicates_sound sound
    rw [made, Outcome.of_except_ok, Outcome.done_bind]
    constructor
    · intro crashed
      refine ⟨sound, ?_⟩
      intro within
      exact Backing.execute_ends (delete_storable (storable within)) crashed
    · rintro ⟨_, beyond⟩
      obtain ⟨filled, overflows⟩ := Condition.where_clause_beyond plain beyond made entity.table
      exact Backing.execute_overflows (delete_overflows filled overflows)
  · obtain ⟨error, _, _, failed, _⟩ := of_predicates_failed plain sound
    rw [failed]
    simp only [Outcome.of_except_error, Outcome.failed_bind, sound, false_and, reduceCtorEq]

end Store

namespace Resource

/-- No transform of the resource writes conditions in the language of the store. -/
def HasPlainTransforms (resource : Resource) : Prop :=
  ∀ field transform, resource.options.transforms.find? field = some transform →
    ∀ value predicate, transform resource.entity.table value = .predicate predicate →
      predicate.IsPlain

theorem HasPlainTransforms.filter_predicates {resource : Resource}
    (plain : resource.HasPlainTransforms) (filter : Option Encoded) :
    ∀ predicate ∈ resource.filterPredicates filter, predicate.IsPlain := by
  intro predicate member
  obtain ⟨entry, _, asked⟩ := Filter.mem_filter_predicates.mp member
  exact Filter.entry_predicate_plain plain asked

end Resource

namespace Handle

/-- An admitted request ends without an answer exactly when its filter makes sense and asks for a
number beyond the range of the store, or a list starts or ends beyond it. -/
theorem crashes_beyond_range {resource : Resource} (plain : resource.HasPlainTransforms)
    (principal : Principal) (backing : Backing) :
    (∀ (offered : resource.options.isHidden .find = false) (request : ListRequest),
      (resource.gate .find principal).outcome = .done () →
      let predicates := resource.filterPredicates request.filter
      let crashes := (∀ predicate ∈ predicates, predicate.isSound resource.entity = true) ∧
        ((∃ predicate ∈ predicates, ¬predicate.IsWithin) ∨
          (∃ offset, request.offset = some offset ∧ Bound.greatest < offset) ∨
          ∃ limit, request.limit = some limit ∧ Bound.greatest < limit)
      ((findAll ⟨resource, offered⟩ principal backing request).outcome = .crashed ↔ crashes) ∧
        ((findMany ⟨resource, offered⟩ principal backing request).outcome = .crashed ↔ crashes)) ∧
    (∀ (offered : resource.options.isHidden .delete = false) (request : FilterRequest),
      (resource.gate .delete principal).outcome = .done () →
      let predicates := resource.filterPredicates request.filter
      ((removeMany ⟨resource, offered⟩ principal backing request).outcome = .crashed ↔
        (∀ predicate ∈ predicates, predicate.isSound resource.entity = true) ∧
          ∃ predicate ∈ predicates, ¬predicate.IsWithin)) := by
  constructor
  · intro offered request admitted predicates crashes
    obtain ⟨order, query, _⟩ := resource.query_value request
    have plainQuery : ∀ predicate ∈ (resource.query request).value.predicates,
        predicate.IsPlain := by
      rw [query]
      exact plain.filter_predicates request.filter
    have asked : (∀ predicate ∈ (resource.query request).value.predicates,
        predicate.isSound resource.entity = true) ∧ ¬(resource.query request).value.IsWithin ↔
          crashes := by
      rw [Query.not_within_iff, query]
    constructor
    · rw [find_all_admitted admitted, Outcome.map_error_eq_crashed,
        Store.find_page_crashed_iff plainQuery, asked]
    · rw [find_many_admitted admitted, Outcome.map_error_eq_crashed,
        Store.find_many_crashed_iff plainQuery, asked]
  · intro offered request admitted predicates
    have plainFilter : ∀ predicate ∈ predicates, predicate.IsPlain :=
      plain.filter_predicates request.filter
    by_cases usable : predicates = []
    · have removed : (removeMany ⟨resource, offered⟩ principal backing request).outcome =
          .done (false, backing) := remove_many_where_unfiltered admitted usable
      rw [removed, usable]
      simp
    · have removed : (removeMany ⟨resource, offered⟩ principal backing request).outcome =
          ((Store.deleteWhere resource.entity backing (predicates ++ [])).outcome.mapError
            fun error => (ResourceError.ofStoreError error).value) >>= fun deleted =>
              .done (decide (0 < deleted.1), deleted.2) :=
        remove_many_where_filtered admitted usable
      have deletes : (removeMany ⟨resource, offered⟩ principal backing request).outcome =
          .crashed ↔ (Store.deleteWhere resource.entity backing predicates).outcome = .crashed := by
        rw [removed, List.append_nil]
        cases (Store.deleteWhere resource.entity backing predicates).outcome <;> simp
      rw [deletes, Store.delete_where_crashed_iff plainFilter]
      simp only [not_forall, exists_prop]

/-- A list of the questions with the limit 2 ^ 63 is admitted and ends without an answer. -/
theorem crashes_at_limit :
    let resource : Resource :=
      ⟨Entity.faqs, { ResourceOptions.named "faqs" with policy := ⟨[.find], []⟩ }⟩
    let request : ListRequest := ⟨none, none, none, some (Nat.pow 2 63)⟩
    ∃ offered : resource.options.isHidden .find = false, resource.HasPlainTransforms ∧
      (resource.gate .find .anonymous).outcome = .done () ∧
      (findAll ⟨resource, offered⟩ .anonymous (some Table.empty) request).outcome = .crashed := by
  intro resource request
  have plain : resource.HasPlainTransforms := by
    intro field transform impossible
    cases impossible
  have admitted : (resource.gate .find .anonymous).outcome = .done () := rfl
  have crashes := ((crashes_beyond_range plain .anonymous (some Table.empty)).1 rfl request
    admitted).1
  refine ⟨rfl, plain, admitted, crashes.mpr ⟨?_, .inr (.inr ⟨Nat.pow 2 63, rfl, by decide⟩)⟩⟩
  intro predicate member
  cases member

end Handle

end GatedResources
