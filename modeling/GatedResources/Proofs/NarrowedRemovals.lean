import GatedResources.Proofs.Autocommit
import GatedResources.Proofs.NumberRange
import GatedResources.Proofs.OwnValues

/-!
# Narrowing a bulk removal

Every entry of a filter is put into a predicate on its own account, and a removal takes away what
meets all predicates. So a further entry can stop a removal or spare records, but never take away
more. An entry for a field that is no column stops the removal, whatever the other entries are.
-/

namespace GatedResources

def StoreError.IsTold (error : StoreError) : Prop :=
  ∃ field reason, (ResourceError.ofStoreError error).value = .validation field reason

namespace Condition

variable {entity : Entity}

theorem column_told {field : String} {error : StoreError}
    (failed : column entity field = .error error) : error.IsTold := by
  unfold column at failed
  split at failed
  · cases failed
  · cases failed
    exact ⟨_, _, rfl⟩

theorem bound_told {field : String} {value : Json} {error : StoreError}
    (failed : Bound.ofJson field value = .error error) : error.IsTold := by
  cases isScalar : value.scalar? with
  | none =>
      rw [Bound.of_json_other isScalar] at failed
      cases failed
      exact ⟨_, _, rfl⟩
  | some scalar =>
      obtain ⟨bound, taken, _⟩ := Bound.of_json_scalar isScalar field
      rw [taken] at failed
      cases failed

theorem bounds_told {field : String} {values : List Json} {error : StoreError}
    (failed : values.mapM (Bound.ofJson field) = .error error) : error.IsTold := by
  obtain ⟨value, _, own⟩ := except_map_error failed
  exact bound_told own

theorem of_predicate_told {predicate : Predicate} {error : StoreError}
    (failed : ofPredicate entity predicate = .error error) : error.IsTold := by
  cases predicate with
  | equals field value =>
      rcases except_bind_eq_error.mp failed with unknown | ⟨_, _, failed⟩
      · exact column_told unknown
      · rcases except_bind_eq_error.mp failed with other | ⟨_, _, impossible⟩
        · exact bound_told other
        · cases impossible
  | like field pattern =>
      rcases except_bind_eq_error.mp failed with unknown | ⟨_, _, impossible⟩
      · exact column_told unknown
      · cases impossible
  | oneOf field values =>
      rcases except_bind_eq_error.mp failed with other | ⟨_, _, failed⟩
      · exact bounds_told other
      · rcases except_bind_eq_error.mp failed with unknown | ⟨_, _, impossible⟩
        · exact column_told unknown
        · cases impossible
  | raw sql values =>
      rcases except_bind_eq_error.mp failed with other | ⟨_, _, impossible⟩
      · exact bounds_told other
      · cases impossible

/-- One predicate that is about no column is enough for a fault, and every fault is told. -/
theorem of_predicates_unknown {predicates : List Predicate} {predicate : Predicate} {field : String}
    (member : predicate ∈ predicates) (pattern : String) (own : predicate = .like field pattern)
    (unknown : entity.hasColumn field = false) :
    ∃ error : StoreError, ofPredicates entity predicates = .error error ∧ error.IsTold := by
  cases made : ofPredicates entity predicates with
  | error error =>
      obtain ⟨_, _, failed⟩ := except_map_error made
      exact ⟨error, rfl, of_predicate_told failed⟩
  | ok conditions =>
      obtain ⟨condition, _, formed⟩ := except_map_mem made member
      rw [own] at formed
      obtain ⟨_, known, _⟩ := except_bind_eq_ok.mp formed
      rw [column_unknown (by rw [unknown]; decide)] at known
      cases known

end Condition

namespace Autocommit

def removeMany (handle : Handle .delete) (principal : Principal) (request : FilterRequest) :
    Autocommit ResourceError Bool :=
  removeManyWhere handle principal request []

theorem remove_many_whole (handle : Handle .delete) (principal : Principal)
    (request : FilterRequest) :
    (removeMany handle principal request).Whole fun backing =>
      handle.removeMany principal backing request :=
  remove_many_where_whole handle principal request []

end Autocommit

/-- How a bulk removal can end on a table, with what it leaves. The database declines it only if it
does not fit one statement. -/
inductive Resource.RemovalEnds (resource : Resource) (filter : Option Encoded) (table : Table) :
    Outcome ResourceError Bool × Backing -> Prop where
  | unfiltered (unusable : resource.filterPredicates filter = []) :
      RemovalEnds resource filter table (.done false, some table)
  | refused (field reason : String)
      (unsound : ¬∀ predicate ∈ resource.filterPredicates filter,
        predicate.isSound resource.entity = true) :
      RemovalEnds resource filter table (.failed (.validation field reason), some table)
  | crashed (sound : ∀ predicate ∈ resource.filterPredicates filter,
        predicate.isSound resource.entity = true)
      (beyond : ∃ predicate ∈ resource.filterPredicates filter, ¬predicate.IsWithin) :
      RemovalEnds resource filter table (.crashed, some table)
  | declined (reason : String)
      (declines : (Store.deleteWhere resource.entity (some table)
        (resource.filterPredicates filter)).outcome = .failed (.database reason))
      (unfit : ¬Predicate.FitStatement (resource.filterPredicates filter) 0) :
      RemovalEnds resource filter table (.failed (.ofRefusal reason), some table)
  | removed (usable : resource.filterPredicates filter ≠ [])
      (sound : ∀ predicate ∈ resource.filterPredicates filter,
        predicate.isSound resource.entity = true)
      (within : ∀ predicate ∈ resource.filterPredicates filter, predicate.IsWithin)
      (deletes : (Store.deleteWhere resource.entity (some table)
        (resource.filterPredicates filter)).outcome =
          .done ((table.records.filter
            (Predicate.allHold resource.entity (resource.filterPredicates filter))).length,
          some (table.without
            (Predicate.allHold resource.entity (resource.filterPredicates filter))))) :
      RemovalEnds resource filter table
        (.done (decide (0 < (table.records.filter
          (Predicate.allHold resource.entity (resource.filterPredicates filter))).length)),
        some (table.without
          (Predicate.allHold resource.entity (resource.filterPredicates filter))))

namespace Resource.RemovalEnds

variable {resource : Resource} {filter : Option Encoded} {table : Table}
  {ended : Outcome ResourceError Bool × Backing}

theorem failed_why (ends : resource.RemovalEnds filter table ended) {error : ResourceError}
    (failed : ended.1 = .failed error) :
    (∃ field reason, error = .validation field reason ∧
      ¬∀ predicate ∈ resource.filterPredicates filter,
        predicate.isSound resource.entity = true) ∨
    ∃ reason, error = .ofRefusal reason ∧
      ¬Predicate.FitStatement (resource.filterPredicates filter) 0 := by
  cases ends with
  | refused field reason unsound =>
      cases failed
      exact .inl ⟨field, reason, rfl, unsound⟩
  | declined reason _ unfit =>
      cases failed
      exact .inr ⟨reason, rfl, unfit⟩
  | unfiltered _ | crashed _ _ | removed _ _ _ _ => cases failed

theorem of_unsound (ends : resource.RemovalEnds filter table ended)
    (usable : resource.filterPredicates filter ≠ [])
    (unsound : ¬∀ predicate ∈ resource.filterPredicates filter,
      predicate.isSound resource.entity = true) :
    ∃ error, ended = (.failed error, some table) := by
  cases ends with
  | unfiltered unusable => exact absurd unusable usable
  | refused _ _ _ | declined _ _ _ => exact ⟨_, rfl⟩
  | crashed sound _ => exact absurd sound unsound
  | removed _ sound _ _ => exact absurd sound unsound

theorem of_sound (ends : resource.RemovalEnds filter table ended)
    (usable : resource.filterPredicates filter ≠ [])
    (sound : ∀ predicate ∈ resource.filterPredicates filter,
      predicate.isSound resource.entity = true)
    (within : ∀ predicate ∈ resource.filterPredicates filter, predicate.IsWithin) :
    ended = (.done (decide (0 < (table.records.filter
        (Predicate.allHold resource.entity (resource.filterPredicates filter))).length)),
      some (table.without
        (Predicate.allHold resource.entity (resource.filterPredicates filter)))) ∨
    ∃ reason, ended = (.failed (.ofRefusal reason), some table) ∧
      ¬Predicate.FitStatement (resource.filterPredicates filter) 0 ∧
      (Store.deleteWhere resource.entity (some table)
        (resource.filterPredicates filter)).outcome = .failed (.database reason) := by
  cases ends with
  | unfiltered unusable => exact absurd unusable usable
  | refused _ _ unsound => exact absurd sound unsound
  | crashed _ beyond =>
      obtain ⟨predicate, member, isBeyond⟩ := beyond
      exact absurd (within predicate member) isBeyond
  | declined reason declines unfit => exact .inr ⟨reason, rfl, unfit, declines⟩
  | removed _ _ _ _ => exact .inl rfl

end Resource.RemovalEnds

/-- A deletion with a pattern that no record matches is answered, whatever pattern comes next. -/
theorem Store.delete_where_unmatched {entity : Entity} {table : Table}
    {field pattern later text : String} (isColumn : entity.hasColumn field = true)
    (isColumnToo : entity.hasColumn later = true)
    (short : pattern.utf8ByteSize ≤ Sql.greatestPattern)
    (unmatched : ∀ record ∈ table.records, Condition.isLike field pattern record = false) :
    (deleteWhere entity (some table) [.like field pattern, .like later text]).outcome =
      .done (0, some table) := by
  let conditions : List Condition := [.like field pattern, .like later text]
  let holds := fun record =>
    Condition.isLike field pattern record && (Condition.isLike later text record && true)
  have made : Condition.ofPredicates entity [.like field pattern, .like later text] =
      .ok conditions := by
    simp only [Condition.ofPredicates, Condition.ofPredicate, Condition.column_known isColumn,
      Condition.column_known isColumnToo, List.mapM_cons, List.mapM_nil]
    rfl
  have storable : ∀ condition ∈ conditions, condition.IsStorable := by
    intro condition member
    rcases List.mem_cons.mp member with same | later
    · exact same ▸ trivial
    · exact List.mem_singleton.mp later ▸ trivial
  have tested : Condition.testAll entity conditions = .ok holds := rfl
  have small : Sql.excess? entity conditions
      (Sql.parameters (Sql.deleteWhere entity entity.table conditions)) = none := by
    rw [Backing.excess_none_iff, delete_count]
    exact ⟨show 2 ≤ 32766 by decide, show 4 ≤ 1000 by decide⟩
  have passed : Condition.interruption? entity conditions table.records = none := by
    refine Condition.interruption_none_iff.mpr fun record member => ?_
    show Condition.comesToOverlong entity record conditions = false
    rw [Condition.comesToOverlong, show (Condition.like field pattern).isOverlong = false from
      decide_eq_false (Nat.not_lt.mpr short), Bool.false_or]
    show (Condition.isLike field pattern record && _) = false
    rw [unmatched record member, Bool.false_and]
  have unselected : table.records.filter holds = [] := by
    rw [List.filter_eq_nil_iff]
    intro record member
    unfold holds
    rw [unmatched record member, Bool.false_and]
    exact Bool.false_ne_true
  rw [delete_where_formed storable tested (List.cons_ne_nil _ _) made, deletionRefusal?,
    Backing.refusal?, small, passed, unselected, Table.without_none unselected]
  rfl

namespace Handle

variable {handle : Handle .delete} {principal : Principal} {filter : Option Encoded}

theorem remove_many_ends (admitted : (handle.resource.gate .delete principal).outcome = .done ())
    (plain : ∀ predicate ∈ handle.resource.filterPredicates filter, predicate.IsPlain)
    (table : Table) :
    handle.resource.RemovalEnds filter table
      ((Autocommit.removeMany handle principal ⟨filter⟩).run (some table)) := by
  rw [Autocommit.remove_many_whole]
  unfold removeMany
  by_cases unusable : handle.resource.filterPredicates filter = []
  · rw [remove_many_where_unfiltered admitted unusable]
    exact .unfiltered unusable
  · by_cases sound : ∀ predicate ∈ handle.resource.filterPredicates filter,
        predicate.isSound handle.resource.entity = true
    · rw [remove_many_where_filtered admitted unusable, List.append_nil]
      by_cases within : ∀ predicate ∈ handle.resource.filterPredicates filter, predicate.IsWithin
      · have yields : (Store.deleteWhere handle.resource.entity (some table)
            (handle.resource.filterPredicates filter)).outcome.Yields _ _ _ :=
          Store.delete_where_sound sound within unusable
        rcases yields.otherwise with deleted | ⟨reason, declined⟩
        · rw [deleted]
          exact .removed unusable sound within deleted
        · rw [declined]
          refine .declined reason declined ?_
          intro fit
          rw [yields.fitting fit] at declined
          cases declined
      · have beyond : (Store.deleteWhere handle.resource.entity (some table)
            (handle.resource.filterPredicates filter)).outcome = .crashed :=
          (Store.delete_where_crashed_iff plain).mpr ⟨sound, within⟩
        rw [beyond]
        exact .crashed sound (by simpa using within)
    · obtain ⟨field, reason, failed⟩ : ∃ field reason,
          (handle.removeManyWhere principal (some table) ⟨filter⟩ []).outcome =
            .failed (.validation field reason) :=
        remove_many_where_unsound admitted unusable (by simpa using plain) (by simpa using sound)
      rw [failed]
      exact .refused field reason sound

/-- What meets all predicates meets all of some of them. -/
theorem without_fewer (entity : Entity) (table : Table) {fewer more : List Predicate}
    (among : ∀ predicate ∈ fewer, predicate ∈ more) :
    (table.without (Predicate.allHold entity fewer)).records.Sublist
      (table.without (Predicate.allHold entity more)).records := by
  apply List.monotone_filter_right
  intro record spared
  rw [Bool.not_eq_true'] at spared ⊢
  rw [← Bool.not_eq_true] at spared ⊢
  intro held
  apply spared
  unfold Predicate.allHold at held ⊢
  rw [List.all_eq_true] at held ⊢
  intro predicate member
  exact held predicate (among predicate member)

theorem predicates_among {resource : Resource} {fewer more : Option Encoded}
    (among : (Filter.entries fewer).Sublist (Filter.entries more)) :
    (resource.filterPredicates fewer).Sublist (resource.filterPredicates more) := by
  rw [Filter.predicates_of_entries, Filter.predicates_of_entries]
  exact among.filterMap _

/-- A filter with an entry for an unknown field is refused before the store is asked. -/
theorem remove_many_unknown {key : String} {value : Json}
    (admitted : (handle.resource.gate .delete principal).outcome = .done ())
    (inside : (key, value) ∈ Filter.entries filter)
    (scalar : (Filter.scalarText value).isSome = true)
    (unknown : handle.resource.entity.hasColumn key = false)
    (untransformed : handle.resource.options.transforms.find? key = none) (backing : Backing) :
    ∃ field reason, (Autocommit.removeMany handle principal ⟨filter⟩).run backing =
      (.failed (.validation field reason), backing) := by
  obtain ⟨text, written⟩ := Option.isSome_iff_exists.mp scalar
  have member : Predicate.contains key text ∈ handle.resource.filterPredicates filter :=
    Filter.mem_filter_predicates.mpr
      ⟨(key, value), inside, Filter.entry_predicate_written untransformed written⟩
  have usable : handle.resource.filterPredicates filter ≠ [] := by
    intro none
    rw [none] at member
    cases member
  obtain ⟨error, failed, field, reason, told⟩ :=
    Condition.of_predicates_unknown member _ rfl unknown
  have deletion : (Store.deleteWhere handle.resource.entity backing
      (handle.resource.filterPredicates filter)).outcome = .failed error := by
    rw [Store.delete_where_outcome usable, failed, Outcome.of_except_error, Outcome.failed_bind]
  refine ⟨field, reason, ?_⟩
  rw [Autocommit.remove_many_whole]
  unfold removeMany
  rw [remove_many_where_filtered admitted usable, List.append_nil, deletion,
    Outcome.map_error_failed, told]
  rfl

/-- With further entries a removal fails, if it failed before, or leaves more. Where the database
refused the one with fewer entries for its size, the other may be answered too, and removes nothing.
An entry for an unknown field stops a removal, whatever the other entries and their transforms
are. -/
theorem remove_many_narrows
    (admitted : (handle.resource.gate .delete principal).outcome = .done ()) :
    let remove := fun filter backing =>
      (Autocommit.removeMany handle principal ⟨filter⟩).run backing
    (handle.resource.HasPlainTransforms → ∀ first second fewer more,
      first.bind Encoded.value? = some (.object fewer) →
      second.bind Encoded.value? = some (.object more) →
      Json.Ascending fewer → Json.Ascending more →
      (∀ entry ∈ fewer, entry ∈ more) →
      handle.resource.filterPredicates first ≠ [] →
      ∀ table : Table,
        (∀ error, (remove first (some table)).1 = .failed error →
          (∃ error, remove second (some table) = (.failed error, some table)) ∨
          ∃ reason, error = .ofRefusal reason ∧
            ¬Predicate.FitStatement (handle.resource.filterPredicates first) 0) ∧
        ((∃ error, remove second (some table) = (.failed error, some table)) ∨
          (remove second (some table) = (.crashed, some table) ∧
            ∃ predicate ∈ handle.resource.filterPredicates second, ¬predicate.IsWithin) ∨
          ∃ ended left removedToo leftToo,
            remove first (some table) = (ended, some left) ∧
            remove second (some table) = (.done removedToo, some leftToo) ∧
            left.records.Sublist leftToo.records ∧ leftToo.records.Sublist table.records ∧
            (∀ record ∈ table.records, record ∉ leftToo.records → record ∉ left.records) ∧
            ((∃ removed, ended = .done removed) ∨
              (∃ reason, ended = .failed (.ofRefusal reason)) ∧
                removedToo = false ∧ leftToo = table))) ∧
    (∀ filter members, filter.bind Encoded.value? = some (.object members) →
      ∀ key value, (key, value) ∈ members → (Filter.scalarText value).isSome = true →
      handle.resource.entity.hasColumn key = false →
      handle.resource.options.transforms.find? key = none →
      ∀ backing, ∃ field reason,
        remove filter backing = (.failed (.validation field reason), backing)) := by
  intro remove
  constructor
  · intro plain first second fewer more read readToo ascending ascendingToo among usable table
    have entriesAmong : (Filter.entries first).Sublist (Filter.entries second) := by
      rw [Filter.entries_of_object read, Filter.entries_of_object readToo]
      exact Json.ascending_sublist ascending ascendingToo among
    have sublist : (handle.resource.filterPredicates first).Sublist
        (handle.resource.filterPredicates second) := predicates_among entriesAmong
    have predicatesAmong : ∀ predicate ∈ handle.resource.filterPredicates first,
        predicate ∈ handle.resource.filterPredicates second := fun _ member => sublist.subset member
    have usableToo : handle.resource.filterPredicates second ≠ [] := by
      obtain ⟨predicate, member⟩ := List.exists_mem_of_ne_nil _ usable
      exact List.ne_nil_of_mem (predicatesAmong predicate member)
    have ends : handle.resource.RemovalEnds first table (remove first (some table)) :=
      remove_many_ends admitted (plain.filter_predicates first) table
    have endsToo : handle.resource.RemovalEnds second table (remove second (some table)) :=
      remove_many_ends admitted (plain.filter_predicates second) table
    constructor
    · intro error failed
      rcases ends.failed_why failed with ⟨_, _, _, unsound⟩ | ⟨reason, own, unfit⟩
      · -- What makes no sense in the fewer entries makes none among the more.
        refine .inl (endsToo.of_unsound usableToo ?_)
        intro sound
        exact unsound fun predicate member => sound predicate (predicatesAmong predicate member)
      · exact .inr ⟨reason, own, unfit⟩
    · generalize resultToo : remove second (some table) = result at endsToo
      cases endsToo with
      | unfiltered unusable => exact absurd unusable usableToo
      | refused _ _ _ | declined _ _ _ => exact .inl ⟨_, rfl⟩
      | crashed sound beyond => exact .inr (.inl ⟨rfl, beyond⟩)
      | removed _ sound within deletes =>
          have fewerGone := without_fewer handle.resource.entity table predicatesAmong
          rcases ends.of_sound usable
            (fun predicate member => sound predicate (predicatesAmong predicate member))
            (fun predicate member => within predicate (predicatesAmong predicate member))
            with removal | ⟨reason, declined, _, declines⟩
          · refine .inr (.inr ⟨_, _, _, _, removal, rfl, fewerGone, List.filter_sublist, ?_,
              .inl ⟨_, rfl⟩⟩)
            intro record _ gone left
            exact gone (fewerGone.subset left)
          · -- A refusal of the fewer entries leaves the others nothing to remove.
            rcases Store.delete_where_narrower sound within sublist usable declines
              with nothing | ⟨_, impossible⟩
            · obtain ⟨none, kept⟩ := Prod.mk.inj (Outcome.done.inj (deletes.symm.trans nothing))
              rw [none, Option.some.inj kept]
              exact .inr (.inr ⟨_, _, _, _, declined, rfl, .refl _, .refl _, fun _ _ gone => gone,
                .inr ⟨⟨reason, rfl⟩, rfl, rfl⟩⟩)
            · cases deletes.symm.trans impossible
  · intro filter members read key value inside scalar unknown untransformed backing
    apply remove_many_unknown admitted _ scalar unknown untransformed
    rw [Filter.entries_of_object read]
    exact inside

/-- A removal of drafts takes away two records and spares one of them with a further entry. With
a misspelt entry it fails. -/
theorem remove_many_narrows_drafts :
    let resource : Resource :=
      ⟨Entity.faqs, { ResourceOptions.named "faqs" with policy := ⟨Action.all, []⟩ }⟩
    let handle : Handle .delete := ⟨resource, rfl⟩
    let entry : String × Json := ("status", .string "draft")
    let further : String × Json := ("question", .string "Why")
    let misspelt : String × Json := ("quesiton", .string "Why")
    let filter := fun members => some (Encoded.structured (.object members))
    let why : Record := [("id", .integer 1), ("question", .text "Why?"), ("answer", .text ""),
      ("status", .text "draft")]
    let how : Record := [("id", .integer 2), ("question", .text "How?"), ("answer", .text ""),
      ("status", .text "draft")]
    let table : Table := ⟨[why, how], 3⟩
    let remove := fun members =>
      (Autocommit.removeMany handle .anonymous ⟨filter members⟩).run (some table)
    (resource.gate .delete .anonymous).outcome = .done () ∧
    (∃ removed left removedToo leftToo, remove [entry] = (.done removed, some left) ∧
      remove [further, entry] = (.done removedToo, some leftToo) ∧
      left.records.Sublist leftToo.records ∧
      why ∉ leftToo.records ∧ how ∈ leftToo.records ∧ how ∉ left.records) ∧
    ∃ field reason,
      remove [misspelt, entry] = (.failed (.validation field reason), some table) := by
  intro resource handle entry further misspelt filter why how table remove
  have admitted : (handle.resource.gate .delete .anonymous).outcome = .done () := rfl
  have plain : handle.resource.HasPlainTransforms := by
    intro field transform impossible
    cases impossible
  have removal : remove [entry] = (.done true, some ⟨[], 3⟩) := by decide +kernel
  have removalToo : remove [further, entry] = (.done true, some ⟨[how], 3⟩) := by decide +kernel
  have ascending : Json.Ascending [entry] := List.pairwise_singleton _ _
  have ascendingToo : Json.Ascending [further, entry] := by
    unfold Json.Ascending
    decide
  obtain ⟨narrows, stops⟩ := remove_many_narrows admitted
  refine ⟨admitted, ?_, ?_⟩
  · obtain ⟨_, ⟨_, failed⟩ | ⟨crashed, _⟩ | ⟨ended, left, removedToo, leftToo, done, doneToo,
        fewer, _⟩⟩ :=
      narrows plain (filter [entry]) (filter [further, entry]) _ _ rfl rfl ascending ascendingToo
        (fun _ member => List.mem_cons_of_mem _ member) (by decide +kernel) table
    · cases removalToo.symm.trans failed
    · cases removalToo.symm.trans crashed
    · cases removal.symm.trans done
      cases removalToo.symm.trans doneToo
      exact ⟨true, _, true, _, removal, removalToo, fewer, by decide +kernel⟩
  · exact stops (filter [misspelt, entry]) _ rfl "quesiton" (.string "Why") List.mem_cons_self rfl
      rfl rfl (some table)

/-- A removal by a text of sixty thousand letters fails. With one more entry that comes first and
that no record meets, it is answered. -/
theorem remove_many_answered_with_further_entry :
    let resource : Resource :=
      ⟨Entity.faqs, { ResourceOptions.named "faqs" with policy := ⟨Action.all, []⟩ }⟩
    let handle : Handle .delete := ⟨resource, rfl⟩
    let words := String.ofList (List.replicate 60000 'x')
    let entry : String × Json := ("question", .string words)
    let further : String × Json := ("answer", .string "zzz")
    let filter := fun members => some (Encoded.structured (.object members))
    let table : Table := ⟨[[("id", .integer 1), ("question", .text "a"), ("answer", .text ""),
      ("status", .text "draft")]], 2⟩
    let remove := fun members =>
      (Autocommit.removeMany handle .anonymous ⟨filter members⟩).run (some table)
    Json.Ascending [entry] ∧ Json.Ascending [further, entry] ∧
    resource.filterPredicates (filter [entry]) ≠ [] ∧
    (∃ error, remove [entry] = (.failed error, some table)) ∧
    remove [further, entry] = (.done false, some table) := by
  intro resource handle words entry further filter table remove
  have admitted : (handle.resource.gate .delete .anonymous).outcome = .done () := rfl
  have asked : handle.resource.filterPredicates (filter [entry]) =
      [.like "question" ("%" ++ words ++ "%")] := rfl
  have askedToo : handle.resource.filterPredicates (filter [further, entry]) =
      [.like "answer" "%zzz%", .like "question" ("%" ++ words ++ "%")] := rfl
  have long : Sql.greatestPattern < ("%" ++ words ++ "%").utf8ByteSize :=
    overlong_repeated (show 50000 < 60000 by decide)
  refine ⟨List.pairwise_singleton _ _, ?_, by rw [asked]; exact List.cons_ne_nil _ _, ?_, ?_⟩
  · unfold Json.Ascending
    rw [List.pairwise_pair]
    decide
  · have filled : table.records ≠ [] := List.cons_ne_nil _ _
    show ∃ error, (Autocommit.removeMany handle .anonymous ⟨filter [entry]⟩).run (some table) =
      (.failed error, some table)
    rw [Autocommit.remove_many_whole]
    unfold removeMany
    rw [remove_many_where_filtered admitted (by rw [asked]; exact List.cons_ne_nil _ _), asked,
      List.append_nil, Store.delete_where_overlong (by decide) long filled]
    exact ⟨_, rfl⟩
  · show (Autocommit.removeMany handle .anonymous ⟨filter [further, entry]⟩).run (some table) = _
    have unmatched : ∀ record ∈ table.records,
        Condition.isLike "answer" "%zzz%" record = false := by
      decide +kernel
    have deleted : (Store.deleteWhere Entity.faqs (some table)
        [.like "answer" "%zzz%", .like "question" ("%" ++ words ++ "%")]).outcome =
          .done (0, some table) :=
      Store.delete_where_unmatched (by decide) (by decide) (by decide) unmatched
    rw [Autocommit.remove_many_whole]
    unfold removeMany
    rw [remove_many_where_filtered admitted (by rw [askedToo]; exact List.cons_ne_nil _ _),
      askedToo, List.append_nil]
    show Autocommit.ending _ (((Store.deleteWhere Entity.faqs (some table) _).outcome.mapError _)
      >>= _) = _
    rw [deleted]
    rfl

end Handle
end GatedResources
