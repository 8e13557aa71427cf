import GatedResources.Proofs.FilterMeaning

/-!
# Bulk removal

A bulk removal takes away what a list with the same filter shows, as far as it meets the further
predicates. Without a usable filter it takes nothing away, and with a predicate that makes no
sense it is refused. Beyond what the database takes in one statement it may be refused as well,
and then nothing is taken away either.
-/

namespace GatedResources

namespace Handle

variable {handle : Handle .delete} {principal : Principal} {filter : Option Encoded}
  {extra : List Predicate}

section Steps

variable (admitted : (handle.resource.gate .delete principal).outcome = .done ())
  {backing : Backing}

include admitted

/-- Without a usable filter the store is not even asked. -/
theorem remove_many_where_unfiltered (unusable : handle.resource.filterPredicates filter = []) :
    (handle.removeManyWhere principal backing ⟨filter⟩ extra).outcome = .done (false, backing) := by
  rw [remove_many_where_outcome, admitted, Outcome.done_bind, if_pos unusable]

theorem remove_many_where_filtered (usable : handle.resource.filterPredicates filter ≠ []) :
    (handle.removeManyWhere principal backing ⟨filter⟩ extra).outcome =
      ((Store.deleteWhere handle.resource.entity backing
        (handle.resource.filterPredicates filter ++ extra)).outcome.mapError fun error =>
          (ResourceError.ofStoreError error).value) >>= fun deleted =>
            .done (decide (0 < deleted.1), deleted.2) := by
  rw [remove_many_where_outcome, admitted, Outcome.done_bind, if_neg usable]

end Steps

section Sound

variable {table : Table}
  (admitted : (handle.resource.gate .delete principal).outcome = .done ())
  (usable : handle.resource.filterPredicates filter ≠ [])
  (sound : ∀ predicate ∈ handle.resource.filterPredicates filter ++ extra,
    predicate.isSound handle.resource.entity = true)
  (within : ∀ predicate ∈ handle.resource.filterPredicates filter ++ extra, predicate.IsWithin)

include admitted usable sound within

/-- With sound predicates the records that go are those of the list that meet the further ones. -/
theorem remove_many_where_sound :
    let asked := Predicate.allHold handle.resource.entity
      (handle.resource.filterPredicates filter ++ extra)
    (handle.removeManyWhere principal (some table) ⟨filter⟩ extra).outcome.Yields
      ResourceError.ofRefusal
      (Predicate.FitStatement (handle.resource.filterPredicates filter ++ extra) 0)
      (decide (0 < (table.records.filter asked).length), some (table.without asked)) := by
  intro asked
  have nonempty : handle.resource.filterPredicates filter ++ extra ≠ [] :=
    List.append_ne_nil_of_left_ne_nil usable extra
  rw [remove_many_where_filtered admitted usable]
  exact (Store.delete_where_sound sound within nonempty).of_store.bind (.of_done rfl)

theorem remove_many_where_again {removed : Bool} {after : Backing}
    (deleted : (handle.removeManyWhere principal (some table) ⟨filter⟩ extra).outcome =
      .done (removed, after)) :
    let asked := Predicate.allHold handle.resource.entity
      (handle.resource.filterPredicates filter ++ extra)
    (handle.removeManyWhere principal (some (table.without asked)) ⟨filter⟩ extra).outcome =
      .done (false, some (table.without asked)) := by
  intro asked
  have nonempty : handle.resource.filterPredicates filter ++ extra ≠ [] :=
    List.append_ne_nil_of_left_ne_nil usable extra
  rw [remove_many_where_filtered admitted usable] at deleted ⊢
  obtain ⟨⟨affected, left⟩, first, _⟩ := Outcome.bind_eq_done.mp deleted
  rw [Outcome.map_error_eq_done] at first
  rw [Store.delete_where_again sound within nonempty first]
  rfl

end Sound

theorem remove_many_where_unsound {backing : Backing}
    (admitted : (handle.resource.gate .delete principal).outcome = .done ())
    (usable : handle.resource.filterPredicates filter ≠ [])
    (plain : ∀ predicate ∈ handle.resource.filterPredicates filter ++ extra, predicate.IsPlain)
    (unsound : ∃ predicate ∈ handle.resource.filterPredicates filter ++ extra,
      predicate.isSound handle.resource.entity = false) :
    ∃ field reason, (handle.removeManyWhere principal backing ⟨filter⟩ extra).outcome =
      .failed (.validation field reason) := by
  obtain ⟨before, predicate, behind, split, sound, isNot⟩ := Predicate.exists_first_unsound unsound
  have ownPlain : predicate.IsPlain := by
    apply plain
    rw [split]
    exact List.mem_append_right _ List.mem_cons_self
  obtain ⟨error, field, reason, failed, _, told⟩ :=
    Store.delete_where_unsound sound ownPlain isNot
  refine ⟨field, reason, ?_⟩
  rw [remove_many_where_filtered admitted usable, split, failed, Outcome.map_error_failed, told]
  rfl

/-- The list of the store with sound predicates has the records that are what all of them say. -/
theorem list_sound {resource : Resource} (table : Table)
    (sound : ∀ predicate ∈ resource.filterPredicates filter,
      predicate.isSound resource.entity = true)
    (within : ∀ predicate ∈ resource.filterPredicates filter, predicate.IsWithin) :
    ∃ listed, (Store.findMany resource.entity (some table)
        (resource.query ⟨filter, none, none, none⟩).value).outcome.Yields .database
          (Predicate.FitStatement (resource.filterPredicates filter) 0) listed ∧
      listed.Perm (table.records.filter
        (Predicate.allHold resource.entity (resource.filterPredicates filter))) := by
  obtain ⟨order, query, _⟩ := resource.query_value ⟨filter, none, none, none⟩
  obtain ⟨records, found, permuted, _⟩ :=
    Store.find_many_sound sound within resource.entity.table order
  refine ⟨records, ?_, permuted⟩
  rw [query]
  exact found

/-- A record of a table is what all predicates say when it is listed by some and meets the rest. -/
theorem all_hold_listed {entity : Entity} {table : Table} {asked : List Predicate}
    {listed : List Record}
    (permuted : listed.Perm (table.records.filter (Predicate.allHold entity asked)))
    {record : Record} (member : record ∈ table.records) :
    Predicate.allHold entity (asked ++ extra) record =
      (decide (record ∈ listed) && extra.all fun predicate => predicate.holds entity record) := by
  have shown : decide (record ∈ listed) = Predicate.allHold entity asked record := by
    rw [Bool.eq_iff_iff, decide_eq_true_iff, permuted.mem_iff]
    exact ⟨fun inside => (List.mem_filter.mp inside).2,
      fun held => List.mem_filter.mpr ⟨member, held⟩⟩
  rw [shown]
  exact List.all_append

/-- Predicates fit a statement where they do together with others. -/
theorem fit_of_append {asked : List Predicate}
    (fit : Predicate.FitStatement (asked ++ extra) 0) : Predicate.FitStatement asked 0 := by
  refine ⟨fun predicate member => fit.patterns predicate (List.mem_append_left _ member), ?_, ?_⟩
  · have values := fit.values
    rw [List.map_append, List.sum_append] at values
    omega
  · have number := fit.number
    rw [List.length_append] at number
    omega

/-- Bulk removal takes away what the list with the same filter shows, unless the database refuses
it. -/
theorem remove_many_where_removes_listed {handle : Handle .delete} {principal : Principal}
    (admitted : (handle.resource.gate .delete principal).outcome = .done ())
    (table : Table) (filter : Option Encoded) (extra : List Predicate) :
    let entity := handle.resource.entity
    let asked := handle.resource.filterPredicates filter
    let fits := Predicate.FitStatement (asked ++ extra) 0
    let remove := fun table =>
      (handle.removeManyWhere principal (some table) ⟨filter⟩ extra).outcome
    ((∀ members, filter.bind Encoded.value? ≠ some (.object members)) → asked = []) ∧
    (asked = [] → remove table = .done (false, some table)) ∧
    (asked ≠ [] → (∀ predicate ∈ asked ++ extra, predicate.IsPlain) →
      (∃ predicate ∈ asked ++ extra, predicate.isSound entity = false) →
      ∃ field reason, remove table = .failed (.validation field reason)) ∧
    (asked ≠ [] → (∀ predicate ∈ asked ++ extra, predicate.isSound entity = true) →
      (∀ predicate ∈ asked ++ extra, predicate.IsWithin) →
      ∃ listed removed after,
        (Store.findMany entity (some table)
          (handle.resource.query ⟨filter, none, none, none⟩).value).outcome.Yields
            .database fits listed ∧
        (∀ finder : Handle .find, finder.resource = handle.resource →
          ∀ reader, (finder.resource.gate .find reader).outcome = .done () →
            (finder.findMany reader (some table) ⟨filter, none, none, none⟩).outcome.Yields
              ResourceError.ofRefusal fits listed) ∧
        (remove table).Yields ResourceError.ofRefusal fits (removed, some after) ∧
        after.nextIdentifier = table.nextIdentifier ∧
        after.records = (table.records.filter fun record => !(decide (record ∈ listed) &&
          extra.all fun predicate => predicate.holds entity record)) ∧
        (removed = true ↔ ∃ record ∈ table.records, record ∈ listed ∧
          ∀ predicate ∈ extra, predicate.holds entity record = true) ∧
        (remove table = .done (removed, some after) →
          remove after = .done (false, some after))) := by
  intro entity asked fits remove
  refine ⟨Filter.predicates_without_object, remove_many_where_unfiltered admitted,
    remove_many_where_unsound admitted, ?_⟩
  intro usable sound within
  obtain ⟨listed, list, permuted⟩ := list_sound table
    (fun predicate member => sound predicate (List.mem_append_left _ member))
    fun predicate member => within predicate (List.mem_append_left _ member)
  let gone := Predicate.allHold entity (asked ++ extra)
  have goneIs : ∀ record ∈ table.records, gone record =
      (decide (record ∈ listed) && extra.all fun predicate => predicate.holds entity record) :=
    fun record member => all_hold_listed permuted member
  refine ⟨listed, decide (0 < (table.records.filter gone).length), table.without gone,
    list.mono fit_of_append, ?_, remove_many_where_sound admitted usable sound within, rfl, ?_, ?_,
    remove_many_where_again admitted usable sound within⟩
  · intro finder sameResource reader passes
    rw [find_many_admitted passes, sameResource]
    exact (list.mono fit_of_append).of_store
  · show (table.records.filter fun record => !gone record) = _
    apply List.filter_congr
    intro record member
    rw [goneIs record member]
  · rw [decide_eq_true_iff, List.length_pos_iff_exists_mem]
    constructor
    · rintro ⟨record, member⟩
      obtain ⟨inside, held⟩ := List.mem_filter.mp member
      rw [goneIs record inside, Bool.and_eq_true, decide_eq_true_iff, List.all_eq_true] at held
      exact ⟨record, inside, held⟩
    · rintro ⟨record, inside, held⟩
      refine ⟨record, List.mem_filter.mpr ⟨inside, ?_⟩⟩
      rw [goneIs record inside, Bool.and_eq_true, decide_eq_true_iff, List.all_eq_true]
      exact held

/-- Of two questions a filter for drafts lists one, and a bulk removal takes it away. -/
theorem remove_many_where_removes_draft :
    let resource : Resource :=
      ⟨Entity.faqs, { ResourceOptions.named "faqs" with policy := ⟨Action.all, []⟩ }⟩
    let handle : Handle .delete := ⟨resource, rfl⟩
    let filter := some (Encoded.structured (.object [("status", .string "draft")]))
    let extra := [Predicate.equals "id" (.integer 1)]
    let draft : Record := [("id", .integer 1), ("question", .text "Why?"), ("answer", .text ""),
      ("status", .text "draft")]
    let live : Record := [("id", .integer 2), ("question", .text "How?"), ("answer", .text ""),
      ("status", .text "live")]
    (resource.gate .delete .anonymous).outcome = .done () ∧
    Predicate.FitStatement (resource.filterPredicates filter ++ extra) 0 ∧
    ∃ listed after,
      (Store.findMany Entity.faqs (some ⟨[draft, live], 3⟩)
        (resource.query ⟨filter, none, none, none⟩).value).outcome = .done listed ∧
      (handle.removeManyWhere .anonymous (some ⟨[draft, live], 3⟩) ⟨filter⟩ extra).outcome =
        .done (true, some after) ∧
      draft ∈ listed ∧ draft ∉ after.records ∧ live ∈ after.records := by
  intro resource handle filter extra draft live
  have admitted : (handle.resource.gate .delete .anonymous).outcome = .done () := rfl
  have asked : handle.resource.filterPredicates filter = [.like "status" "%draft%"] := by
    decide +kernel
  have fits : Predicate.FitStatement (resource.filterPredicates filter ++ extra) 0 := by
    rw [asked]
    exact ⟨by decide, by decide, by decide⟩
  obtain ⟨_, _, _, removes⟩ :=
    remove_many_where_removes_listed admitted ⟨[draft, live], 3⟩ filter extra
  rw [asked] at removes fits
  obtain ⟨listed, removed, after, list, _, done, _, left, anyGone, _⟩ :=
    removes (by simp) (by decide +kernel) (by
      intro predicate member value carried
      rcases List.mem_cons.mp member with same | later
      · subst same
        cases carried
      · cases List.mem_singleton.mp later
        cases List.mem_singleton.mp carried
        show (1 : Int) ≤ Bound.greatest
        decide +kernel)
  have shown : listed = [draft] := by
    have computed : (Store.findMany Entity.faqs (some ⟨[draft, live], 3⟩)
        (resource.query ⟨filter, none, none, none⟩).value).outcome = .done [draft] := by
      decide +kernel
    exact (list.eq_of_done computed).symm
  subst shown
  refine ⟨admitted, by rw [asked]; exact fits, [draft], after, list.fitting fits, ?_,
    List.mem_cons_self, ?_, ?_⟩
  · have gone : removed = true :=
      anyGone.mpr ⟨draft, List.mem_cons_self, List.mem_cons_self, by decide +kernel⟩
    rw [gone] at done
    exact done.fitting fits
  · rw [left]
    decide +kernel
  · rw [left]
    decide +kernel

/-- A filter for a text of sixty thousand letters makes sense, and yet a bulk removal fails where
there is a record. -/
theorem remove_many_where_refuses_long_text :
    let resource : Resource :=
      ⟨Entity.faqs, { ResourceOptions.named "faqs" with policy := ⟨Action.all, []⟩ }⟩
    let handle : Handle .delete := ⟨resource, rfl⟩
    let words := String.ofList (List.replicate 60000 'x')
    let filter := some (Encoded.structured (.object [("question", .string words)]))
    let table : Table := ⟨[[("id", .integer 1), ("question", .text "a"), ("answer", .text ""),
      ("status", .text "draft")]], 2⟩
    (resource.gate .delete .anonymous).outcome = .done () ∧
    (∀ predicate ∈ resource.filterPredicates filter,
      predicate.isSound Entity.faqs = true ∧ predicate.IsWithin) ∧
    (handle.removeManyWhere .anonymous (some table) ⟨filter⟩ []).outcome =
      .failed (.store (.database "LIKE or GLOB pattern too complex")) := by
  intro resource handle words filter table
  have asked : resource.filterPredicates filter = [.like "question" ("%" ++ words ++ "%")] := rfl
  have long : Sql.greatestPattern < ("%" ++ words ++ "%").utf8ByteSize :=
    overlong_repeated (show 50000 < 60000 by decide)
  refine ⟨rfl, ?_, ?_⟩
  · intro predicate member
    rw [asked] at member
    cases List.mem_singleton.mp member
    exact ⟨rfl, fun _ impossible => by cases impossible⟩
  · have isColumn : Entity.faqs.hasColumn "question" = true := by decide
    have filled : table.records ≠ [] := List.cons_ne_nil _ _
    have usable : handle.resource.filterPredicates filter ≠ [] := by
      rw [asked]
      exact List.cons_ne_nil _ _
    have admitted : (handle.resource.gate .delete .anonymous).outcome = .done () := rfl
    rw [remove_many_where_filtered admitted usable, asked, List.append_nil,
      Store.delete_where_overlong isColumn long filled]
    rfl

end Handle
end GatedResources
