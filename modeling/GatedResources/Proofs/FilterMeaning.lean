import GatedResources.Proofs.Members
import GatedResources.Proofs.Operation
import GatedResources.Proofs.Selections

/-!
# What a filter means

Every entry of a filter asks something of a record or nothing at all, and a list has the records
that meet all entries. The list fails when what some entry asks makes no sense for the records, and
then for the first such entry. Otherwise it is answered, unless the filter is more than the
database takes in one statement.
-/

namespace GatedResources

namespace Filter

def entries (filter : Option Encoded) : List (String × Json) :=
  match filter.bind Encoded.value? with
  | some (.object members) => members
  | _ => []

theorem entries_of_object {filter : Option Encoded} {members : List (String × Json)}
    (read : filter.bind Encoded.value? = some (.object members)) : entries filter = members := by
  unfold entries
  rw [read]

def entryPredicate (source : String) (transforms : Transforms) (entry : String × Json) :
    Option Predicate :=
  (memberPredicate source transforms entry.1 entry.2).value

/-- A record meets an entry of a filter. Entries of no kind that is named here ask for nothing. -/
structure Meets (entity : Entity) (transforms : Transforms) (record : Record) (key : String)
    (value : Json) : Prop where
  identifiers : ∀ elements, key = identifiersKey → value = .array elements →
    ∃ element ∈ elements, record.equalsValue entity identifierField element = true
  transformed : ∀ transform predicate, (scalarText value).isSome = true →
    transforms.find? key = some transform →
    transform entity.table value = .predicate predicate → predicate.holds entity record = true
  untransformed : ∀ text, scalarText value = some text → transforms.find? key = none →
    Condition.isLike key ("%" ++ text ++ "%") record = true
  unchanged : ∀ transform text, scalarText value = some text →
    transforms.find? key = some transform → transform entity.table value = .unchanged →
    Condition.isLike key ("%" ++ text ++ "%") record = true
  rewritten : ∀ transform scalar text, (scalarText value).isSome = true →
    transforms.find? key = some transform → transform entity.table value = .rewritten scalar →
    scalarText scalar = some text → Condition.isLike key ("%" ++ text ++ "%") record = true

theorem member_predicates_value (source : String) (transforms : Transforms)
    (members : List (String × Json)) :
    (memberPredicates source transforms members).value =
      members.filterMap (entryPredicate source transforms) := by
  induction members with
  | nil => rfl
  | cons entry rest claim =>
      obtain ⟨key, value⟩ := entry
      unfold memberPredicates
      rw [Traced.value_bind, Traced.value_bind, claim, List.filterMap_cons]
      show (entryPredicate source transforms (key, value)).toList ++ _ = _
      cases entryPredicate source transforms (key, value) <;> rfl

theorem predicates_of_entries (resource : Resource) (filter : Option Encoded) :
    resource.filterPredicates filter =
      (entries filter).filterMap
        (entryPredicate resource.entity.table resource.options.transforms) := by
  cases filter with
  | none => rfl
  | some encoded =>
      unfold Resource.filterPredicates Query.compilePredicates compile members entries
      rw [Traced.value_bind, Option.bind_some]
      cases encoded.value? with
      | none => rfl
      | some value =>
          cases value with
          | object members => exact member_predicates_value _ _ members
          | null | bool _ | number _ | string _ | array _ => rfl

theorem predicates_without_object {resource : Resource} {filter : Option Encoded}
    (without : ∀ members, filter.bind Encoded.value? ≠ some (.object members)) :
    resource.filterPredicates filter = [] := by
  rw [predicates_of_entries]
  unfold entries
  split
  · next members read => exact absurd read (without members)
  · rfl

theorem mem_filter_predicates {resource : Resource} {filter : Option Encoded}
    {predicate : Predicate} :
    predicate ∈ resource.filterPredicates filter ↔ ∃ entry ∈ entries filter,
      entryPredicate resource.entity.table resource.options.transforms entry = some predicate := by
  rw [predicates_of_entries, List.mem_filterMap]

/-- The entries of a text stand in the order of their keys, and so do those of a value in the form
that the library works on. -/
theorem entries_ascending {filter : Option Encoded}
    (read : (∃ source, filter = some (.text source)) ∨
      ∃ value : Json, filter = some (.structured value.sorted)) :
    Json.Ascending (entries filter) := by
  have sorted : filter.bind Encoded.value? = none ∨
      ∃ value : Json, filter.bind Encoded.value? = some value.sorted := by
    rcases read with ⟨source, text⟩ | ⟨value, structured⟩
    · rw [text]
      show Json.parse source = none ∨ ∃ value : Json, Json.parse source = some value.sorted
      unfold Json.parse
      cases Json.parseInOrder source with
      | none => exact .inl rfl
      | some value => exact .inr ⟨value, rfl⟩
    · exact .inr ⟨value, by rw [structured]; rfl⟩
  unfold entries
  rcases sorted with none | ⟨value, same⟩
  · rw [none]
    exact List.Pairwise.nil
  · rw [same]
    split
    · next members object => exact Json.sorted_members_ascending (Option.some.inj object)
    · exact List.Pairwise.nil

section Entries

variable {entity : Entity} {transforms : Transforms} {record : Record}

theorem contains_holds {key text : String} :
    (∀ predicate, some (Predicate.contains key text) = some predicate →
      predicate.holds entity record = true) ↔
      Condition.isLike key ("%" ++ text ++ "%") record = true := by
  constructor
  · intro all
    exact all _ rfl
  · intro isLike predicate same
    cases same
    exact isLike

theorem text_no_array {value : Json} {text : String} (isScalar : scalarText value = some text) :
    ∀ elements, value ≠ .array elements := by
  intro elements same
  rw [same] at isScalar
  cases isScalar

theorem meets_untransformed {key : String} {value : Json} {text : String}
    (isScalar : scalarText value = some text) (found : transforms.find? key = none) :
    Meets entity transforms record key value ↔
      Condition.isLike key ("%" ++ text ++ "%") record = true := by
  constructor
  · intro meets
    exact meets.untransformed text isScalar found
  · intro isLike
    have noTransform : ∀ transform, transforms.find? key ≠ some transform := by
      intro transform same
      rw [found] at same
      cases same
    refine ⟨?_, ?_, ?_, ?_, ?_⟩
    · intro elements _ same
      exact absurd same (text_no_array isScalar elements)
    · intro transform predicate _ same
      exact absurd same (noTransform transform)
    · intro own same _
      rw [isScalar] at same
      cases same
      exact isLike
    · intro transform own _ same
      exact absurd same (noTransform transform)
    · intro transform scalar own _ same
      exact absurd same (noTransform transform)

theorem meets_transformed {key : String} {value : Json} {text : String} {transform : Transform}
    (isScalar : scalarText value = some text) (found : transforms.find? key = some transform) :
    Meets entity transforms record key value ↔
      match transform entity.table value with
      | .predicate predicate => predicate.holds entity record = true
      | .unchanged => Condition.isLike key ("%" ++ text ++ "%") record = true
      | .rewritten scalar => ∀ own, scalarText scalar = some own →
          Condition.isLike key ("%" ++ own ++ "%") record = true := by
  have isSome : (scalarText value).isSome = true := by
    rw [isScalar]
    rfl
  constructor
  · intro meets
    cases made : transform entity.table value with
    | predicate predicate => exact meets.transformed transform predicate isSome found made
    | unchanged => exact meets.unchanged transform text isScalar found made
    | rewritten scalar =>
        intro own
        exact meets.rewritten transform scalar own isSome found made
  · intro agreed
    have only : ∀ other, transforms.find? key = some other → other = transform := by
      intro other same
      rw [found] at same
      cases same
      rfl
    refine ⟨?_, ?_, ?_, ?_, ?_⟩
    · intro elements _ same
      exact absurd same (text_no_array isScalar elements)
    · intro other predicate _ same made
      rw [only other same] at made
      rw [made] at agreed
      exact agreed
    · intro own _ none
      rw [found] at none
      cases none
    · intro other own isOwn same made
      rw [only other same] at made
      rw [made] at agreed
      rw [isScalar] at isOwn
      cases isOwn
      exact agreed
    · intro other scalar own _ same made
      rw [only other same] at made
      rw [made] at agreed
      exact agreed own

/-- A text, number or truth value asks what its transform makes of it. -/
theorem scalar_predicate_meets {key : String} {value : Json} {text : String}
    (isScalar : scalarText value = some text) :
    (∀ predicate, scalarPredicate entity.table transforms key value = some predicate →
      predicate.holds entity record = true) ↔ Meets entity transforms record key value := by
  unfold scalarPredicate
  cases found : transforms.find? key with
  | none =>
      dsimp only
      rw [isScalar, Option.map_some, contains_holds, meets_untransformed isScalar found]
  | some transform =>
      rw [meets_transformed isScalar found]
      dsimp only
      cases transform entity.table value with
      | predicate predicate =>
          constructor
          · intro all
            exact all predicate rfl
          · intro holds held same
            cases same
            exact holds
      | unchanged =>
          dsimp only
          rw [isScalar, Option.map_some, contains_holds]
      | rewritten scalar =>
          dsimp only
          cases scalarText scalar with
          | none => simp
          | some own =>
              rw [Option.map_some, contains_holds]
              simp

/-- A value of no text that is no list of identifiers asks nothing. -/
theorem meets_nothing {key : String} {value : Json} (noText : scalarText value = none)
    (noList : ∀ elements, key = identifiersKey → value ≠ .array elements) :
    Meets entity transforms record key value := by
  refine ⟨?_, ?_, ?_, ?_, ?_⟩
  · intro elements named same
    exact absurd same (noList elements named)
  · intro transform predicate isSome
    rw [noText] at isSome
    cases isSome
  · intro text same
    rw [noText] at same
    cases same
  · intro transform text same
    rw [noText] at same
    cases same
  · intro transform scalar text isSome
    rw [noText] at isSome
    cases isSome

/-- A record meets an entry when it is what the predicate of the entry says. -/
theorem entry_predicate_meets (key : String) (value : Json) :
    (∀ predicate, entryPredicate entity.table transforms (key, value) = some predicate →
      predicate.holds entity record = true) ↔ Meets entity transforms record key value := by
  cases value with
  | null =>
      constructor
      · intro _
        exact meets_nothing rfl (by simp)
      · intro _ predicate impossible
        cases impossible
  | object members =>
      constructor
      · intro _
        exact meets_nothing rfl (by simp)
      · intro _ predicate impossible
        cases impossible
  | array elements =>
      unfold entryPredicate memberPredicate
      by_cases named : key = identifiersKey
      · dsimp only
        rw [if_pos named]
        constructor
        · intro all
          have holds := all _ rfl
          refine ⟨?_, ?_, ?_, ?_, ?_⟩
          · intro own _ same
            cases same
            exact List.any_eq_true.mp holds
          · intro transform predicate isSome
            cases isSome
          · intro text same
            cases same
          · intro transform text same
            cases same
          · intro transform scalar text isSome
            cases isSome
        · intro meets predicate same
          cases same
          exact List.any_eq_true.mpr (meets.identifiers elements named rfl)
      · dsimp only
        rw [if_neg named]
        constructor
        · intro _
          exact meets_nothing rfl fun _ own => absurd own named
        · intro _ predicate impossible
          cases impossible
  | bool state => cases state <;> exact scalar_predicate_meets rfl
  | number value => exact scalar_predicate_meets rfl
  | string text => exact scalar_predicate_meets rfl

/-- What an entry asks is written in the language of the store only where a transform does so. -/
theorem entry_predicate_plain
    (plain : ∀ field transform, transforms.find? field = some transform → ∀ value predicate,
      transform entity.table value = .predicate predicate → predicate.IsPlain)
    {entry : String × Json} {predicate : Predicate}
    (asked : entryPredicate entity.table transforms entry = some predicate) :
    predicate.IsPlain := by
  have contained : ∀ {key : String} {text : Option String},
      text.map (Predicate.contains key) = some predicate → predicate.IsPlain := by
    intro key text same
    obtain ⟨own, _, made⟩ := Option.map_eq_some_iff.mp same
    subst made
    trivial
  have scalar : ∀ {key : String} {value : Json},
      scalarPredicate entity.table transforms key value = some predicate →
        predicate.IsPlain := by
    intro key value same
    unfold scalarPredicate at same
    split at same
    · next transform found =>
        split at same
        · next held made =>
            cases same
            exact plain key transform found value _ made
        · exact contained same
        · exact contained same
    · exact contained same
  obtain ⟨key, value⟩ := entry
  unfold entryPredicate memberPredicate at asked
  cases value with
  | null | object _ => cases asked
  | array elements =>
      dsimp only at asked
      split at asked
      · cases asked
        trivial
      · cases asked
  | bool _ | number _ | string _ => exact scalar asked

theorem all_hold_meets (members : List (String × Json)) :
    Predicate.allHold entity (members.filterMap (entryPredicate entity.table transforms)) record =
      true ↔ ∀ entry ∈ members, Meets entity transforms record entry.1 entry.2 := by
  unfold Predicate.allHold
  rw [List.all_eq_true]
  constructor
  · intro all entry member
    apply (entry_predicate_meets entry.1 entry.2).mp
    intro predicate asked
    exact all predicate (List.mem_filterMap.mpr ⟨entry, member, asked⟩)
  · intro all predicate member
    obtain ⟨entry, inside, asked⟩ := List.mem_filterMap.mp member
    exact (entry_predicate_meets entry.1 entry.2).mpr (all entry inside) predicate asked

end Entries

end Filter

namespace Handle

variable {handle : Handle .find} {principal : Principal}

/-- The first predicate of a filter that makes no sense is the one that is told. -/
theorem find_all_unsound {filter sort : Option Encoded} {before after : List Predicate}
    {predicate : Predicate} (backing : Backing)
    (admitted : (handle.resource.gate .find principal).outcome = .done ())
    (asked : handle.resource.filterPredicates filter = before ++ predicate :: after)
    (sound : ∀ held ∈ before, held.isSound handle.resource.entity = true)
    (plain : predicate.IsPlain) (unsound : predicate.isSound handle.resource.entity = false) :
    ∃ field reason, predicate.field? = some field ∧
      (handle.findAll principal backing ⟨filter, sort, none, none⟩).outcome =
        .failed (.validation field reason) := by
  obtain ⟨order, query, _⟩ := handle.resource.query_value ⟨filter, sort, none, none⟩
  obtain ⟨error, field, reason, failed, named, told⟩ :=
    Store.find_page_unsound sound plain unsound handle.resource.entity.table order
  refine ⟨field, reason, named, ?_⟩
  rw [find_all_admitted admitted, query, asked]
  unfold Store.wholeQuery at failed
  rw [failed, Outcome.map_error_failed, told]

/-- With sound predicates the list has the records that are what all of them say. -/
theorem find_all_sound {filter sort : Option Encoded} {table : Table}
    (admitted : (handle.resource.gate .find principal).outcome = .done ())
    (sound : ∀ predicate ∈ handle.resource.filterPredicates filter,
      predicate.isSound handle.resource.entity = true)
    (within : ∀ predicate ∈ handle.resource.filterPredicates filter, predicate.IsWithin) :
    ∃ page : Page Record,
      (handle.findAll principal (some table) ⟨filter, sort, none, none⟩).outcome.Yields
        ResourceError.ofRefusal
        (Predicate.FitStatement (handle.resource.filterPredicates filter) 0) page ∧
      page.count = page.data.length ∧
      page.data.Perm (table.records.filter (Predicate.allHold handle.resource.entity
        (handle.resource.filterPredicates filter))) := by
  obtain ⟨order, query, _⟩ := handle.resource.query_value ⟨filter, sort, none, none⟩
  obtain ⟨records, found, permuted⟩ :=
    Store.find_page_sound sound within handle.resource.entity.table order
  refine ⟨⟨records, records.length⟩, ?_, rfl, permuted⟩
  rw [find_all_admitted admitted, query]
  exact found.of_store

theorem find_all_fails {filter sort : Option Encoded} {table : Table}
    (admitted : (handle.resource.gate .find principal).outcome = .done ())
    (plain : ∀ predicate ∈ handle.resource.filterPredicates filter, predicate.IsPlain)
    (within : ∀ predicate ∈ handle.resource.filterPredicates filter, predicate.IsWithin)
    (fit : Predicate.FitStatement (handle.resource.filterPredicates filter) 0) :
    (∃ error, (handle.findAll principal (some table) ⟨filter, sort, none, none⟩).outcome =
      .failed error) ↔ ∃ predicate ∈ handle.resource.filterPredicates filter,
        predicate.isSound handle.resource.entity = false := by
  constructor
  · rintro ⟨error, failed⟩
    by_contra none
    have sound : ∀ predicate ∈ handle.resource.filterPredicates filter,
        predicate.isSound handle.resource.entity = true := by
      intro predicate member
      rw [← Bool.not_eq_false]
      intro unsound
      exact none ⟨predicate, member, unsound⟩
    obtain ⟨page, yields, _⟩ := find_all_sound admitted sound within
    rw [yields.fitting fit] at failed
    cases failed
  · intro unsound
    obtain ⟨before, first, after, split, sound, isNot⟩ := Predicate.exists_first_unsound unsound
    have firstPlain : first.IsPlain := by
      apply plain
      rw [split]
      exact List.mem_append_right _ List.mem_cons_self
    obtain ⟨field, reason, _, failed⟩ :=
      find_all_unsound (some table) admitted split sound firstPlain isNot
    exact ⟨_, failed⟩

/-- A list has the records that meet all entries of its filter. It fails when an entry asks
something that makes no sense, for the first such entry; apart from that the database refuses it
only where the filter is too much for one statement. -/
theorem find_all_lists_meeting
    (admitted : (handle.resource.gate .find principal).outcome = .done ())
    (table : Table) (filter sort : Option Encoded)
    (plain : ∀ field transform, handle.resource.options.transforms.find? field = some transform →
      ∀ value predicate, transform handle.resource.entity.table value = .predicate predicate →
        predicate.IsPlain)
    (within : ∀ predicate ∈ handle.resource.filterPredicates filter, predicate.IsWithin) :
    let entity := handle.resource.entity
    let transforms := handle.resource.options.transforms
    let asks := Filter.entryPredicate entity.table transforms
    let fits := Predicate.FitStatement (handle.resource.filterPredicates filter) 0
    let found := (handle.findAll principal (some table) ⟨filter, sort, none, none⟩).outcome
    (fits → ((∃ error, found = .failed error) ↔ ∃ entry ∈ Filter.entries filter, ∃ predicate,
      asks entry = some predicate ∧ predicate.isSound entity = false)) ∧
    (∀ before entry after predicate, Filter.entries filter = before ++ entry :: after →
      (∀ earlier ∈ before, ∀ held, asks earlier = some held → held.isSound entity = true) →
      asks entry = some predicate → predicate.isSound entity = false →
      ∃ field reason, predicate.field? = some field ∧
        found = .failed (.validation field reason)) ∧
    ((∃ source, filter = some (.text source)) ∨
        (∃ value : Json, filter = some (.structured value.sorted)) →
      Json.Ascending (Filter.entries filter)) ∧
    ((∀ entry ∈ Filter.entries filter, ∀ predicate, asks entry = some predicate →
        predicate.isSound entity = true) →
      ∃ (page : Page Record) (selected : Record -> Bool),
        found.Yields ResourceError.ofRefusal fits page ∧
        page.count = page.data.length ∧
        page.data.Perm (table.records.filter selected) ∧
        ∀ record, selected record = true ↔
          ∀ entry ∈ Filter.entries filter,
            Filter.Meets entity transforms record entry.1 entry.2) := by
  intro entity transforms asks fits found
  have isPlain : ∀ {entry : String × Json} {predicate : Predicate},
      asks entry = some predicate → predicate.IsPlain := Filter.entry_predicate_plain plain
  have allPlain : ∀ predicate ∈ handle.resource.filterPredicates filter, predicate.IsPlain := by
    intro predicate member
    obtain ⟨_, _, own⟩ := Filter.mem_filter_predicates.mp member
    exact isPlain own
  refine ⟨?_, ?_, Filter.entries_ascending, ?_⟩
  · intro fit
    rw [find_all_fails admitted allPlain within fit]
    constructor
    · rintro ⟨predicate, member, unsound⟩
      obtain ⟨entry, inside, own⟩ := Filter.mem_filter_predicates.mp member
      exact ⟨entry, inside, predicate, own, unsound⟩
    · rintro ⟨entry, inside, predicate, own, unsound⟩
      exact ⟨predicate, Filter.mem_filter_predicates.mpr ⟨entry, inside, own⟩, unsound⟩
  · intro before entry after predicate split sound own unsound
    have first : handle.resource.filterPredicates filter =
        before.filterMap asks ++ predicate :: after.filterMap asks := by
      rw [Filter.predicates_of_entries, split, List.filterMap_append,
        List.filterMap_cons_some own]
    apply find_all_unsound (some table) admitted first ?_ (isPlain own) unsound
    intro held member
    obtain ⟨earlier, inside, ownHeld⟩ := List.mem_filterMap.mp member
    exact sound earlier inside held ownHeld
  · intro sound
    have allSound : ∀ predicate ∈ handle.resource.filterPredicates filter,
        predicate.isSound entity = true := by
      intro predicate member
      obtain ⟨entry, inside, own⟩ := Filter.mem_filter_predicates.mp member
      exact sound entry inside predicate own
    obtain ⟨page, yields, counted, permuted⟩ := find_all_sound admitted allSound within
    rw [Filter.predicates_of_entries] at permuted
    exact ⟨page, _, yields, counted, permuted, fun record => Filter.all_hold_meets _⟩

/-- A filter for drafts, sent as text, lists the records whose status contains the word. -/
theorem find_all_lists_drafts :
    let resource : Resource :=
      ⟨Entity.faqs, { ResourceOptions.named "faqs" with policy := ⟨Action.all, []⟩ }⟩
    let handle : Handle .find := ⟨resource, rfl⟩
    let filter := some (Encoded.text "\x7b\"status\": \"draft\"\x7d")
    let table : Table := ⟨[[("id", .integer 1), ("question", .text "Why?"), ("answer", .text ""),
      ("status", .text "draft")], [("id", .integer 2), ("question", .text "How?"),
      ("answer", .text ""), ("status", .text "live")]], 3⟩
    (resource.gate .find .anonymous).outcome = .done () ∧
    Filter.entries filter = [("status", .string "draft")] ∧
    Predicate.FitStatement (resource.filterPredicates filter) 0 ∧
    ∃ page, (handle.findAll .anonymous (some table) ⟨filter, none, none, none⟩).outcome =
        .done page ∧ page.count = page.data.length ∧
      ∀ record, record ∈ page.data ↔ record ∈ table.records ∧
        Filter.Meets Entity.faqs Transforms.none record "status" (.string "draft") := by
  intro resource handle filter table
  have admitted : (handle.resource.gate .find .anonymous).outcome = .done () := rfl
  have entries : Filter.entries filter = [("status", .string "draft")] := by
    decide +kernel
  have asked : handle.resource.filterPredicates filter = [.like "status" "%draft%"] := by
    decide +kernel
  have within : ∀ predicate ∈ handle.resource.filterPredicates filter, predicate.IsWithin := by
    rw [asked]
    intro predicate member value carried
    cases List.mem_singleton.mp member
    cases carried
  have fits : Predicate.FitStatement (handle.resource.filterPredicates filter) 0 := by
    rw [asked]
    exact ⟨by decide, by decide, by decide⟩
  obtain ⟨_, _, _, lists⟩ := find_all_lists_meeting admitted table filter none
    (fun _ _ impossible => by cases impossible) within
  rw [entries] at lists
  obtain ⟨page, selected, yields, counted, permuted, meets⟩ := lists (by
    intro entry inside predicate own
    cases List.mem_singleton.mp inside
    have same : Filter.entryPredicate Entity.faqs.table Transforms.none
        ("status", .string "draft") = some (.like "status" "%draft%") := by
      decide +kernel
    cases Option.some.inj (same.symm.trans own)
    decide +kernel)
  refine ⟨admitted, entries, fits, page, yields.fitting fits, counted, ?_⟩
  intro record
  rw [permuted.mem_iff, List.mem_filter, meets, List.forall_mem_singleton]
  rfl

/-- A filter for a text of sixty thousand letters makes sense, and yet its list fails where there
is a record. -/
theorem find_all_refuses_long_text :
    let resource : Resource :=
      ⟨Entity.faqs, { ResourceOptions.named "faqs" with policy := ⟨Action.all, []⟩ }⟩
    let handle : Handle .find := ⟨resource, rfl⟩
    let words := String.ofList (List.replicate 60000 'x')
    let filter := some (Encoded.structured (.object [("question", .string words)]))
    let table : Table := ⟨[[("id", .integer 1), ("question", .text "a"), ("answer", .text ""),
      ("status", .text "draft")]], 2⟩
    (resource.gate .find .anonymous).outcome = .done () ∧
    (∀ predicate ∈ resource.filterPredicates filter,
      predicate.isSound Entity.faqs = true ∧ predicate.IsWithin) ∧
    (handle.findAll .anonymous (some table) ⟨filter, none, none, none⟩).outcome =
      .failed (.store (.database "LIKE or GLOB pattern too complex")) := by
  intro resource handle words filter table
  have asked : resource.filterPredicates filter = [.like "question" ("%" ++ words ++ "%")] := rfl
  have long : Sql.greatestPattern < ("%" ++ words ++ "%").utf8ByteSize :=
    overlong_repeated (show 50000 < 60000 by decide)
  refine ⟨rfl, ?_, ?_⟩
  · intro predicate member
    rw [asked] at member
    cases List.mem_singleton.mp member
    exact ⟨rfl, fun _ impossible => by cases impossible⟩
  · obtain ⟨order, query, _⟩ := resource.query_value ⟨filter, none, none, none⟩
    have isColumn : Entity.faqs.hasColumn "question" = true := by decide
    have filled : table.records ≠ [] := List.cons_ne_nil _ _
    have refused := Store.find_page_overlong isColumn long filled "faqs" order
    rw [find_all_admitted rfl, query, asked]
    exact congrArg (Outcome.mapError _) refused

end Handle
end GatedResources
