import GatedResources.Proofs.Overlays
import GatedResources.Proofs.RecordDecoding

/-!
# Records within records

What is decoded for a part of a record, however deep, comes from what stands at the path of that
part, and is the initial one where nothing stands there. This holds where the way to it is objects
only: a record can be decoded from an array too, and then its parts go by their places.
-/

namespace GatedResources

/-- No array stands on the way to a path. -/
def Json.Keyed (value : Json) (path : List String) : Prop :=
  ∀ before, before <+: path → before ≠ path →
    ∀ elements, value.reach before ≠ some (.array elements)

theorem Json.Keyed.down {value held : Json} {key : String} {keys : List String}
    (keyed : value.Keyed (key :: keys)) (found : value.fields.lookup key = some held) :
    held.Keyed keys := by
  intro before inside shorter elements reached
  apply keyed (key :: before) (List.cons_prefix_cons.mpr ⟨rfl, inside⟩) ?_ elements
  · rw [reach_cons, found, Option.bind_some, reached]
  · intro same
    exact shorter (List.cons.inj same).2

namespace Decoder

variable {α β γ : Type}

def mapped (change : α -> β) (decoder : Decoder α) : Decoder β :=
  fun dialect value => (decoder dialect value).map change

/-- A part of what is decoded from settings is decoded from what stands at a path, or is as said
where nothing does. -/
structure Finds (decode : Decoder α) (path : List String) (decoder : Decoder β)
    (get otherwise : α -> β) : Prop where
  present : ∀ {value : Json} {record : α}, value.HasAscendingKeys → value.Keyed path →
    decode .settings value = .ok record → ∀ held, value.reach path = some held →
    decoder .settings held = .ok (get record)
  absent : ∀ {value : Json} {record : α}, value.HasAscendingKeys → value.Keyed path →
    decode .settings value = .ok record → value.reach path = none → get record = otherwise record

/-- What is decoded has only members of these names at a path. -/
def Closes (decode : Decoder α) (path : List String) (names : List String) : Prop :=
  ∀ ⦃value : Json⦄ ⦃record : α⦄ ⦃members : List (String × Json)⦄, value.HasAscendingKeys →
    decode .settings value = .ok record → value.reach path = some (.object members) →
    ∀ entry ∈ members, entry.1 ∈ names

variable {decoder : Decoder β} {inner : Decoder α}

theorem finds_itself (otherwise : β -> β) : decoder.Finds [] decoder id otherwise := by
  refine ⟨?_, ?_⟩
  · intro value record _ _ decoded held found
    cases found
    exact decoded
  · intro value record _ _ _ nothing
    cases nothing

theorem finds_mapped (change otherwise : β -> γ) :
    decoder.Finds [] (decoder.mapped change) change otherwise := by
  refine ⟨?_, ?_⟩
  · intro value record _ _ decoded held found
    cases found
    rw [mapped, decoded]
    rfl
  · intro value record _ _ _ nothing
    cases nothing

theorem optional_cases {dialect : Dialect} {value : Json} {made : Option α}
    (decoded : optional inner dialect value = .ok made) :
    (value = .null ∧ made = none) ∨
      ∃ record, inner dialect value = .ok record ∧ made = some record := by
  cases value with
  | null =>
      cases decoded
      exact .inl ⟨rfl, rfl⟩
  | bool _ | number _ | string _ | array _ | object _ =>
      obtain ⟨record, own, same⟩ := except_bind_eq_ok.mp decoded
      cases same
      exact .inr ⟨record, own, rfl⟩

/-- A part of a record that may be missing as a whole. -/
theorem finds_optional {key : String} {keys : List String} {shown : Decoder β}
    (get otherwise : Option α -> β)
    (finds : inner.Finds (key :: keys) shown (fun record => get (some record))
      (fun record => otherwise (some record))) (begins : get none = otherwise none) :
    (optional inner).Finds (key :: keys) shown get otherwise := by
  refine ⟨?_, ?_⟩
  · intro value made ascending keyed decoded held found
    rcases optional_cases decoded with ⟨rfl, rfl⟩ | ⟨record, own, rfl⟩
    · cases found
    · exact finds.present ascending keyed own held found
  · intro value made ascending keyed decoded nothing
    rcases optional_cases decoded with ⟨rfl, rfl⟩ | ⟨record, own, rfl⟩
    · exact begins
    · exact finds.absent ascending keyed own nothing

theorem closes_optional {path names : List String} (closes : inner.Closes path names) :
    (optional inner).Closes path names := by
  intro value made members ascending decoded found
  rcases optional_cases decoded with ⟨rfl, rfl⟩ | ⟨record, own, rfl⟩
  · cases path <;> cases found
  · exact closes ascending own found

end Decoder

namespace Shape

variable {α β γ : Type} {shape : Shape α} {name : String} {inner : Decoder β} {part : α -> β}
  {path : List String}

/-- Objects are decoded member by member, arrays by place, other values not at all. -/
theorem decode_cases {dialect : Dialect} {value : Json} {record : α}
    (decoded : shape.decode dialect value = .ok record) :
    (∃ members, value = .object members) ∨ ∃ elements, value = .array elements := by
  cases value with
  | object members => exact .inl ⟨members, rfl⟩
  | array elements => exact .inr ⟨elements, rfl⟩
  | null | bool _ | number _ | string _ => cases decoded

theorem decode_keyed {dialect : Dialect} {value : Json} {record : α} {key : String}
    {keys : List String} (decoded : shape.decode dialect value = .ok record)
    (keyed : value.Keyed (key :: keys)) : ∃ members, value = .object members := by
  apply (decode_cases decoded).resolve_right
  rintro ⟨elements, rfl⟩
  exact keyed [] List.nil_prefix (List.cons_ne_nil key keys).symm elements rfl

/-- A part that a member decodes is the initial one, or comes from what the member holds. -/
theorem Reads.below {value : Json} {record : α} (reads : shape.Reads name inner part)
    (ascending : value.HasAscendingKeys) (keyed : value.Keyed (name :: path))
    (decoded : shape.decode .settings value = .ok record) :
    (value.fields.lookup name = none ∧ part record = part shape.initial) ∨
      ∃ next, value.fields.lookup name = some next ∧ next.HasAscendingKeys ∧ next.Keyed path ∧
        inner .settings next = .ok (part record) := by
  obtain ⟨members, rfl⟩ := decode_keyed decoded keyed
  have read := (decode_object decoded).1
  cases taken : members.lookup name with
  | none => exact .inl ⟨taken, reads.left read taken⟩
  | some next =>
      refine .inr ⟨next, taken, Json.ascending_lookup ascending taken, keyed.down taken, ?_⟩
      exact reads.taken read (Json.ascending_distinct ascending.1) taken

theorem present_below {decoder : Decoder γ} {get otherwise : β -> γ}
    (reads : shape.Reads name inner part) (finds : inner.Finds path decoder get otherwise)
    {value held : Json} {record : α} (ascending : value.HasAscendingKeys)
    (keyed : value.Keyed (name :: path)) (decoded : shape.decode .settings value = .ok record)
    (found : value.reach (name :: path) = some held) :
    decoder .settings held = .ok (get (part record)) := by
  rw [Json.reach_cons] at found
  rcases reads.below ascending keyed decoded with ⟨none, _⟩ | ⟨next, taken, below, down, own⟩
  · rw [none] at found
    cases found
  · rw [taken] at found
    exact finds.present below down own held found

/-- A member that is a record has its parts at the paths below its name. -/
theorem finds_member {decoder : Decoder γ} {get otherwise : β -> γ}
    (reads : shape.Reads name inner part) (finds : inner.Finds path decoder get otherwise)
    (begins : get (part shape.initial) = otherwise (part shape.initial)) :
    shape.decode.Finds (name :: path) decoder (fun record => get (part record))
      (fun record => otherwise (part record)) := by
  refine ⟨?_, ?_⟩
  · intro value record ascending keyed decoded held found
    exact present_below reads finds ascending keyed decoded found
  · intro value record ascending keyed decoded nothing
    rw [Json.reach_cons] at nothing
    rcases reads.below ascending keyed decoded with ⟨_, left⟩ | ⟨next, taken, below, down, own⟩
    · rw [left, begins]
    · rw [taken] at nothing
      exact finds.absent below down own nothing

theorem required_given {given : List (String × Json)} (complete : shape.missing given = none)
    {known : Member α} (member : known ∈ shape.members) (required : known.presence = .required) :
    known.name ∈ given.map Prod.fst := by
  have met := List.find?_eq_none.mp (Option.map_eq_none_iff.mp complete) known member
  simpa [required] using met

/-- A required member is never missing in what has been decoded. -/
theorem finds_required {decoder : Decoder γ} {get within : β -> γ} (otherwise : α -> γ)
    (reads : shape.Reads name inner part) (finds : inner.Finds [] decoder get within)
    (required : ∃ known ∈ shape.members, known.name = name ∧ known.presence = .required) :
    shape.decode.Finds [name] decoder (fun record => get (part record)) otherwise := by
  refine ⟨?_, ?_⟩
  · intro value record ascending keyed decoded held found
    exact present_below reads finds ascending keyed decoded found
  · intro value record ascending keyed decoded nothing
    obtain ⟨members, rfl⟩ := decode_keyed decoded keyed
    obtain ⟨known, member, rfl, needed⟩ := required
    have given := required_given (decode_object decoded).2 member needed
    rw [Json.reach_cons] at nothing
    rcases reads.below ascending keyed decoded with ⟨none, _⟩ | ⟨next, taken, _⟩
    · exact absurd given (lookup_eq_none_iff.mp none)
    · rw [taken] at nothing
      cases nothing

theorem closes_itself (closed : shape.closed = true) :
    shape.decode.Closes [] (shape.members.map Member.name) := by
  intro value record members ascending decoded found
  cases found
  exact read_members_known closed (decode_object decoded).1

theorem closes_member {names : List String} (reads : shape.Reads name inner part)
    (closes : inner.Closes path names) : shape.decode.Closes (name :: path) names := by
  intro value record members ascending decoded found
  obtain ⟨next, taken, later⟩ := Option.bind_eq_some_iff.mp found
  rcases decode_cases decoded with ⟨given, rfl⟩ | ⟨elements, rfl⟩
  · have own := reads.taken (decode_object decoded).1 (Json.ascending_distinct ascending.1) taken
    exact closes (Json.ascending_lookup ascending taken) own later
  · cases taken

/-! ## Which member decodes a part -/

/-- The members of this name decode a part, and the others leave it alone. -/
inductive Attends (name : String) (decoder : Decoder β) (get : α -> β) : List (Member α) -> Prop
  | nil : Attends name decoder get []
  | own {presence : Presence} {put : β -> α -> α} {rest : List (Member α)}
      (puts : ∀ part record, get (put part record) = part) (later : Attends name decoder get rest) :
      Attends name decoder get (Member.of name presence decoder put :: rest)
  | other {δ : Type} {elsewhere : String} {presence : Presence} {another : Decoder δ}
      {put : δ -> α -> α} {rest : List (Member α)} (differs : elsewhere ≠ name)
      (spares : ∀ part record, get (put part record) = get record)
      (later : Attends name decoder get rest) :
      Attends name decoder get (Member.of elsewhere presence another put :: rest)

theorem Attends.each {decoder : Decoder β} {get : α -> β} {members : List (Member α)}
    (attends : Attends name decoder get members) : ∀ known ∈ members,
      (known.name = name → known.Sets decoder get) ∧ (known.name ≠ name → known.Keeps get) := by
  induction attends with
  | nil => exact fun _ inside => nomatch inside
  | own puts later claim =>
      apply List.forall_mem_cons.mpr ⟨⟨fun _ => Member.of_sets puts, ?_⟩, claim⟩
      exact fun differs => absurd rfl differs
  | other differs spares later claim =>
      apply List.forall_mem_cons.mpr ⟨⟨?_, fun _ => Member.of_keeps spares⟩, claim⟩
      exact fun same => absurd same differs

theorem Attends.reads {decoder : Decoder β} {get : α -> β}
    (attends : Attends name decoder get shape.members)
    (known : name ∈ shape.members.map Member.name) : shape.Reads name decoder get :=
  ⟨known, fun member inside => (attends.each member inside).1,
    fun member inside => (attends.each member inside).2⟩

end Shape

/-! ## Decoders that meet mappings -/

namespace Decoder

variable {α : Type}

def RefusesObjects (decoder : Decoder α) : Prop :=
  ∀ members made, decoder .settings (.object members) ≠ .ok made

/-- An object that is laid over a value, without nulls in it, adds nothing to what is decoded. It is
not decoded itself. -/
def PassesObjects (decoder : Decoder α) : Prop :=
  ∀ (lower : Json) (members : List (String × Json)) (made : α), lower.HasAscendingKeys →
    (Json.object members).HasAscendingKeys → Json.Filled members →
    decoder .settings (lower.overlay (.object members)) = .ok made →
    (∃ held, lower = .object held) ∧ decoder .settings lower = .ok made

theorem RefusesObjects.passes {decoder : Decoder α} (refuses : decoder.RefusesObjects) :
    decoder.PassesObjects := by
  intro lower members made _ _ _ decoded
  rw [Json.overlay_members] at decoded
  exact absurd decoded (refuses _ made)

theorem RefusesObjects.mapped {β : Type} {decoder : Decoder α} (refuses : decoder.RefusesObjects)
    (change : α -> β) : (decoder.mapped change).RefusesObjects := by
  intro members made decoded
  unfold Decoder.mapped at decoded
  cases own : decoder .settings (.object members) with
  | ok held => exact refuses members held own
  | error fault =>
      rw [own] at decoded
      cases decoded

theorem RefusesObjects.optional {decoder : Decoder α} (refuses : decoder.RefusesObjects) :
    (Decoder.optional decoder).RefusesObjects := by
  intro members made decoded
  obtain ⟨held, own, _⟩ := except_bind_eq_ok.mp decoded
  exact refuses members held own

theorem text_refuses_objects : text.RefusesObjects := nofun

theorem flag_refuses_objects : flag.RefusesObjects := nofun

theorem list_refuses_objects (decoder : Decoder α) : (list decoder).RefusesObjects := nofun

theorem unsigned_refuses_objects (bits : Nat) : (unsigned bits).RefusesObjects := by
  intro members made decoded
  obtain ⟨number, own, _⟩ := except_bind_eq_ok.mp decoded
  cases own

/-- An object names a choice with its first key, which has a null. -/
theorem choice_object {label : String} {options : List (String × α)}
    {members : List (String × Json)} {made : α} :
    choice label options .settings (.object members) = .ok made ↔
      ∃ name rest, members = (name, .null) :: rest ∧ chosen options name = .ok made := by
  cases members with
  | nil => simp [choice, refuse]
  | cons entry rest =>
      obtain ⟨name, content⟩ := entry
      have first : choice label options .settings (.object ((name, content) :: rest)) =
          (underKey name (chosen options name) >>= fun value =>
            underKey name (unit .settings content) >>= fun _ => .ok value) := by
        cases rest <;> rfl
      rw [first, except_bind_eq_ok]
      constructor
      · rintro ⟨value, named, finished⟩
        obtain ⟨_, empty, same⟩ := except_bind_eq_ok.mp finished
        cases same
        cases content with
        | null => exact ⟨name, rest, rfl, under_key_eq_ok.mp named⟩
        | bool _ | number _ | string _ | array _ | object _ => cases empty
      · rintro ⟨own, others, same, named⟩
        cases same
        exact ⟨made, under_key_eq_ok.mpr named, rfl⟩

/-- In an object with ascending keys the least key stands first. -/
theorem first_of_least {members : List (String × Json)} {name : String} {value : Json}
    (ascending : Json.Ascending members) (found : members.lookup name = some value)
    (least : ∀ entry ∈ members, ¬ entry.1 < name) : ∃ rest, members = (name, value) :: rest := by
  cases members with
  | nil => cases found
  | cons entry rest =>
      obtain ⟨key, held⟩ := entry
      have notBelow := least (key, held) List.mem_cons_self
      by_cases same : name = key
      · subst same
        have own : held = value := by simpa using found
        exact ⟨rest, own ▸ rfl⟩
      · rw [lookup_cons_other same] at found
        have inside : (name, value) ∈ rest := mem_of_lookup found
        exact absurd ((List.pairwise_cons.mp ascending).1 (name, value) inside) notBelow

theorem choice_passes_objects (label : String) (options : List (String × α)) :
    (choice label options).PassesObjects := by
  intro lower members made below above filled decoded
  have ascending : (lower.overlay (.object members)).HasAscendingKeys :=
    Json.overlay_has_ascending_keys below above
  rw [Json.overlay_members] at decoded ascending
  obtain ⟨name, rest, merged, named⟩ := choice_object.mp decoded
  have placed := Json.lookup_overlay_members (Json.ascending_distinct above.1) lower.fields
  have first : (Json.overlayMembers lower.fields members).lookup name = some .null := by
    simp [merged]
  -- The null is not from above, where there are none.
  have passed : lower.fields.lookup name = some .null := by
    rw [placed] at first
    cases own : members.lookup name with
    | none =>
        rw [own] at first
        exact first
    | some value =>
        rw [own] at first
        have present := filled (name, value) (mem_of_lookup own)
        exact absurd (Json.overlay_eq_null.mp (Option.some.inj first)) present
  have least : ∀ entry ∈ lower.fields, ¬ entry.1 < name := by
    intro entry inside
    have own := Json.lookup_of_mem (Json.ascending_fields below) inside
    obtain ⟨value, kept⟩ : ∃ value,
        (Json.overlayMembers lower.fields members).lookup entry.1 = some value := by
      rw [placed, own]
      cases members.lookup entry.1 with
      | none => exact ⟨_, rfl⟩
      | some value => exact ⟨_, rfl⟩
    have later := mem_of_lookup kept
    rw [merged] at later ascending
    rcases List.mem_cons.mp later with same | inRest
    · have named : entry.1 = name := congrArg Prod.fst same
      exact named ▸ String.lt_irrefl name
    · exact String.lt_asymm ((List.pairwise_cons.mp ascending.1).1 (entry.1, value) inRest)
  obtain ⟨others, whole⟩ := first_of_least (Json.ascending_fields below) passed least
  cases lower with
  | object held =>
      refine ⟨⟨held, rfl⟩, choice_object.mpr ⟨name, others, whole, named⟩⟩
  | null | bool _ | number _ | string _ | array _ => cases passed

end Decoder
end GatedResources
