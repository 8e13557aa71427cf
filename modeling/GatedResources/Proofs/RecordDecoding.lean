import GatedResources.Decode.Decoder
import GatedResources.Proofs.Members
import GatedResources.Proofs.Outcome

/-!
# Decoding records

A record is decoded member by member, and each member puts in its own part. So a part of the
record is what its member gives, the initial one where the object has no such member, and nothing
in the object is passed over by a shape that is closed.
-/

namespace GatedResources

theorem under_key_eq_ok {α : Type} {key : String} {result : Except Fault α} {value : α} :
    underKey key result = .ok value ↔ result = .ok value := by
  cases result <;> simp [underKey]

namespace Member

variable {α β : Type} {known : Member α} {decoder : Decoder β} {get : α -> β}

def Sets (known : Member α) (decoder : Decoder β) (get : α -> β) : Prop :=
  ∀ dialect value before after, known.read dialect value before = .ok after →
    decoder dialect value = .ok (get after)

def Keeps (known : Member α) (get : α -> β) : Prop :=
  ∀ dialect value before after, known.read dialect value before = .ok after →
    get after = get before

theorem read_eq_ok {γ : Type} {name : String} {presence : Presence} {own : Decoder γ}
    {put : γ -> α -> α} {dialect : Dialect} {value : Json} {before after : α} :
    (Member.of name presence own put).read dialect value before = .ok after ↔
      ∃ part, own dialect value = .ok part ∧ put part before = after := by
  have made : (Member.of name presence own put).read dialect value before =
      (underKey name (own dialect value) >>= fun part => .ok (put part before)) := rfl
  simp only [made, except_bind_eq_ok, under_key_eq_ok, Except.ok.injEq]

@[simp] theorem of_name {γ : Type} (name : String) (presence : Presence) (own : Decoder γ)
    (put : γ -> α -> α) : (Member.of name presence own put).name = name := rfl

theorem of_sets {name : String} {presence : Presence} {put : β -> α -> α}
    (puts : ∀ part record, get (put part record) = part) :
    (Member.of name presence decoder put).Sets decoder get := by
  intro dialect value before after read
  obtain ⟨part, decoded, made⟩ := read_eq_ok.mp read
  rw [decoded, ← made, puts]

theorem of_keeps {γ : Type} {name : String} {presence : Presence} {own : Decoder γ}
    {put : γ -> α -> α} (spares : ∀ part record, get (put part record) = get record) :
    (Member.of name presence own put).Keeps get := by
  intro dialect value before after read
  obtain ⟨part, _, made⟩ := read_eq_ok.mp read
  rw [← made, spares]

end Member

namespace Shape

variable {α β : Type} {shape : Shape α} {dialect : Dialect} {given : List (String × Json)}
  {value : Json} {record : α}

/-! ## What every record has that is decoded -/

theorem read_members_keeps {holds : α -> Prop}
    (step : ∀ known ∈ shape.members, ∀ value before after,
      known.read dialect value before = .ok after → holds before → holds after)
    {start : α} (read : shape.readMembers dialect given start = .ok record)
    (begun : holds start) : holds record := by
  induction given generalizing start with
  | nil =>
      cases read
      exact begun
  | cons entry rest claim =>
      obtain ⟨key, value⟩ := entry
      rw [readMembers] at read
      split at read
      · next known found =>
          obtain ⟨next, taken, later⟩ := except_bind_eq_ok.mp read
          exact claim later
            (step known (List.mem_of_find?_eq_some found) value start next taken begun)
      · split at read
        · cases read
        · exact claim read begun

theorem read_elements_keeps {holds : α -> Prop}
    (step : ∀ known ∈ shape.members, ∀ value before after,
      known.read dialect value before = .ok after → holds before → holds after)
    {members : List (Member α)} (among : ∀ known ∈ members, known ∈ shape.members)
    {index : Nat} {values : List Json} {start : α}
    (read : shape.readElements dialect index members values start = .ok record)
    (begun : holds start) : holds record := by
  induction members generalizing index values start with
  | nil =>
      cases read
      exact begun
  | cons known others claim =>
      have amongOthers : ∀ other ∈ others, other ∈ shape.members :=
        fun other member => among other (List.mem_cons_of_mem _ member)
      cases values with
      | nil =>
          rw [readElements] at read
          split at read
          · exact claim amongOthers read begun
          · cases read
      | cons value values =>
          obtain ⟨next, taken, later⟩ := except_bind_eq_ok.mp read
          exact claim amongOthers later
            (step known (among known List.mem_cons_self) value start next taken begun)

/-- What holds at the beginning and is kept by every member holds of what is decoded. -/
theorem decode_keeps (holds : α -> Prop) (begun : holds shape.initial)
    (step : ∀ known ∈ shape.members, ∀ value before after,
      known.read dialect value before = .ok after → holds before → holds after)
    (decoded : shape.decode dialect value = .ok record) : holds record := by
  cases value with
  | object given =>
      obtain ⟨result, read, finished⟩ := except_bind_eq_ok.mp decoded
      split at finished
      · cases finished
      · cases finished
        exact read_members_keeps step read begun
  | array values =>
      obtain ⟨result, read, finished⟩ := except_bind_eq_ok.mp decoded
      split at finished
      · cases finished
      · cases finished
        exact read_elements_keeps step (fun _ member => member) read begun
  | null | bool _ | number _ | string _ => cases decoded

/-! ## Parts of a record -/

theorem decode_object (decoded : shape.decode dialect (.object given) = .ok record) :
    shape.readMembers dialect given shape.initial = .ok record ∧ shape.missing given = none := by
  obtain ⟨result, read, finished⟩ := except_bind_eq_ok.mp decoded
  split at finished
  · cases finished
  · next complete =>
      cases finished
      exact ⟨read, complete⟩

/-- A closed shape knows every member of an object that it decodes. -/
theorem read_members_known (closed : shape.closed = true) {start : α}
    (read : shape.readMembers dialect given start = .ok record) :
    ∀ entry ∈ given, entry.1 ∈ shape.members.map Member.name := by
  induction given generalizing start with
  | nil => simp
  | cons entry rest claim =>
      obtain ⟨key, value⟩ := entry
      rw [readMembers] at read
      split at read
      · next known found =>
          obtain ⟨next, taken, later⟩ := except_bind_eq_ok.mp read
          have named : known.name = key := by simpa using List.find?_some found
          have own : key ∈ shape.members.map Member.name :=
            named ▸ List.mem_map_of_mem (List.mem_of_find?_eq_some found)
          exact List.forall_mem_cons.mpr ⟨own, claim later⟩
      · rw [if_pos closed] at read
        cases read

/-- One member of the shape decodes a part of the record, and the others leave it alone. -/
structure Reads (shape : Shape α) (name : String) (decoder : Decoder β) (get : α -> β) :
    Prop where
  known : name ∈ shape.members.map Member.name
  own : ∀ known ∈ shape.members, known.name = name → known.Sets decoder get
  others : ∀ known ∈ shape.members, known.name ≠ name → known.Keeps get

variable {name : String} {decoder : Decoder β} {get : α -> β}

theorem Reads.step (reads : shape.Reads name decoder get) {key : String}
    {rest : List (String × Json)} {start : α}
    (read : shape.readMembers dialect ((key, value) :: rest) start = .ok record) :
    ∃ next, shape.readMembers dialect rest next = .ok record ∧
      (key = name → decoder dialect value = .ok (get next)) ∧
      (key ≠ name → get next = get start) := by
  rw [readMembers] at read
  split at read
  · next known found =>
      obtain ⟨next, taken, later⟩ := except_bind_eq_ok.mp read
      have member := List.mem_of_find?_eq_some found
      have named : known.name = key := by simpa using List.find?_some found
      refine ⟨next, later, ?_, ?_⟩
      · intro same
        exact reads.own known member (named.trans same) dialect value start next taken
      · intro differs
        exact reads.others known member (named ▸ differs) dialect value start next taken
  · next unknown =>
      split at read
      · cases read
      · refine ⟨start, read, ?_, fun _ => rfl⟩
        rintro rfl
        obtain ⟨known, member, named⟩ := List.mem_map.mp reads.known
        have absent := List.find?_eq_none.mp unknown known member
        simp [named] at absent

theorem Reads.left (reads : shape.Reads name decoder get) {start : α}
    (read : shape.readMembers dialect given start = .ok record)
    (absent : given.lookup name = none) : get record = get start := by
  induction given generalizing start with
  | nil =>
      cases read
      rfl
  | cons entry rest claim =>
      obtain ⟨key, value⟩ := entry
      obtain ⟨next, later, -, kept⟩ := reads.step read
      have differs : key ≠ name := by
        rintro rfl
        simp at absent
      rw [lookup_cons_other (Ne.symm differs)] at absent
      rw [claim later absent, kept differs]

theorem Reads.taken (reads : shape.Reads name decoder get) {start : α}
    (read : shape.readMembers dialect given start = .ok record)
    (distinct : (given.map Prod.fst).Nodup) (present : given.lookup name = some value) :
    decoder dialect value = .ok (get record) := by
  induction given generalizing start with
  | nil => cases present
  | cons entry rest claim =>
      obtain ⟨key, held⟩ := entry
      obtain ⟨next, later, own, kept⟩ := reads.step read
      rw [List.map_cons, List.nodup_cons] at distinct
      by_cases same : key = name
      · subst same
        have value : held = value := by simpa using present
        rw [← value, own rfl, reads.left later (lookup_eq_none_iff.mpr distinct.1)]
      · rw [lookup_cons_other (Ne.symm same)] at present
        exact claim later distinct.2 present

end Shape
end GatedResources
