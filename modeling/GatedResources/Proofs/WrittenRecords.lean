import GatedResources.Proofs.NestedRecords
import GatedResources.Proofs.ReorderedMembers

/-!
# Records that have been written

What has been written for a value is decoded to it, however the members of its objects are ordered.
A record is decoded to itself if each of its parts is written under the name of the member that
decodes that part, and the parts that are not written are the initial ones.
-/

namespace GatedResources

namespace Decoder

open Json (Reordered)

variable {α β : Type}

/-- What is written for a part is decoded to it, with the members of its objects in any order. -/
def Restores (decoder : Decoder β) (value : Json) (part : β) : Prop :=
  ∀ dialect written, Reordered value written → decoder dialect written = .ok part

theorem text_restores (text : String) : Decoder.text.Restores (.string text) text := by
  intro dialect written same
  cases same
  rfl

theorem flag_restores (value : Bool) : flag.Restores (.bool value) value := by
  intro dialect written same
  cases same
  rfl

theorem unsigned_restores {bits count : Nat} (fits : count < Nat.pow 2 bits) :
    (unsigned bits).Restores (.natural count) count := by
  intro dialect written same
  cases same
  have within : (0 : Int) ≤ count ∧ (count : Int) ≤ (Nat.pow 2 bits : Nat) - 1 := by omega
  have read : integerWithin 0 ((Nat.pow 2 bits : Nat) - 1) ("u" ++ Decimal.natural bits) dialect
      (.natural count) = .ok count := by
    change (if _ then _ else _) = _
    rw [if_pos within]
  exact except_bind_eq_ok.mpr ⟨count, read, rfl⟩

theorem optional_restores_null {decoder : Decoder β} :
    (optional decoder).Restores .null none := by
  intro dialect written same
  cases same
  rfl

theorem optional_restores {decoder : Decoder β} {value : Json} {part : β}
    (restores : decoder.Restores value part) (present : value ≠ .null) :
    (optional decoder).Restores value (some part) := by
  intro dialect written same
  have own := restores dialect written same
  cases same with
  | null => exact absurd rfl present
  | bool | number | string | array | object => exact except_bind_eq_ok.mpr ⟨part, own, rfl⟩

theorem choice_restores (label : String) {options : List (String × β)} {name : String} {part : β}
    (known : options.lookup name = some part) :
    (choice label options).Restores (.string name) part := by
  intro dialect written same
  cases same
  have found : chosen options name = .ok part := by rw [chosen, known]
  cases dialect <;> exact found

theorem elements_restored {decoder : Decoder β} {write : β -> Json} {parts : List β}
    (each : ∀ part ∈ parts, decoder.Restores (write part) part) (dialect : Dialect) (index : Nat)
    {written : List Json} (same : Json.ElementsReordered (parts.map write) written) :
    elementsFrom decoder dialect index written = .ok parts := by
  induction parts generalizing index written with
  | nil =>
      cases same
      rfl
  | cons part rest claim =>
      cases same with
      | @cons _ other _ others first later =>
          have own := each part List.mem_cons_self dialect other first
          have behind := claim (fun part inside => each part (List.mem_cons_of_mem _ inside))
            (index + 1) later
          rw [elementsFrom, own, behind]
          rfl

theorem list_restores {decoder : Decoder β} {write : β -> Json} {parts : List β}
    (each : ∀ part ∈ parts, decoder.Restores (write part) part) :
    (list decoder).Restores (.array (parts.map write)) parts := by
  intro dialect written same
  cases same with
  | array same => exact elements_restored each dialect 0 same

end Decoder

namespace Shape

open Json (Reordered MembersReordered)

variable {α : Type} {shape : Shape α} {record : α} {agrees : α -> Prop}
  {names : List String} {members held given : List (String × Json)}

/-- The members that are written for a record: each stands under the name of a member that decodes
a part of the record. What is decoded agrees with the record in these parts. -/
inductive Written (shape : Shape α) (record : α) :
    List String -> List (String × Json) -> (α -> Prop) -> Prop
  | none : Written shape record [] [] fun _ => True
  | part {β : Type} {key : String} {value : Json} {presence : Presence} {decoder : Decoder β}
      {get : α -> β} {put : β -> α -> α} {names : List String} {rest : List (String × Json)}
      {agrees : α -> Prop}
      (known : shape.members.find? (fun known => known.name == key) =
        some (Member.of key presence decoder put))
      (reads : shape.Reads key decoder get) (restores : decoder.Restores value (get record))
      (later : Written shape record names rest agrees) :
      Written shape record (key :: names) ((key, value) :: rest)
        fun made => get made = get record ∧ agrees made

theorem Written.named (written : shape.Written record names members agrees) :
    members.map Prod.fst = names := by
  induction written with
  | none => rfl
  | part known reads restores later claim => rw [List.map_cons, claim]

/-- Each written member is taken. -/
theorem Written.taken (written : shape.Written record names members agrees)
    (same : MembersReordered members held) (dialect : Dialect) : ∀ entry ∈ held, ∃ known,
      shape.members.find? (fun known => known.name == entry.1) = some known ∧
        ∀ before, ∃ after, known.read dialect entry.2 before = .ok after := by
  induction written generalizing held with
  | none =>
      cases same
      exact fun _ inside => nomatch inside
  | part known reads restores later claim =>
      cases same with
      | @cons _ value other _ others first behind =>
          apply List.forall_mem_cons.mpr ⟨⟨_, known, ?_⟩, claim behind⟩
          intro before
          exact ⟨_, Member.read_eq_ok.mpr ⟨_, restores dialect other first, rfl⟩⟩

theorem read_members_succeeds {dialect : Dialect}
    (taken : ∀ entry ∈ given, ∃ known,
      shape.members.find? (fun known => known.name == entry.1) = some known ∧
        ∀ before, ∃ after, known.read dialect entry.2 before = .ok after)
    (start : α) : ∃ made, shape.readMembers dialect given start = .ok made := by
  induction given generalizing start with
  | nil => exact ⟨start, rfl⟩
  | cons entry rest claim =>
      obtain ⟨⟨known, found, reads⟩, others⟩ := List.forall_mem_cons.mp taken
      obtain ⟨next, read⟩ := reads start
      obtain ⟨made, later⟩ := claim others next
      refine ⟨made, ?_⟩
      rw [readMembers, found]
      exact except_bind_eq_ok.mpr ⟨next, read, later⟩

/-- What is decoded has the written parts. -/
theorem Written.decoded (written : shape.Written record names members agrees)
    (same : MembersReordered members held) (stands : ∀ entry ∈ held, entry ∈ given)
    (distinct : (given.map Prod.fst).Nodup) {dialect : Dialect} {start made : α}
    (read : shape.readMembers dialect given start = .ok made) : agrees made := by
  induction written generalizing held with
  | none => trivial
  | part known reads restores later claim =>
      cases same with
      | @cons key value other _ others first behind =>
          obtain ⟨here, further⟩ := List.forall_mem_cons.mp stands
          have found := lookup_of_distinct distinct here
          have own := reads.taken read distinct found
          rw [restores dialect other first] at own
          exact ⟨(Except.ok.inj own).symm, claim behind further⟩

/-- Whether a member is missing depends on the keys alone. -/
theorem missing_of_keys (keys : (given.map Prod.fst).Perm (members.map Prod.fst)) :
    shape.missing given = shape.missing members := by
  have alike : ∀ name, (given.any fun entry => entry.1 == name) =
      members.any fun entry => entry.1 == name := by
    intro name
    rw [Bool.eq_iff_iff, List.any_eq_true, List.any_eq_true]
    have inside := keys.mem_iff (a := name)
    simpa [List.mem_map] using inside
  unfold missing
  simp only [alike]

/-- A written record is decoded to itself, if nothing else agrees with it in the written parts and
has the initial ones beside them. -/
theorem restores (written : shape.Written record names members agrees)
    (distinct : names.Nodup) (complete : shape.missing members = none)
    (whole : ∀ made, agrees made →
      (∀ {β : Type} {name : String} {decoder : Decoder β} {get : α -> β},
        shape.Reads name decoder get → name ∉ names → get made = get shape.initial) →
      made = record) :
    shape.decode.Restores (.object members) record := by
  intro dialect value reordered
  cases reordered with
  | @object _ held given same moved =>
      have keys : (given.map Prod.fst).Perm (members.map Prod.fst) := by
        rw [← Json.members_reordered_keys same]
        exact (moved.map _).symm
      have own : (given.map Prod.fst).Perm names := written.named ▸ keys
      have apart := own.nodup_iff.mpr distinct
      have taken : ∀ entry ∈ given, _ := fun entry inside =>
        written.taken same dialect entry (moved.mem_iff.mpr inside)
      obtain ⟨made, read⟩ := read_members_succeeds taken shape.initial
      have agreed := written.decoded same (fun entry inside => moved.mem_iff.mp inside) apart read
      have whole : made = record := by
        refine whole made agreed fun reads absent => reads.left read ?_
        rw [lookup_eq_none_iff]
        exact fun inside => absent (own.mem_iff.mp inside)
      have nothing : shape.missing given = none := (missing_of_keys keys).trans complete
      refine except_bind_eq_ok.mpr ⟨made, read, ?_⟩
      rw [nothing, whole]

end Shape
end GatedResources
