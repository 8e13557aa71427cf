import GatedResources.Json.Value

/-!
# Members of objects

Objects of the library have ascending keys, each key once. A member that is put into such an object
is found there and moves no other, and sorting makes such an object of any other.
-/

namespace GatedResources

theorem lookup_cons_other {value : Type} {name key : String} (differs : name ≠ key) (own : value)
    (rest : List (String × value)) : ((key, own) :: rest).lookup name = rest.lookup name := by
  rw [List.lookup_cons, beq_eq_false_iff_ne.mpr differs]

theorem mem_of_lookup {value : Type} {entries : List (String × value)} {name : String} {own : value}
    (found : entries.lookup name = some own) : (name, own) ∈ entries := by
  obtain ⟨front, back, split, _⟩ := List.lookup_eq_some_iff.mp found
  simp [split]

theorem lookup_eq_none_iff {value : Type} {name : String} {members : List (String × value)} :
    members.lookup name = none ↔ name ∉ members.map Prod.fst := by
  rw [List.lookup_eq_none_iff]
  constructor
  · intro absent inside
    obtain ⟨entry, member, same⟩ := List.mem_map.mp inside
    have differs := absent entry member
    simp [same] at differs
  · intro fresh entry member
    rw [bne_iff_ne]
    intro same
    exact fresh (same ▸ List.mem_map_of_mem member)

theorem lookup_of_distinct {value : Type} {members : List (String × value)}
    (distinct : (members.map Prod.fst).Nodup) {entry : String × value} (member : entry ∈ members) :
    members.lookup entry.1 = some entry.2 := by
  induction members with
  | nil => cases member
  | cons first rest claim =>
      rw [List.map_cons, List.nodup_cons] at distinct
      rcases List.mem_cons.mp member with rfl | later
      · exact List.lookup_cons_self
      · have differs : entry.1 ≠ first.1 := by
          intro same
          exact distinct.1 (same ▸ List.mem_map_of_mem later)
        rw [lookup_cons_other differs]
        exact claim distinct.2 later

namespace Json

theorem lookup_eq (key : String) (members : List (String × Json)) :
    lookup key members = members.lookup key := by
  induction members with
  | nil => rfl
  | cons entry rest claim =>
      obtain ⟨name, value⟩ := entry
      rw [lookup]
      by_cases same : name = key
      · subst same
        simp
      · rw [if_neg same, lookup_cons_other (Ne.symm same), claim]

def Ascending (members : List (String × Json)) : Prop :=
  members.Pairwise fun first second => first.1 < second.1

theorem mem_insert_member {key : String} {value : Json} {members : List (String × Json)}
    {entry : String × Json} (inside : entry ∈ insertMember key value members) :
    entry = (key, value) ∨ entry ∈ members := by
  induction members with
  | nil => exact .inl (List.mem_singleton.mp inside)
  | cons held rest claim =>
      obtain ⟨name, own⟩ := held
      unfold insertMember at inside
      split at inside
      · exact List.mem_cons.mp inside
      · split at inside
        · exact (List.mem_cons.mp inside).imp_right (List.mem_cons_of_mem _)
        · rcases List.mem_cons.mp inside with same | later
          · exact .inr (same ▸ List.mem_cons_self)
          · exact (claim later).imp_right (List.mem_cons_of_mem _)

theorem insert_member_ascending {members : List (String × Json)} (ascending : Ascending members)
    (key : String) (value : Json) : Ascending (insertMember key value members) := by
  unfold Ascending at ascending ⊢
  induction members with
  | nil => exact List.pairwise_singleton _ _
  | cons held rest claim =>
      obtain ⟨name, own⟩ := held
      obtain ⟨above, later⟩ := List.pairwise_cons.mp ascending
      unfold insertMember
      by_cases below : key < name
      · rw [if_pos below]
        apply List.pairwise_cons.mpr ⟨?_, ascending⟩
        intro entry inside
        rcases List.mem_cons.mp inside with same | inRest
        · rw [same]
          exact below
        · exact String.lt_trans below (above entry inRest)
      · rw [if_neg below]
        by_cases same : key = name
        · subst same
          rw [if_pos rfl]
          exact List.pairwise_cons.mpr ⟨above, later⟩
        · rw [if_neg same]
          apply List.pairwise_cons.mpr ⟨?_, claim later⟩
          intro entry inside
          rcases mem_insert_member inside with new | inRest
          · show name < entry.1
            rw [new]
            apply String.not_le.mp
            intro notAbove
            exact same (String.le_antisymm notAbove (String.not_lt.mp below))
          · exact above entry inRest

theorem sorted_members_ascending {value : Json} {members : List (String × Json)}
    (read : value.sorted = .object members) : Ascending members := by
  have kept : ∀ (entries held : List (String × Json)), Ascending held →
      Ascending (entries.foldl (fun sorted entry => insertMember entry.1 entry.2 sorted) held) := by
    intro entries
    induction entries with
    | nil =>
        intro held ascending
        exact ascending
    | cons entry rest claim =>
        intro held ascending
        exact claim _ (insert_member_ascending ascending entry.1 entry.2)
  cases value with
  | object written =>
      unfold sorted at read
      cases read
      exact kept _ [] List.Pairwise.nil
  | null | bool _ | number _ | string _ | array _ =>
      unfold sorted at read
      cases read

theorem ascending_distinct {members : List (String × Json)} (ascending : Ascending members) :
    (members.map Prod.fst).Nodup := by
  have keys : (members.map Prod.fst).Pairwise (· < ·) := List.pairwise_map.mpr ascending
  exact keys.imp fun below => String.ne_of_lt below

/-- Some of the members stand in the order of all of them. -/
theorem ascending_sublist {fewer more : List (String × Json)} (ascending : Ascending fewer)
    (ascendingToo : Ascending more) (among : ∀ entry ∈ fewer, entry ∈ more) :
    fewer.Sublist more := by
  induction more generalizing fewer with
  | nil =>
      cases fewer with
      | nil => exact .slnil
      | cons first _ => cases among first List.mem_cons_self
  | cons head rest claim =>
      obtain ⟨headBelow, restAscending⟩ := List.pairwise_cons.mp ascendingToo
      have later : ∀ {some : List (String × Json)}, Ascending some →
          (∀ entry ∈ some, entry ∈ head :: rest) → head ∉ some → some.Sublist rest := by
        intro some own inside absent
        apply claim own restAscending
        intro entry member
        refine (List.mem_cons.mp (inside entry member)).resolve_left ?_
        intro same
        exact absent (same ▸ member)
      cases fewer with
      | nil => exact List.nil_sublist _
      | cons first others =>
          obtain ⟨firstBelow, othersAscending⟩ := List.pairwise_cons.mp ascending
          have othersAmong : ∀ entry ∈ others, entry ∈ head :: rest :=
            fun entry member => among entry (List.mem_cons_of_mem _ member)
          rcases List.mem_cons.mp (among first List.mem_cons_self) with same | inRest
          · subst same
            apply (later othersAscending othersAmong ?_).cons_cons
            exact fun member => String.lt_irrefl _ (firstBelow first member)
          · apply (later ascending among ?_).cons
            intro member
            rcases List.mem_cons.mp member with same | inOthers
            · exact String.lt_irrefl _ (same ▸ headBelow first inRest)
            · exact String.lt_irrefl _
                (String.lt_trans (headBelow first inRest) (firstBelow head inOthers))

mutual

/-- Every object in the value has its keys in ascending order, each once. -/
def HasAscendingKeys : Json -> Prop
  | .array elements => ElementsHaveAscendingKeys elements
  | .object members => Ascending members ∧ MembersHaveAscendingKeys members
  | .null | .bool _ | .number _ | .string _ => True

def ElementsHaveAscendingKeys : List Json -> Prop
  | [] => True
  | element :: rest => HasAscendingKeys element ∧ ElementsHaveAscendingKeys rest

def MembersHaveAscendingKeys : List (String × Json) -> Prop
  | [] => True
  | (_, value) :: rest => HasAscendingKeys value ∧ MembersHaveAscendingKeys rest

end

theorem members_ascending_iff {members : List (String × Json)} :
    MembersHaveAscendingKeys members ↔ ∀ entry ∈ members, entry.2.HasAscendingKeys := by
  induction members with
  | nil => simp [MembersHaveAscendingKeys]
  | cons entry rest claim => simp [MembersHaveAscendingKeys, claim]

theorem sorted_members_map (members : List (String × Json)) :
    sortedMembers members = members.map fun entry => (entry.1, entry.2.sorted) := by
  induction members with
  | nil => rfl
  | cons entry rest claim => rw [sortedMembers, List.map_cons, claim]

/-- Sorting adds no members. -/
theorem mem_sort_members {members : List (String × Json)} {entry : String × Json}
    (inside : entry ∈ sortMembers members) : entry ∈ members := by
  have kept : ∀ (entries held : List (String × Json)),
      entry ∈ entries.foldl (fun sorted entry => insertMember entry.1 entry.2 sorted) held →
        entry ∈ entries ∨ entry ∈ held := by
    intro entries
    induction entries with
    | nil => exact fun held inHeld => .inr inHeld
    | cons first rest claim =>
        intro held inFold
        rcases claim _ inFold with later | placed
        · exact .inl (List.mem_cons_of_mem _ later)
        · rcases mem_insert_member placed with new | old
          · exact .inl (List.mem_cons.mpr (.inl new))
          · exact .inr old
  exact (kept members [] inside).resolve_right List.not_mem_nil

mutual

theorem sorted_has_ascending_keys (value : Json) : value.sorted.HasAscendingKeys := by
  cases value with
  | null | bool _ | number _ | string _ => exact trivial
  | array elements => exact sorted_elements_ascending elements
  | object members =>
      refine ⟨sorted_members_ascending (by rw [sorted] : (object members).sorted = _), ?_⟩
      apply members_ascending_iff.mpr
      intro entry inside
      have each := members_ascending_iff.mp (sorted_members_values_ascending members)
      exact each entry (mem_sort_members inside)

theorem sorted_elements_ascending (elements : List Json) :
    ElementsHaveAscendingKeys (sortedElements elements) := by
  cases elements with
  | nil => exact trivial
  | cons element rest =>
      exact ⟨sorted_has_ascending_keys element, sorted_elements_ascending rest⟩

theorem sorted_members_values_ascending (members : List (String × Json)) :
    MembersHaveAscendingKeys (sortedMembers members) := by
  cases members with
  | nil => exact trivial
  | cons entry rest =>
      exact ⟨sorted_has_ascending_keys entry.2, sorted_members_values_ascending rest⟩

end

theorem lookup_insert_member (key : String) (value : Json) (members : List (String × Json))
    (name : String) :
    (insertMember key value members).lookup name =
      if name = key then some value else members.lookup name := by
  induction members with
  | nil =>
      by_cases same : name = key
      · simp [insertMember, same]
      · simp [insertMember, lookup_cons_other same, same]
  | cons held rest claim =>
      obtain ⟨own, cell⟩ := held
      unfold insertMember
      by_cases same : name = key
      · subst same
        split
        · simp
        · split
          · simp
          · next differs => rw [lookup_cons_other differs, claim, if_pos rfl, if_pos rfl]
      · rw [if_neg same]
        split
        · exact lookup_cons_other same _ _
        · split
          · next replaced =>
              subst replaced
              rw [lookup_cons_other same, lookup_cons_other same]
          · rw [List.lookup_cons, claim, if_neg same, List.lookup_cons]

theorem lookup_of_mem {members : List (String × Json)} (ascending : Ascending members)
    {field : String × Json} (member : field ∈ members) :
    members.lookup field.1 = some field.2 :=
  lookup_of_distinct (ascending_distinct ascending) member

end Json
end GatedResources
