import GatedResources.Proofs.CompactText
import GatedResources.Proofs.Members
import Mathlib.Data.List.Perm.Basic

/-!
# The order of members

A value with the members of its objects in another order is sorted to the same value. So a text
that orders them otherwise is read alike.
-/

namespace GatedResources
namespace Json

mutual

/-- The second value is the first with the members of its objects in any order, at every level. -/
inductive Reordered : Json -> Json -> Prop where
  | null : Reordered .null .null
  | bool (value : Bool) : Reordered (.bool value) (.bool value)
  | number (value : Number) : Reordered (.number value) (.number value)
  | string (value : String) : Reordered (.string value) (.string value)
  | array {elements written : List Json} (same : ElementsReordered elements written) :
      Reordered (.array elements) (.array written)
  | object {members held written : List (String × Json)} (same : MembersReordered members held)
      (moved : held.Perm written) : Reordered (.object members) (.object written)

inductive ElementsReordered : List Json -> List Json -> Prop where
  | nil : ElementsReordered [] []
  | cons {element other : Json} {rest others : List Json} (first : Reordered element other)
      (later : ElementsReordered rest others) :
      ElementsReordered (element :: rest) (other :: others)

inductive MembersReordered : List (String × Json) -> List (String × Json) -> Prop where
  | nil : MembersReordered [] []
  | cons {key : String} {value other : Json} {rest others : List (String × Json)}
      (first : Reordered value other) (later : MembersReordered rest others) :
      MembersReordered ((key, value) :: rest) ((key, other) :: others)

end

theorem insert_member_perm {key : String} {value : Json} {members : List (String × Json)}
    (fresh : key ∉ members.map Prod.fst) :
    (insertMember key value members).Perm ((key, value) :: members) := by
  induction members with
  | nil => exact List.Perm.refl _
  | cons held rest claim =>
      obtain ⟨name, own⟩ := held
      rw [List.map_cons, List.mem_cons, not_or] at fresh
      have inserted := claim fresh.2
      by_cases below : key < name
      · rw [insertMember, if_pos below]
      · rw [insertMember, if_neg below, if_neg fresh.1]
        exact (inserted.cons _).trans (List.Perm.swap _ _ _)

theorem sort_members_perm {members : List (String × Json)}
    (distinct : (members.map Prod.fst).Nodup) : (sortMembers members).Perm members := by
  have inserted : ∀ (entries held : List (String × Json)),
      ((held ++ entries).map Prod.fst).Nodup →
      (entries.foldl (fun sorted entry => insertMember entry.1 entry.2 sorted) held).Perm
        (held ++ entries) := by
    intro entries
    induction entries with
    | nil =>
        intro held _
        rw [List.append_nil]
        exact List.Perm.refl _
    | cons entry rest claim =>
        intro held apart
        have middle : (held ++ entry :: rest).Perm (entry :: (held ++ rest)) :=
          List.perm_middle
        have keys : ((entry :: (held ++ rest)).map Prod.fst).Nodup :=
          (middle.map Prod.fst).nodup_iff.mp apart
        rw [List.map_cons, List.nodup_cons, List.map_append] at keys
        have fresh : entry.1 ∉ held.map Prod.fst :=
          fun inside => keys.1 (List.mem_append_left _ inside)
        have placed : (insertMember entry.1 entry.2 held).Perm (entry :: held) :=
          insert_member_perm fresh
        have moved : (insertMember entry.1 entry.2 held ++ rest).Perm (held ++ entry :: rest) :=
          (placed.append_right rest).trans middle.symm
        exact (claim _ ((moved.map Prod.fst).nodup_iff.mpr apart)).trans moved
  exact inserted members [] distinct

/-- Sorting puts reordered members back in their places. -/
theorem sort_members_of_perm {members written : List (String × Json)}
    (ascending : Ascending members) (moved : members.Perm written)
    (sortedAscending : Ascending (sortMembers written)) : sortMembers written = members := by
  have distinct : (written.map Prod.fst).Nodup :=
    (moved.map Prod.fst).nodup_iff.mp (ascending_distinct ascending)
  have kept := (sort_members_perm distinct).trans moved.symm
  apply List.Perm.eq_of_pairwise _ sortedAscending ascending kept
  intro first second _ _ below above
  exact absurd (String.lt_trans below above) (String.lt_irrefl _)

mutual

theorem reordered_sorted {value written : Json} (same : Reordered value written)
    (ascending : value.HasAscendingKeys) : written.sorted = value := by
  cases same with
  | null | bool _ | number _ | string _ => rfl
  | array same => rw [sorted, elements_reordered_sorted same ascending]
  | @object members held written same moved =>
      have values := members_reordered_sorted same ascending.2
      have back : (sortedMembers held).Perm (sortedMembers written) := by
        rw [sorted_members_map, sorted_members_map]
        exact moved.map _
      have placed : (object written).sorted = object (sortMembers (sortedMembers written)) := by
        rw [sorted]
      rw [values] at back
      rw [placed, sort_members_of_perm ascending.1 back (sorted_members_ascending placed)]

theorem elements_reordered_sorted {elements written : List Json}
    (same : ElementsReordered elements written)
    (ascending : ElementsHaveAscendingKeys elements) : sortedElements written = elements := by
  cases same with
  | nil => rfl
  | cons first later =>
      rw [sortedElements, reordered_sorted first ascending.1,
        elements_reordered_sorted later ascending.2]

theorem members_reordered_sorted {members held : List (String × Json)}
    (same : MembersReordered members held)
    (ascending : MembersHaveAscendingKeys members) : sortedMembers held = members := by
  cases same with
  | nil => rfl
  | cons first later =>
      rw [sortedMembers, reordered_sorted first ascending.1,
        members_reordered_sorted later ascending.2]

end

theorem members_whole_perm {members written : List (String × Json)}
    (moved : members.Perm written) :
    MembersHaveWholeNumbers members ↔ MembersHaveWholeNumbers written := by
  induction moved with
  | nil => rfl
  | cons entry _ claim => rw [MembersHaveWholeNumbers, MembersHaveWholeNumbers, claim]
  | swap first second rest => exact and_left_comm
  | trans _ _ before after => exact before.trans after

theorem members_nesting_perm {members written : List (String × Json)}
    (moved : members.Perm written) : membersNesting members = membersNesting written := by
  induction moved with
  | nil => rfl
  | cons entry _ claim => rw [membersNesting, membersNesting, claim]
  | swap first second rest => exact Nat.max_left_comm _ _ _
  | trans _ _ before after => exact before.trans after

mutual

theorem reordered_fits {value written : Json} (same : Reordered value written) :
    (written.HasWholeNumbers ↔ value.HasWholeNumbers) ∧ written.nesting = value.nesting := by
  cases same with
  | null | bool _ | number _ | string _ => exact ⟨Iff.rfl, rfl⟩
  | array same =>
      have kept := elements_reordered_fits same
      rw [HasWholeNumbers, HasWholeNumbers, nesting, nesting, kept.2]
      exact ⟨kept.1, rfl⟩
  | object same moved =>
      have kept := members_reordered_fits same
      rw [HasWholeNumbers, HasWholeNumbers, nesting, nesting, ← members_nesting_perm moved, kept.2]
      exact ⟨(members_whole_perm moved).symm.trans kept.1, rfl⟩

theorem elements_reordered_fits {elements written : List Json}
    (same : ElementsReordered elements written) :
    (ElementsHaveWholeNumbers written ↔ ElementsHaveWholeNumbers elements) ∧
      elementsNesting written = elementsNesting elements := by
  cases same with
  | nil => exact ⟨Iff.rfl, rfl⟩
  | cons first later =>
      have one := reordered_fits first
      have others := elements_reordered_fits later
      rw [ElementsHaveWholeNumbers, ElementsHaveWholeNumbers, elementsNesting, elementsNesting,
        one.2, others.2, one.1, others.1]
      exact ⟨Iff.rfl, rfl⟩

theorem members_reordered_fits {members held : List (String × Json)}
    (same : MembersReordered members held) :
    (MembersHaveWholeNumbers held ↔ MembersHaveWholeNumbers members) ∧
      membersNesting held = membersNesting members := by
  cases same with
  | nil => exact ⟨Iff.rfl, rfl⟩
  | cons first later =>
      have one := reordered_fits first
      have others := members_reordered_fits later
      rw [MembersHaveWholeNumbers, MembersHaveWholeNumbers, membersNesting, membersNesting,
        one.2, others.2, one.1, others.1]
      exact ⟨Iff.rfl, rfl⟩

end

/-- Reading a reordered text gives the value in its own order. -/
theorem parse_reordered {value written : Json} (same : Reordered value written)
    (ascending : value.HasAscendingKeys) (whole : value.HasWholeNumbers)
    (shallow : value.nesting ≤ greatestDepth) : parse written.compact = some value := by
  obtain ⟨wholeWritten, depth⟩ := reordered_fits same
  rw [parse_compact (wholeWritten.mpr whole) (depth ▸ shallow), reordered_sorted same ascending]

/-! ## Orders of one value -/

theorem members_reordered_keys {members held : List (String × Json)}
    (same : MembersReordered members held) :
    held.map Prod.fst = members.map Prod.fst := by
  induction members generalizing held with
  | nil =>
      cases same
      rfl
  | cons entry rest claim =>
      cases same with
      | cons first later => rw [List.map_cons, List.map_cons, claim later]

mutual

def HasDistinctKeys : Json -> Prop
  | .array elements => ElementsHaveDistinctKeys elements
  | .object members => (members.map Prod.fst).Nodup ∧ MembersHaveDistinctKeys members
  | .null | .bool _ | .number _ | .string _ => True

def ElementsHaveDistinctKeys : List Json -> Prop
  | [] => True
  | element :: rest => HasDistinctKeys element ∧ ElementsHaveDistinctKeys rest

def MembersHaveDistinctKeys : List (String × Json) -> Prop
  | [] => True
  | (_, value) :: rest => HasDistinctKeys value ∧ MembersHaveDistinctKeys rest

end

mutual

theorem reordered_itself (value : Json) : Reordered value value := by
  cases value with
  | null => exact .null
  | bool value => exact .bool value
  | number value => exact .number value
  | string value => exact .string value
  | array elements => exact .array (elements_reordered_itself elements)
  | object members => exact .object (members_reordered_itself members) (List.Perm.refl _)

theorem elements_reordered_itself (elements : List Json) :
    ElementsReordered elements elements := by
  cases elements with
  | nil => exact .nil
  | cons element rest =>
      exact .cons (reordered_itself element) (elements_reordered_itself rest)

theorem members_reordered_itself (members : List (String × Json)) :
    MembersReordered members members := by
  cases members with
  | nil => exact .nil
  | cons entry rest => exact .cons (reordered_itself entry.2) (members_reordered_itself rest)

end

theorem sorted_members_keys (members : List (String × Json)) :
    (sortedMembers members).map Prod.fst = members.map Prod.fst := by
  rw [sorted_members_map, List.map_map]
  rfl

mutual

/-- A value in the order of its keys is the value in another order. -/
theorem reordered_of_sorted (value : Json) (distinct : value.HasDistinctKeys) :
    Reordered value value.sorted := by
  cases value with
  | null => exact .null
  | bool value => exact .bool value
  | number value => exact .number value
  | string value => exact .string value
  | array elements => exact .array (elements_reordered_of_sorted elements distinct)
  | object members =>
      have keys : ((sortedMembers members).map Prod.fst).Nodup := by
        rw [sorted_members_keys]
        exact distinct.1
      exact .object (members_reordered_of_sorted members distinct.2) (sort_members_perm keys).symm

theorem elements_reordered_of_sorted (elements : List Json)
    (distinct : ElementsHaveDistinctKeys elements) :
    ElementsReordered elements (sortedElements elements) := by
  cases elements with
  | nil => exact .nil
  | cons element rest =>
      exact .cons (reordered_of_sorted element distinct.1)
        (elements_reordered_of_sorted rest distinct.2)

theorem members_reordered_of_sorted (members : List (String × Json))
    (distinct : MembersHaveDistinctKeys members) :
    MembersReordered members (sortedMembers members) := by
  cases members with
  | nil => exact .nil
  | cons entry rest =>
      exact .cons (reordered_of_sorted entry.2 distinct.1)
        (members_reordered_of_sorted rest distinct.2)

end

end Json
end GatedResources
