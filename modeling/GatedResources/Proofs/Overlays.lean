import GatedResources.Json.Overlay
import GatedResources.Proofs.Members

/-!
# Trees over trees

What stands at a path of two trees, one laid over the other, is what the upper one has there. Where
it has nothing it is what the lower one has, unless the upper one has a value on the way that is no
object.
-/

namespace GatedResources
namespace Json

def fields : Json -> List (String × Json)
  | .object members => members
  | _ => []

def reach : Json -> List String -> Option Json
  | value, [] => some value
  | value, key :: keys => (value.fields.lookup key).bind fun held => held.reach keys

@[simp] theorem reach_nil (value : Json) : value.reach [] = some value := rfl

theorem reach_cons (value : Json) (key : String) (keys : List String) :
    value.reach (key :: keys) = (value.fields.lookup key).bind fun held => held.reach keys := rfl

theorem reach_append (value : Json) (before after : List String) :
    value.reach (before ++ after) = (value.reach before).bind fun held => held.reach after := by
  induction before generalizing value with
  | nil => rfl
  | cons key keys claim =>
      rw [List.cons_append, reach_cons, reach_cons, Option.bind_assoc]
      congr 1
      funext held
      exact claim held

/-! ## Members that are laid over others -/

theorem overlay_members (lower : Json) (upper : List (String × Json)) :
    lower.overlay (.object upper) = .object (overlayMembers lower.fields upper) := by
  cases lower <;> rfl

theorem fields_scalar {value : Json} (scalar : ∀ members, value ≠ .object members) :
    value.fields = [] := by
  cases value with
  | object members => exact absurd rfl (scalar members)
  | null | bool _ | number _ | string _ | array _ => rfl

theorem overlay_object_or (lower upper : Json) :
    (∃ members, lower.overlay upper = .object members) ∨ lower.overlay upper = upper := by
  cases upper with
  | object members => exact .inl ⟨_, overlay_members lower members⟩
  | null | bool _ | number _ | string _ | array _ => exact .inr rfl

theorem overlay_scalar {upper : Json} (scalar : ∀ members, upper ≠ .object members)
    (lower : Json) : lower.overlay upper = upper := by
  cases upper with
  | object members => exact absurd rfl (scalar members)
  | null | bool _ | number _ | string _ | array _ => rfl

theorem overlay_eq_null {lower upper : Json} : lower.overlay upper = .null ↔ upper = .null := by
  cases upper with
  | object members => simp [overlay_members]
  | null | bool _ | number _ | string _ | array _ => simp [overlay]

theorem lookup_overlay_members {upper : List (String × Json)}
    (distinct : (upper.map Prod.fst).Nodup) (lower : List (String × Json)) (name : String) :
    (overlayMembers lower upper).lookup name =
      match upper.lookup name with
      | some value => some (overlay ((lower.lookup name).getD .null) value)
      | none => lower.lookup name := by
  induction upper generalizing lower with
  | nil => rfl
  | cons entry rest claim =>
      obtain ⟨key, value⟩ := entry
      rw [List.map_cons, List.nodup_cons] at distinct
      rw [overlayMembers, claim distinct.2, lookup_insert_member, lookup_eq]
      by_cases same : name = key
      · subst same
        simp [lookup_eq_none_iff.mpr distinct.1]
      · rw [if_neg same, lookup_cons_other same]

theorem ascending_fields {value : Json} (ascending : value.HasAscendingKeys) :
    Ascending value.fields := by
  cases value with
  | object members => exact ascending.1
  | null | bool _ | number _ | string _ | array _ => exact List.Pairwise.nil

theorem ascending_values {value : Json} (ascending : value.HasAscendingKeys) :
    ∀ entry ∈ value.fields, entry.2.HasAscendingKeys := by
  cases value with
  | object members => exact members_ascending_iff.mp ascending.2
  | null | bool _ | number _ | string _ | array _ => exact fun _ inside => nomatch inside

theorem ascending_lookup {value held : Json} {key : String} (ascending : value.HasAscendingKeys)
    (found : value.fields.lookup key = some held) : held.HasAscendingKeys :=
  ascending_values ascending (key, held) (mem_of_lookup found)

theorem reach_ascending {value held : Json} {path : List String}
    (ascending : value.HasAscendingKeys) (found : value.reach path = some held) :
    held.HasAscendingKeys := by
  induction path generalizing value with
  | nil =>
      cases found
      exact ascending
  | cons key keys claim =>
      obtain ⟨next, taken, later⟩ := Option.bind_eq_some_iff.mp found
      exact claim (ascending_lookup ascending taken) later

/-! ## Trees that are laid over others -/

theorem reach_null (path : List String) : (Json.null.reach path).getD .null = .null := by
  cases path <;> rfl

theorem fields_distinct {value : Json} (ascending : value.HasAscendingKeys) :
    (value.fields.map Prod.fst).Nodup :=
  ascending_distinct (ascending_fields ascending)

theorem lookup_overlay {upper : Json} (ascending : upper.HasAscendingKeys) {key : String}
    {held : Json} (found : upper.fields.lookup key = some held) (lower : Json) :
    (lower.overlay upper).fields.lookup key =
      some (((lower.fields.lookup key).getD .null).overlay held) := by
  cases upper with
  | object members =>
      have distinct : (members.map Prod.fst).Nodup := fields_distinct ascending
      rw [overlay_members, fields, lookup_overlay_members distinct]
      rw [fields] at found
      rw [found]
  | null | bool _ | number _ | string _ | array _ => cases found

/-- What the upper tree has at a path is laid over what the lower one has there. -/
theorem reach_overlay_some {upper value : Json} (ascending : upper.HasAscendingKeys)
    {path : List String} (found : upper.reach path = some value) (lower : Json) :
    (lower.overlay upper).reach path = some (((lower.reach path).getD .null).overlay value) := by
  induction path generalizing lower upper with
  | nil =>
      cases found
      rfl
  | cons key keys claim =>
      obtain ⟨held, taken, later⟩ := Option.bind_eq_some_iff.mp found
      have below : (((lower.fields.lookup key).getD .null).reach keys).getD .null =
          (lower.reach (key :: keys)).getD .null := by
        rw [reach_cons]
        cases lower.fields.lookup key with
        | none => exact reach_null keys
        | some next => rfl
      rw [reach_cons, lookup_overlay ascending taken, Option.bind_some,
        claim (ascending_lookup ascending taken) later, below]

/-- Where the upper tree has nothing, it settles that there is nothing or leaves what the lower one
has. -/
theorem reach_overlay_none {upper : Json} (ascending : upper.HasAscendingKeys)
    {path : List String} (absent : upper.reach path = none) (lower : Json) :
    (lower.overlay upper).reach path =
      if settles path upper then none else lower.reach path := by
  induction path generalizing lower upper with
  | nil => cases absent
  | cons key keys claim =>
      cases upper with
      | null | bool _ | number _ | string _ | array _ => rfl
      | object members =>
          have distinct : (members.map Prod.fst).Nodup := fields_distinct ascending
          rw [reach_cons, overlay_members, fields, lookup_overlay_members distinct, settles,
            lookup_eq]
          rw [reach_cons, fields] at absent
          cases taken : members.lookup key with
          | none => rfl
          | some held =>
              rw [taken, Option.bind_some] at absent
              have below := claim (ascending_lookup ascending taken) absent
                ((lower.fields.lookup key).getD .null)
              have nonempty : keys ≠ [] := by
                rintro rfl
                cases absent
              dsimp only
              rw [Option.bind_some, below, reach_cons]
              cases lower.fields.lookup key with
              | some next => rfl
              | none =>
                  obtain ⟨name, others, rfl⟩ := List.exists_cons_of_ne_nil nonempty
                  rfl

/-- An array stands where one of the trees has one. -/
theorem reach_overlay_array {lower upper : Json} (ascending : upper.HasAscendingKeys)
    {path : List String} {elements : List Json}
    (found : (lower.overlay upper).reach path = some (.array elements)) :
    upper.reach path = some (.array elements) ∨ lower.reach path = some (.array elements) := by
  cases above : upper.reach path with
  | none =>
      rw [reach_overlay_none ascending above] at found
      split at found
      · cases found
      · exact .inr found
  | some value =>
      rw [reach_overlay_some ascending above] at found
      rcases overlay_object_or ((lower.reach path).getD .null) value with ⟨members, same⟩ | same
      · rw [same] at found
        cases found
      · rw [same] at found
        exact .inl found

mutual

theorem overlay_has_ascending_keys {lower upper : Json} (below : lower.HasAscendingKeys)
    (above : upper.HasAscendingKeys) : (lower.overlay upper).HasAscendingKeys := by
  cases upper with
  | null | bool _ | number _ | string _ | array _ => exact above
  | object members =>
      rw [overlay_members]
      exact overlay_members_ascending (ascending_fields below) (ascending_values below) above.2

theorem overlay_members_ascending {lower upper : List (String × Json)}
    (below : Ascending lower) (values : ∀ entry ∈ lower, entry.2.HasAscendingKeys)
    (above : MembersHaveAscendingKeys upper) :
    (object (overlayMembers lower upper)).HasAscendingKeys := by
  cases upper with
  | nil => exact ⟨below, members_ascending_iff.mpr values⟩
  | cons entry rest =>
      obtain ⟨key, value⟩ := entry
      have whole : (object lower).HasAscendingKeys := ⟨below, members_ascending_iff.mpr values⟩
      have held : ((lookup key lower).getD .null).HasAscendingKeys := by
        rw [lookup_eq]
        cases found : lower.lookup key with
        | none => exact trivial
        | some held => exact ascending_lookup whole found
      apply overlay_members_ascending (insert_member_ascending below key _) ?_ above.2
      intro entry inside
      rcases mem_insert_member inside with new | old
      · rw [new]
        exact overlay_has_ascending_keys held above.1
      · exact values entry old

end

theorem insert_member_last {members : List (String × Json)} {key : String}
    (above : ∀ entry ∈ members, entry.1 < key) (value : Json) :
    insertMember key value members = members ++ [(key, value)] := by
  induction members with
  | nil => rfl
  | cons entry rest claim =>
      obtain ⟨name, held⟩ := entry
      have later : name < key := above (name, held) List.mem_cons_self
      rw [insertMember, if_neg (String.lt_asymm later), if_neg (String.ne_of_lt later).symm,
        claim fun entry member => above entry (List.mem_cons_of_mem _ member)]
      rfl

mutual

/-- A value that is laid over what is no object stands for itself. -/
theorem overlay_on_scalar {lower upper : Json} (scalar : lower.fields = [])
    (ascending : upper.HasAscendingKeys) : lower.overlay upper = upper := by
  cases upper with
  | null | bool _ | number _ | string _ | array _ => rfl
  | object members =>
      have placed : overlayMembers [] members = [] ++ members :=
        overlay_members_after ascending.1 ascending.2
      rw [overlay_members, scalar, placed, List.nil_append]

theorem overlay_members_after {lower upper : List (String × Json)}
    (ascending : Ascending (lower ++ upper)) (values : MembersHaveAscendingKeys upper) :
    overlayMembers lower upper = lower ++ upper := by
  cases upper with
  | nil => rw [overlayMembers, List.append_nil]
  | cons entry rest =>
      obtain ⟨key, value⟩ := entry
      have above : ∀ entry ∈ lower, entry.1 < key := fun entry member =>
        (List.pairwise_append.mp ascending).2.2 entry member (key, value) List.mem_cons_self
      have fresh : lower.lookup key = none := by
        apply lookup_eq_none_iff.mpr
        intro inside
        obtain ⟨entry, member, same⟩ := List.mem_map.mp inside
        exact absurd same (String.ne_of_lt (above entry member))
      have itself : Json.null.overlay value = value := overlay_on_scalar rfl values.1
      have joined : (lower ++ [(key, value)]) ++ rest = lower ++ (key, value) :: rest := by simp
      rw [overlayMembers, lookup_eq, fresh, Option.getD_none, itself, insert_member_last above,
        overlay_members_after (joined ▸ ascending) values.2, joined]

end

/-! ## Members that are not null -/

def Filled (members : List (String × Json)) : Prop :=
  ∀ entry ∈ members, entry.2 ≠ .null

theorem sorted_eq_null {value : Json} : value.sorted = .null ↔ value = .null := by
  cases value <;> simp [sorted]

theorem sorted_filled {value : Json} (filled : Filled value.fields) :
    Filled value.sorted.fields := by
  cases value with
  | object members =>
      rw [sorted]
      intro entry inside
      have within := mem_sort_members inside
      rw [sorted_members_map] at within
      obtain ⟨held, member, rfl⟩ := List.mem_map.mp within
      exact (not_congr sorted_eq_null).mpr (filled held member)
  | null | bool _ | number _ | string _ | array _ => exact filled

theorem overlay_members_filled {lower upper : List (String × Json)} (below : Filled lower)
    (above : Filled upper) : Filled (overlayMembers lower upper) := by
  induction upper generalizing lower with
  | nil => exact below
  | cons entry rest claim =>
      obtain ⟨key, value⟩ := entry
      apply claim ?_ fun entry member => above entry (List.mem_cons_of_mem _ member)
      intro entry inside
      rcases mem_insert_member inside with new | old
      · rw [new, Ne, overlay_eq_null]
        exact above (key, value) List.mem_cons_self
      · exact below entry old

theorem overlay_filled {lower upper : Json} (below : Filled lower.fields)
    (above : Filled upper.fields) : Filled (lower.overlay upper).fields := by
  cases upper with
  | object members =>
      rw [overlay_members]
      exact overlay_members_filled below above
  | null | bool _ | number _ | string _ | array _ => exact above

/-! ## Trees of one path -/

theorem nest_cons (key : String) (keys : List String) (value : Json) :
    nest (key :: keys) value = .object [(key, nest keys value)] := rfl

theorem nest_filled {value : Json} (present : value ≠ .null) (filled : Filled value.fields)
    (keys : List String) : nest keys value ≠ .null ∧ Filled (nest keys value).fields := by
  induction keys with
  | nil => exact ⟨present, filled⟩
  | cons key keys claim =>
      rw [nest_cons]
      exact ⟨nofun, List.forall_mem_singleton.mpr claim.1⟩

theorem reach_nest (before after : List String) (value : Json) :
    (nest (before ++ after) value).reach before = some (nest after value) := by
  induction before with
  | nil => rfl
  | cons key keys claim => simp [nest, reach_cons, fields, claim]

theorem nest_apart {path keys : List String} (value : Json) (further : ¬ path <+: keys)
    (shorter : ¬ keys <+: path) :
    (nest keys value).reach path = none ∧ settles path (nest keys value) = false := by
  induction keys generalizing path with
  | nil => exact absurd List.nil_prefix shorter
  | cons key keys claim =>
      cases path with
      | nil => exact absurd List.nil_prefix further
      | cons name names =>
          by_cases same : name = key
          · subst same
            rw [List.cons_prefix_cons] at further shorter
            have below := claim (fun inside => further ⟨rfl, inside⟩)
              fun inside => shorter ⟨rfl, inside⟩
            simpa [nest, reach_cons, fields, settles, lookup] using below
          · simp [nest, reach_cons, fields, settles, lookup, lookup_cons_other same, Ne.symm same]

theorem nest_has_ascending_keys {value : Json} (ascending : value.HasAscendingKeys)
    (keys : List String) : (nest keys value).HasAscendingKeys := by
  induction keys with
  | nil => exact ascending
  | cons key keys claim => exact ⟨List.pairwise_singleton _ _, claim, trivial⟩

/-- A tree that has only objects on the way to a path leaves open what stands there, unless it has
something there itself. -/
theorem settles_of_objects {value : Json} {path : List String} (absent : value.reach path = none)
    (objects : ∀ before, before <+: path → before ≠ path → ∀ held, value.reach before = some held →
      ∃ members, held = .object members) : settles path value = false := by
  induction path generalizing value with
  | nil => cases absent
  | cons key keys claim =>
      obtain ⟨members, rfl⟩ := objects [] List.nil_prefix (List.cons_ne_nil key keys).symm value rfl
      rw [settles, lookup_eq]
      cases taken : members.lookup key with
      | none => rfl
      | some held =>
          have down : ∀ before, (object members).reach (key :: before) = held.reach before := by
            intro before
            rw [reach_cons, fields, taken, Option.bind_some]
          apply claim ((down keys).symm.trans absent)
          intro before inside shorter next found
          exact objects (key :: before) (List.cons_prefix_cons.mpr ⟨rfl, inside⟩)
            (fun same => shorter (List.cons.inj same).2) next ((down before).trans found)

/-! ## Trees with the same keys -/

mutual

/-- The upper value is no object, or both are objects with the same keys in the same places. -/
inductive Aligned : Json -> Json -> Prop
  | replaced {lower upper : Json} (scalar : ∀ members, upper ≠ .object members) :
      Aligned lower upper
  | object {below above : List (String × Json)} (inside : MembersAligned below above) :
      Aligned (.object below) (.object above)

inductive MembersAligned : List (String × Json) -> List (String × Json) -> Prop
  | nil : MembersAligned [] []
  | cons {key : String} {lower upper : Json} {below above : List (String × Json)}
      (first : Aligned lower upper) (later : MembersAligned below above) :
      MembersAligned ((key, lower) :: below) ((key, upper) :: above)

end

theorem insert_member_own {front rest : List (String × Json)} {key : String}
    (above : ∀ entry ∈ front, entry.1 < key) (held value : Json) :
    insertMember key value (front ++ (key, held) :: rest) = front ++ (key, value) :: rest := by
  induction front with
  | nil => rw [List.nil_append, insertMember, if_neg (String.lt_irrefl key), if_pos rfl]; rfl
  | cons entry others claim =>
      obtain ⟨first, later⟩ := List.forall_mem_cons.mp above
      rw [List.cons_append, insertMember, if_neg (String.lt_asymm first),
        if_neg (String.ne_of_lt first).symm, claim later]
      rfl

theorem ascending_of_keys {members others : List (String × Json)}
    (keys : members.map Prod.fst = others.map Prod.fst) (ascending : Ascending members) :
    Ascending others := by
  have ordered : (members.map Prod.fst).Pairwise (· < ·) := List.pairwise_map.mpr ascending
  rw [keys] at ordered
  exact List.pairwise_map.mp ordered

mutual

/-- A tree that is laid over one with the same keys stands for itself. -/
theorem overlay_aligned {lower upper : Json} (aligned : Aligned lower upper)
    (ascending : lower.HasAscendingKeys) : lower.overlay upper = upper := by
  cases aligned with
  | replaced scalar => exact overlay_scalar scalar lower
  | @object below above inside =>
      have placed := overlay_members_aligned [] inside ascending.1 ascending.2
      rw [overlay_members, fields]
      exact congrArg object placed

theorem overlay_members_aligned {below above : List (String × Json)}
    (front : List (String × Json)) (aligned : MembersAligned below above)
    (ascending : Ascending (front ++ below)) (values : MembersHaveAscendingKeys below) :
    overlayMembers (front ++ below) above = front ++ above := by
  cases aligned with
  | nil => rfl
  | @cons key lower upper below above first later =>
      have inside : (key, lower) ∈ front ++ (key, lower) :: below := by simp
      have found := lookup_of_mem ascending inside
      have earlier : ∀ entry ∈ front, entry.1 < key := fun entry member =>
        (List.pairwise_append.mp ascending).2.2 entry member _ List.mem_cons_self
      have next : Ascending (front ++ [(key, upper)] ++ below) :=
        ascending_of_keys (by simp) ascending
      have placed := overlay_members_aligned (front ++ [(key, upper)]) later next values.2
      rw [overlayMembers, lookup_eq, found, Option.getD_some, overlay_aligned first values.1,
        insert_member_own earlier]
      simpa using placed

end

theorem insert_aligned {key : String} {lower upper : Json} {below above : List (String × Json)}
    (first : Aligned lower upper) (aligned : MembersAligned below above) :
    MembersAligned (insertMember key lower below) (insertMember key upper above) := by
  induction below generalizing above with
  | nil =>
      cases aligned
      exact .cons first .nil
  | cons entry rest claim =>
      cases aligned with
      | @cons name held upon below above own later =>
          rw [insertMember, insertMember]
          split
          · exact .cons first (.cons own later)
          · split
            · exact .cons first later
            · exact .cons own (claim later)

theorem sort_members_aligned {below above : List (String × Json)}
    (aligned : MembersAligned below above) :
    MembersAligned (sortMembers below) (sortMembers above) := by
  have inserted : ∀ (below above held upon : List (String × Json)), MembersAligned below above →
      MembersAligned held upon → MembersAligned
        (below.foldl (fun sorted entry => insertMember entry.1 entry.2 sorted) held)
        (above.foldl (fun sorted entry => insertMember entry.1 entry.2 sorted) upon) := by
    intro below
    induction below with
    | nil =>
        intro above held upon aligned placed
        cases aligned
        exact placed
    | cons entry rest claim =>
        intro above held upon aligned placed
        cases aligned with
        | @cons key lower upper below above first later =>
            exact claim above _ _ later (insert_aligned first placed)
  exact inserted below above [] [] aligned .nil

mutual

/-- Sorting brings the same keys to the same places. -/
theorem aligned_sorted {lower upper : Json} (aligned : Aligned lower upper) :
    Aligned lower.sorted upper.sorted := by
  cases aligned with
  | replaced scalar =>
      apply Aligned.replaced
      cases upper with
      | object members => exact absurd rfl (scalar members)
      | null | bool _ | number _ | string _ | array _ => exact nofun
  | object inside => exact .object (sort_members_aligned (members_aligned_sorted inside))

theorem members_aligned_sorted {below above : List (String × Json)}
    (aligned : MembersAligned below above) :
    MembersAligned (sortedMembers below) (sortedMembers above) := by
  cases aligned with
  | nil => exact .nil
  | cons first later => exact .cons (aligned_sorted first) (members_aligned_sorted later)

end

end Json
end GatedResources
