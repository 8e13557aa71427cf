import GatedResources.Proofs.FilterMeaning
import GatedResources.Proofs.ReorderedMembers

/-!
# Texts and structures

A filter or a sort order that is sent as text means what it means when it is sent as a structure,
however the text orders the members of its objects.
-/

namespace GatedResources

theorem Filter.compile_of_value {filter : Encoded} {value : Json}
    (read : filter.value? = some value) (source : String) (transforms : Transforms) :
    Filter.compile source transforms filter =
      Filter.compile source transforms (.structured value) := by
  have same : Filter.members filter = Filter.members (.structured value) := by
    have itself : (Encoded.structured value).value? = some value := rfl
    unfold Filter.members
    rw [read, itself]
    cases value <;> rfl
  rw [Filter.compile, Filter.compile, same]

theorem SortOrder.compile_of_value {sort : Encoded} {value : Json}
    (read : sort.value? = some value) :
    SortOrder.compile sort = SortOrder.compile (.structured value) := by
  have itself : (Encoded.structured value).value? = some value := rfl
  unfold SortOrder.compile
  rw [read, itself]
  cases value with
  | array elements =>
      cases elements with
      | nil => rfl
      | cons first rest => cases first <;> rfl
  | null | bool _ | number _ | string _ | object _ => rfl

namespace Query

theorem compile_order_some (sort : Encoded) :
    (compileOrder (some sort)).value = (SortOrder.compile sort).value := by
  unfold compileOrder
  rw [Traced.value_bind]
  cases (SortOrder.compile sort).value <;> rfl

/-- A filter or a sort order compiles alike, reports included, as a structure and as its text with
members in any order. -/
theorem compile_text_as_structure {value written : Json} (same : Json.Reordered value written)
    (ascending : value.HasAscendingKeys) (whole : value.HasWholeNumbers)
    (shallow : value.nesting ≤ Json.greatestDepth) (source : String) (transforms : Transforms) :
    (∀ sort offset limit,
      compile ⟨some (.text written.compact), sort, offset, limit⟩ source transforms =
        compile ⟨some (.structured value), sort, offset, limit⟩ source transforms) ∧
    (∀ filter offset limit,
      compile ⟨filter, some (.text written.compact), offset, limit⟩ source transforms =
        compile ⟨filter, some (.structured value), offset, limit⟩ source transforms) ∧
    compilePredicates source transforms (some (.text written.compact)) =
      compilePredicates source transforms (some (.structured value)) := by
  have read : (Encoded.text written.compact).value? = some value :=
    Json.parse_reordered same ascending whole shallow
  have predicates : compilePredicates source transforms (some (.text written.compact)) =
      compilePredicates source transforms (some (.structured value)) :=
    Filter.compile_of_value read source transforms
  have order : compileOrder (some (.text written.compact)) =
      compileOrder (some (.structured value)) := by
    rw [compileOrder, compileOrder, SortOrder.compile_of_value read]
  refine ⟨?_, ?_, predicates⟩
  · intro sort offset limit
    rw [compile, compile, predicates]
  · intro filter offset limit
    rw [compile, compile, order]

def bounds : Json :=
  .object [
    ("ids", .array [.object [("high", .integer 18446744073709551615),
      ("low", .integer (-9223372036854775808))]]),
    ("say \"hi\"", .string "one\ntwo")]

def boundsTurned : Json :=
  .object [
    ("say \"hi\"", .string "one\ntwo"),
    ("ids", .array [.object [("low", .integer (-9223372036854775808)),
      ("high", .integer 18446744073709551615)]])]

theorem bounds_reordered : Json.Reordered bounds boundsTurned :=
  .object
    (.cons (.array (.cons (.object (.cons (.number _) (.cons (.number _) .nil))
      (List.Perm.swap _ _ _)) .nil)) (.cons (.string _) .nil))
    (List.Perm.swap _ _ _)

theorem bounds_ascending : bounds.HasAscendingKeys := by
  refine ⟨?_, ⟨⟨⟨?_, trivial, trivial, trivial⟩, trivial⟩, trivial, trivial⟩⟩
  all_goals
    unfold Json.Ascending
    decide

theorem bounds_whole : bounds.HasWholeNumbers := by
  refine ⟨⟨⟨⟨_, rfl, ?_, ?_⟩, ⟨_, rfl, ?_, ?_⟩, trivial⟩, trivial⟩, trivial, trivial⟩
  all_goals decide

theorem bounds_compile_alike :
    Json.Reordered bounds boundsTurned ∧ bounds.HasAscendingKeys ∧ bounds.HasWholeNumbers ∧
    bounds.nesting ≤ Json.greatestDepth ∧
    compile ⟨some (.text boundsTurned.compact), none, none, none⟩ "faqs" Transforms.none =
      compile ⟨some (.structured bounds), none, none, none⟩ "faqs" Transforms.none := by
  have shallow : bounds.nesting ≤ Json.greatestDepth := by decide
  have alike := compile_text_as_structure bounds_reordered bounds_ascending bounds_whole shallow
    "faqs" Transforms.none
  exact ⟨bounds_reordered, bounds_ascending, bounds_whole, shallow, alike.1 none none none⟩

end Query
end GatedResources
