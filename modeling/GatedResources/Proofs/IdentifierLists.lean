import GatedResources.Proofs.EncodedRequests

/-!
# Lists of identifiers

A filter asks for records by a list of their identifiers. Each of them is a value of the statement,
so the database takes a list up to a length only, and refuses a longer one on every table.
-/

namespace GatedResources

namespace Filter

def ofIdentifiers (identifiers : List Int) : Json :=
  .object [(identifiersKey, .array (identifiers.map Json.integer))]

theorem compile_identifiers {filter : Encoded} {identifiers : List Int}
    (read : filter.value? = some (ofIdentifiers identifiers)) (source : String)
    (transforms : Transforms) :
    (compile source transforms filter).value =
      [.oneOf identifierField (identifiers.map Json.integer)] := by
  rw [compile_of_value read]
  rfl

end Filter

namespace Predicate

theorem choice_count {field : String} {values : List Json} (nonempty : values ≠ []) :
    (oneOf field values).valueCount = values.length := by
  cases values with
  | nil => exact absurd rfl nonempty
  | cons value rest => rfl

/-- A choice of few values fits a statement. A choice of none is written with two. -/
theorem choice_fits {field : String} {values : List Json} {besides : Nat}
    (few : max values.length 2 + besides ≤ Sql.greatestValues) :
    FitStatement [oneOf field values] besides := by
  refine ⟨?_, ?_, show 3 ≤ 1000 by decide⟩
  · intro predicate member
    cases List.mem_singleton.mp member
    exact Nat.zero_le _
  · rw [List.map_singleton, List.sum_singleton]
    cases values with
    | nil => exact few
    | cons value rest => exact Nat.le_trans (Nat.add_le_add_right (Nat.le_max_left _ _) _) few

end Predicate

namespace Store

variable {entity : Entity} {identifiers : List Int}

theorem identifiers_within (small : ∀ identifier ∈ identifiers, identifier ≤ Bound.greatest) :
    ∀ predicate ∈ [Predicate.oneOf identifierField (identifiers.map Json.integer)],
      predicate.IsWithin := by
  intro predicate member value carried
  rw [List.mem_singleton.mp member] at carried
  obtain ⟨identifier, inside, same⟩ := List.mem_map.mp carried
  subst same
  exact small identifier inside

theorem identifiers_fit (few : identifiers.length ≤ Sql.greatestValues) :
    Predicate.FitStatement [.oneOf identifierField (identifiers.map Json.integer)] 0 := by
  apply Predicate.choice_fits
  rw [List.length_map]
  exact Nat.max_le.mpr ⟨few, by decide⟩

theorem identifier_within {identifier : Int} (small : identifier ≤ Bound.greatest) :
    ∀ predicate ∈ [Predicate.equals identifierField (.integer identifier)],
      predicate.IsWithin := by
  intro predicate member value carried
  rw [List.mem_singleton.mp member] at carried
  rw [List.mem_singleton.mp carried]
  exact small

theorem identifier_fits (identifier : Int) :
    Predicate.FitStatement [.equals identifierField (.integer identifier)] 0 := by
  refine ⟨?_, show 1 ≤ 32766 by decide, show 3 ≤ 1000 by decide⟩
  intro predicate member
  rw [List.mem_singleton.mp member]
  exact Nat.zero_le _

section Assigned

variable (assigned : entity.key = .assigned)

include assigned

theorem identifier_known : entity.hasColumn identifierField = true := by
  unfold Entity.hasColumn Entity.columnNames
  rw [assigned]
  exact List.contains_iff_mem.mpr List.mem_cons_self

theorem identifier_sound (identifier : Int) :
    ∀ predicate ∈ [Predicate.equals identifierField (.integer identifier)],
      predicate.isSound entity = true := by
  intro predicate member
  rw [List.mem_singleton.mp member]
  exact Bool.and_eq_true_iff.mpr ⟨identifier_known assigned, rfl⟩

/-- A removal by identifier is always done. -/
theorem delete_by_id_sound {identifier : Int} (small : identifier ≤ Bound.greatest)
    (table : Table) :
    (deleteById entity (some table) identifier).outcome =
      .done ((table.records.filter
          (Predicate.allHold entity [.equals identifierField (.integer identifier)])).length,
        some (table.without
          (Predicate.allHold entity [.equals identifierField (.integer identifier)]))) :=
  (delete_where_sound (identifier_sound assigned identifier) (identifier_within small)
    (List.cons_ne_nil _ _)).fitting (identifier_fits identifier)

theorem identifiers_sound (identifiers : List Int) :
    ∀ predicate ∈ [Predicate.oneOf identifierField (identifiers.map Json.integer)],
      predicate.isSound entity = true := by
  intro predicate member
  rw [List.mem_singleton.mp member, Predicate.isSound]
  apply Bool.and_eq_true_iff.mpr
  refine ⟨identifier_known assigned, List.all_eq_true.mpr ?_⟩
  intro value inside
  obtain ⟨identifier, _, same⟩ := List.mem_map.mp inside
  subst same
  rfl

/-- The condition for a list has a value for each identifier, and all can be handed over. -/
theorem identifiers_made (small : ∀ identifier ∈ identifiers, identifier ≤ Bound.greatest)
    (nonempty : identifiers ≠ []) :
    ∃ conditions, Condition.ofPredicates entity
        [.oneOf identifierField (identifiers.map Json.integer)] = .ok conditions ∧
      (∀ condition ∈ conditions, condition.IsStorable) ∧
      (conditions.map Condition.valueCount).sum = identifiers.length := by
  obtain ⟨conditions, made, storable, _⟩ :=
    Condition.of_predicates_sound (identifiers_sound assigned identifiers)
  refine ⟨conditions, made, storable (identifiers_within small), ?_⟩
  rw [Condition.sized_value_count (Condition.of_predicates_sized made), List.map_singleton,
    List.sum_singleton, Predicate.choice_count (by simpa using nonempty), List.length_map]

section Crowded

variable (small : ∀ identifier ∈ identifiers, identifier ≤ Bound.greatest)
  (crowded : Sql.greatestValues < identifiers.length) {filter : Encoded}
  (read : filter.value? = some (Filter.ofIdentifiers identifiers)) (backing : Backing)
  (source : String) (transforms : Transforms)

include small crowded read

theorem find_identifiers_crowded :
    (findMany entity backing
      (Query.compile ⟨some filter, none, none, none⟩ source transforms).value).outcome =
        .failed (.database "too many SQL variables") := by
  have asked : (Query.compile ⟨some filter, none, none, none⟩ source transforms).value =
      wholeQuery source [.oneOf identifierField (identifiers.map Json.integer)] none := by
    rw [wholeQuery, ← Filter.compile_identifiers read source transforms]
    rfl
  obtain ⟨conditions, made, storable, count⟩ :=
    identifiers_made assigned small (List.ne_nil_of_length_pos (Nat.zero_lt_of_lt crowded))
  rw [asked]
  exact find_many_crowded storable made (by rw [count]; exact crowded)

theorem delete_identifiers_crowded :
    (deleteWhere entity backing
      (Query.compilePredicates source transforms (some filter)).value).outcome =
        .failed (.database "too many SQL variables") := by
  have asked : (Query.compilePredicates source transforms (some filter)).value =
      [.oneOf identifierField (identifiers.map Json.integer)] :=
    Filter.compile_identifiers read source transforms
  obtain ⟨conditions, made, storable, count⟩ :=
    identifiers_made assigned small (List.ne_nil_of_length_pos (Nat.zero_lt_of_lt crowded))
  rw [asked]
  exact delete_where_crowded storable (List.cons_ne_nil _ _) made (by rw [count]; exact crowded)

end Crowded

end Assigned

end Store
end GatedResources
