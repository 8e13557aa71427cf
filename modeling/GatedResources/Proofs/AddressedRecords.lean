import GatedResources.Proofs.IdentifierLists
import GatedResources.Proofs.InsertedRecords
import GatedResources.Proofs.UpdateLaws

/-!
# Records addressed by their identifiers

A record is addressed by its identifier alone, or by a filter with a list of identifiers. Either way
the store means the same records: a list shows those that can be found one by one, and removing
them one by one, in any order, leaves what a removal of all of them leaves.
-/

namespace GatedResources

/-! ## Lists of identifiers -/

def Record.isAmong (identifiers : List Int) (record : Record) : Bool :=
  identifiers.any fun identifier => record.identifier? = some identifier

namespace Record

variable {identifiers : List Int} {record : Record}

theorem is_among_iff :
    record.isAmong identifiers = true ↔
      ∃ identifier ∈ identifiers, record.identifier? = some identifier := by
  simp [isAmong]

theorem is_among_reordered {order : List Int} (reordered : order.Perm identifiers) :
    isAmong order = isAmong identifiers := by
  funext record
  rw [Bool.eq_iff_iff, is_among_iff, is_among_iff]
  simp only [reordered.mem_iff]

end Record

namespace Store

variable {entity : Entity} {table : Table} {identifiers : List Int}

section Predicates

variable (assigned : entity.key = .assigned)

include assigned

theorem identifiers_hold (identified : table.IsIdentified) {record : Record}
    (member : record ∈ table.records) (identifiers : List Int) :
    Predicate.allHold entity [.oneOf identifierField (identifiers.map Json.integer)] record =
      record.isAmong identifiers := by
  obtain ⟨held, own⟩ := identified record member
  have each : (fun identifier => record.equalsValue entity identifierField (.integer identifier)) =
      fun identifier => decide (record.identifier? = some identifier) := by
    funext identifier
    exact equals_identifier assigned own identifier
  rw [Predicate.allHold, List.all_cons, List.all_nil, Bool.and_true, Predicate.holds, List.any_map]
  exact congrArg identifiers.any each

end Predicates

section Lists

variable (assigned : entity.key = .assigned) (identified : table.IsIdentified)
  (small : ∀ identifier ∈ identifiers, identifier ≤ Bound.greatest)
  (few : identifiers.length ≤ Sql.greatestValues) {filter : Encoded}
  (read : filter.value? = some (Filter.ofIdentifiers identifiers)) (source : String)
  (transforms : Transforms)

include assigned identified small few read

/-- A list with a filter for identifiers has the records with these, in the order of the table. -/
theorem find_identifiers :
    (findMany entity (some table)
      (Query.compile ⟨some filter, none, none, none⟩ source transforms).value).outcome =
        .done (table.records.filter (Record.isAmong identifiers)) := by
  have asked : (Query.compile ⟨some filter, none, none, none⟩ source transforms).value =
      wholeQuery source [.oneOf identifierField (identifiers.map Json.integer)] none := by
    rw [wholeQuery, ← Filter.compile_identifiers read source transforms]
    rfl
  obtain ⟨records, found, _, same⟩ :=
    find_many_sound (identifiers_sound assigned identifiers) (identifiers_within small) source none
  rw [asked, found.fitting (identifiers_fit few), same rfl assigned]
  apply congrArg Outcome.done
  apply List.filter_congr
  intro record member
  exact identifiers_hold assigned identified member identifiers

theorem delete_identifiers :
    (deleteWhere entity (some table)
      (Query.compilePredicates source transforms (some filter)).value).outcome =
        .done ((table.records.filter (Record.isAmong identifiers)).length,
          some (table.without (Record.isAmong identifiers))) := by
  have asked : (Query.compilePredicates source transforms (some filter)).value =
      [.oneOf identifierField (identifiers.map Json.integer)] :=
    Filter.compile_identifiers read source transforms
  have same : ∀ record ∈ table.records, Predicate.allHold entity
      [.oneOf identifierField (identifiers.map Json.integer)] record =
        record.isAmong identifiers :=
    fun record member => identifiers_hold assigned identified member identifiers
  rw [asked, (delete_where_sound (identifiers_sound assigned identifiers)
    (identifiers_within small) (List.cons_ne_nil _ _)).fitting (identifiers_fit few),
    List.filter_congr same, Table.without_congr same]

end Lists

/-! ## Single identifiers -/

theorem delete_by_id_identified (assigned : entity.key = .assigned)
    (identified : table.IsIdentified) {identifier : Int} (small : identifier ≤ Bound.greatest) :
    (deleteById entity (some table) identifier).outcome =
      .done ((table.records.filter fun record =>
          decide (record.identifier? = some identifier)).length,
        some (table.without fun record => decide (record.identifier? = some identifier))) := by
  have same : ∀ record ∈ table.records,
      Predicate.allHold entity [.equals identifierField (.integer identifier)] record =
        decide (record.identifier? = some identifier) :=
    fun record member => identifier_holds assigned identified member identifier
  rw [delete_by_id_sound assigned small, List.filter_congr same, Table.without_congr same]

end Store

namespace Table

variable {table : Table}

theorem IsIdentified.without (identified : table.IsIdentified) (holds : Record -> Bool) :
    (table.without holds).IsIdentified :=
  fun record member => identified record (List.mem_filter.mp member).1

/-- The records that meet one of two conditions, counted one condition after the other. -/
theorem length_filter_either (records : List Record) (first second : Record -> Bool) :
    (records.filter fun record => first record || second record).length =
      (records.filter first).length +
        ((records.filter fun record => !first record).filter second).length := by
  rw [List.length_eq_length_filter_add first, List.filter_filter, List.filter_filter,
    List.filter_filter]
  congr 2
  · apply List.filter_congr
    intro record _
    cases first record <;> rfl
  · apply List.filter_congr
    intro record _
    cases first record <;> simp

theorem Numbered.nodup (numbered : table.Numbered) : table.records.Nodup := by
  apply List.Pairwise.imp_of_mem _ numbered.ascending
  intro first second member _ ordered same
  obtain ⟨identifier, own, _⟩ := numbered.bounded first member
  exact Int.lt_irrefl _ (ordered identifier identifier own (same ▸ own))

theorem filter_absent {records : List Record} {identifier : Int}
    (absent : ∀ record ∈ records, record.identifier? ≠ some identifier) :
    (records.filter fun held => decide (held.identifier? = some identifier)) = [] :=
  List.filter_eq_nil_iff.mpr fun record member own => absent record member (of_decide_eq_true own)

/-- Only the record that is found by an identifier has it. -/
theorem Numbered.filter_own (numbered : table.Numbered) {record : Record} {identifier : Int}
    (member : record ∈ table.records) (named : record.identifier? = some identifier) :
    (table.records.filter fun held => decide (held.identifier? = some identifier)) = [record] := by
  obtain ⟨front, back, split⟩ := List.append_of_mem member
  have others := numbered.other_identifiers split named
  have before := filter_absent fun other inside => others other (List.mem_append_left _ inside)
  have behind := filter_absent fun other inside => others other (List.mem_append_right _ inside)
  rw [split, List.filter_append, List.filter_cons, if_pos (decide_eq_true named), before, behind,
    List.nil_append]

end Table

namespace StoreCall

variable {entity : Entity} {table : Table}

theorem delete_by_id_step (assigned : entity.key = .assigned) (identified : table.IsIdentified)
    {identifier : Int} (small : identifier ≤ Bound.greatest) :
    ((StoreCall.deleteById identifier).steps entity).run (some table) =
      (.done (.affected (table.records.filter fun record =>
          decide (record.identifier? = some identifier)).length),
        some (table.without fun record => decide (record.identifier? = some identifier))) := by
  rw [steps, Autocommit.run_map, Autocommit.delete_by_id_whole,
    Store.delete_by_id_identified assigned identified small]
  rfl

/-- Removals one after the other take away the records with their identifiers. -/
theorem run_deletions (assigned : entity.key = .assigned) (identified : table.IsIdentified)
    {identifiers : List Int} (small : ∀ identifier ∈ identifiers, identifier ≤ Bound.greatest) :
    ∃ counts : List Nat,
      runAll entity (some table) (identifiers.map StoreCall.deleteById) =
        (counts.map fun count => .done (.affected count),
          some (table.without (Record.isAmong identifiers))) ∧
      counts.sum = (table.records.filter (Record.isAmong identifiers)).length := by
  induction identifiers generalizing table with
  | nil =>
      have nothing : Record.isAmong [] = fun _ => false := rfl
      rw [nothing, Table.without_false, List.filter_false]
      exact ⟨[], rfl, rfl⟩
  | cons identifier rest claim =>
      let own := fun record : Record => decide (record.identifier? = some identifier)
      obtain ⟨counts, ended, total⟩ := claim (identified.without own)
        fun other member => small other (List.mem_cons_of_mem _ member)
      have step := delete_by_id_step assigned identified (small identifier List.mem_cons_self)
      have either : Record.isAmong (identifier :: rest) =
          fun record => own record || record.isAmong rest := rfl
      refine ⟨(table.records.filter own).length :: counts, ?_, ?_⟩
      · rw [List.map_cons, run_cons, step, ended, Table.without_without, either]
        rfl
      · rw [List.sum_cons, total, either, Table.length_filter_either]
        rfl

end StoreCall

namespace Store

variable {entity : Entity} {table : Table}

theorem found_iff (assigned : entity.key = .assigned) (numbered : table.Numbered)
    {identifier : Int} {record : Record} :
    (findById entity (some table) identifier).outcome = .done (some record) ↔
      record ∈ table.records ∧ record.identifier? = some identifier := by
  rw [find_by_id_identified assigned numbered.identified]
  constructor
  · intro found
    exact Table.named_of_find (Outcome.done.inj found)
  · rintro ⟨member, named⟩
    rw [numbered.find_own member named]

/-- A record with an identifier is found, changed and removed, or there is none for all three. -/
theorem addressed_once (assigned : entity.key = .assigned)
    (numbered : table.Numbered) {identifier : Int} (small : identifier ≤ Bound.greatest)
    {patch : List (String × Json)} (accepted : entity.accepts patch = true) :
    (∃ record changed left after,
      (findById entity (some table) identifier).outcome = .done (some record) ∧
      (update entity (some table) identifier patch).outcome = .done (some changed, some left) ∧
      (deleteById entity (some table) identifier).outcome = .done (1, some after)) ∨
    ((findById entity (some table) identifier).outcome = .done none ∧
      (update entity (some table) identifier patch).outcome = .done (none, some table) ∧
      (deleteById entity (some table) identifier).outcome = .done (0, some table)) := by
  rw [find_by_id_identified assigned numbered.identified,
    update_accepted assigned numbered.identified accepted,
    delete_by_id_identified assigned numbered.identified small]
  cases found : table.records.find? fun record =>
      decide (record.identifier? = some identifier) with
  | some record =>
      obtain ⟨member, named⟩ := Table.named_of_find found
      rw [numbered.filter_own member named]
      exact .inl ⟨_, _, _, _, rfl, rfl, rfl⟩
  | none =>
      have absent := Table.absent_of_find found
      have nothing := Table.filter_absent absent
      rw [nothing, Table.without_none nothing, Table.patched_absent absent]
      exact .inr ⟨rfl, rfl, rfl⟩

/-- A list with a filter for identifiers has the records that are found by them, each once and in
the order of their identifiers. A removal with this filter leaves what single removals leave, in
whatever order they come, and counts what they count. Both go for as many identifiers as a statement
takes values; with more of them the filter is refused, and single removals are not. A single
identifier addresses a record for a search, a change and a removal, or for none of them. -/
theorem addressed_alike {entity : Entity}
    (assigned : entity.key = .assigned) {table : Table} (reached : table.Reached entity) :
    (∀ identifiers : List Int, (∀ identifier ∈ identifiers, identifier ≤ Bound.greatest) →
      ∀ filter : Encoded, filter.value? = some (Filter.ofIdentifiers identifiers) →
      ∀ source transforms,
      let listing := (findMany entity (some table)
        (Query.compile ⟨some filter, none, none, none⟩ source transforms).value).outcome
      let deletion := (deleteWhere entity (some table)
        (Query.compilePredicates source transforms (some filter)).value).outcome
      (∃ left : Table, ∃ total : Nat,
        (∀ order : List Int, order.Perm identifiers → ∃ counts : List Nat,
          StoreCall.runAll entity (some table) (order.map StoreCall.deleteById) =
            (counts.map fun count => .done (.affected count), some left) ∧
          counts.sum = total) ∧
        (identifiers.length ≤ Sql.greatestValues → deletion = .done (total, some left))) ∧
      (identifiers.length ≤ Sql.greatestValues → ∃ listed, listing = .done listed ∧
        (∀ record, record ∈ listed ↔ ∃ identifier ∈ identifiers,
          (findById entity (some table) identifier).outcome = .done (some record)) ∧
        listed.Nodup ∧
        listed.Pairwise fun first second => ∀ lower upper,
          first.identifier? = some lower → second.identifier? = some upper → lower < upper) ∧
      (Sql.greatestValues < identifiers.length →
        listing = .failed (.database "too many SQL variables") ∧
        deletion = .failed (.database "too many SQL variables"))) ∧
    ∀ identifier : Int, identifier ≤ Bound.greatest →
      ∀ patch, entity.accepts patch = true →
      (∃ record changed left after,
        (findById entity (some table) identifier).outcome = .done (some record) ∧
        (update entity (some table) identifier patch).outcome = .done (some changed, some left) ∧
        (deleteById entity (some table) identifier).outcome = .done (1, some after)) ∨
      ((findById entity (some table) identifier).outcome = .done none ∧
        (update entity (some table) identifier patch).outcome = .done (none, some table) ∧
        (deleteById entity (some table) identifier).outcome = .done (0, some table)) := by
  have numbered := reached.numbered assigned
  constructor
  · intro identifiers small filter read source transforms listing deletion
    refine ⟨⟨_, _, ?_, fun few =>
      delete_identifiers assigned numbered.identified small few read source transforms⟩, ?_, ?_⟩
    · intro order reordered
      rw [← Record.is_among_reordered reordered]
      exact StoreCall.run_deletions assigned numbered.identified
        fun identifier inside => small identifier (reordered.mem_iff.mp inside)
    · intro few
      refine ⟨_, find_identifiers assigned numbered.identified small few read source transforms, ?_,
        numbered.nodup.sublist List.filter_sublist,
        numbered.ascending.sublist List.filter_sublist⟩
      intro record
      simp only [List.mem_filter, Record.is_among_iff, found_iff assigned numbered]
      constructor
      · rintro ⟨member, identifier, inside, named⟩
        exact ⟨identifier, inside, member, named⟩
      · rintro ⟨identifier, inside, member, named⟩
        exact ⟨member, identifier, inside, named⟩
    · intro crowded
      exact ⟨find_identifiers_crowded assigned small crowded read _ source transforms,
        delete_identifiers_crowded assigned small crowded read _ source transforms⟩
  · intro identifier small patch accepted
    exact addressed_once assigned numbered small accepted

/-- Two of three items are named by a list with a repetition and an unknown identifier. They are
listed, and gone after a removal of all or of one after the other. The third can be changed. -/
theorem items_addressed :
    let item := fun (number : Int) (title : String) =>
      ([("id", .integer number), ("title", .text title), ("qty", .integer 7),
        ("active", .flag true), ("note", .null)] : Record)
    let table : Table := ⟨[item 1 "a", item 2 "b", item 3 "c"], 4⟩
    let filter := Encoded.text "\x7b\"ids\": [3, 1, 3, 8]\x7d"
    let query := Query.compile ⟨some filter, none, none, none⟩ "items" .none
    let removal := Query.compilePredicates "items" .none (some filter)
    let patch : List (String × Json) := [("title", .string "d")]
    table.Reached Entity.items ∧
      (∀ identifier ∈ [3, 1, 3, 8], identifier ≤ (Bound.greatest : Int)) ∧
      filter.value? = some (Filter.ofIdentifiers [3, 1, 3, 8]) ∧
      Entity.items.accepts patch = true ∧
      (∃ listed, (findMany Entity.items (some table) query.value).outcome = .done listed ∧
        item 1 "a" ∈ listed ∧ item 2 "b" ∉ listed) ∧
      (deleteWhere Entity.items (some table) removal.value).outcome =
        .done (2, some ⟨[item 2 "b"], 4⟩) ∧
      (∃ counts : List Nat, StoreCall.runAll Entity.items (some table)
          (([8, 3, 1, 3] : List Int).map StoreCall.deleteById) =
            (counts.map fun count => .done (.affected count), some ⟨[item 2 "b"], 4⟩) ∧
        counts.sum = 2) ∧
      (∃ changed left,
        (update Entity.items (some table) 2 patch).outcome = .done (some changed, some left)) ∧
      (update Entity.items (some table) 8 patch).outcome = .done (none, some table) := by
  intro item table filter query removal patch
  have reached : table.Reached Entity.items := by
    have first : (Store.insert Entity.items (some Table.empty) [("title", .string "a")]).outcome =
        .done (item 1 "a", some ⟨[item 1 "a"], 2⟩) := by
      decide +kernel
    have second : (Store.insert Entity.items (some ⟨[item 1 "a"], 2⟩)
        [("title", .string "b")]).outcome =
          .done (item 2 "b", some ⟨[item 1 "a", item 2 "b"], 3⟩) := by
      decide +kernel
    have third : (Store.insert Entity.items (some ⟨[item 1 "a", item 2 "b"], 3⟩)
        [("title", .string "c")]).outcome = .done (item 3 "c", some table) := by
      decide +kernel
    exact .insert (.insert (.insert .empty first) second) third
  have small : ∀ identifier ∈ [3, 1, 3, 8], identifier ≤ (Bound.greatest : Int) := by
    decide +kernel
  have read : filter.value? = some (Filter.ofIdentifiers [3, 1, 3, 8]) := by decide +kernel
  have accepted : Entity.items.accepts patch = true := by decide +kernel
  have removed : (deleteWhere Entity.items (some table) removal.value).outcome =
      .done (2, some ⟨[item 2 "b"], 4⟩) := by
    decide +kernel
  obtain ⟨lists, single⟩ := addressed_alike rfl reached
  obtain ⟨⟨left, total, ordered, gone⟩, listing, _⟩ :=
    lists [3, 1, 3, 8] small filter read "items" .none
  obtain ⟨listed, found, members, _⟩ := listing (by decide)
  cases removed.symm.trans (gone (by decide))
  refine ⟨reached, small, read, accepted, ⟨listed, found, ?_, ?_⟩, removed,
    ordered [8, 3, 1, 3] (by decide), ?_, ?_⟩
  · exact (members _).mpr ⟨1, by decide, by decide +kernel⟩
  · intro member
    obtain ⟨identifier, inside, own⟩ := (members _).mp member
    have other : ∀ identifier ∈ [3, 1, 3, 8],
        (findById Entity.items (some table) identifier).outcome ≠ .done (some (item 2 "b")) := by
      decide +kernel
    exact other identifier inside own
  · have present : (findById Entity.items (some table) 2).outcome = .done (some (item 2 "b")) := by
      decide +kernel
    obtain ⟨_, changed, left, _, _, updated, _⟩ | ⟨absent, _⟩ :=
      single 2 (by decide +kernel) patch accepted
    · exact ⟨changed, left, updated⟩
    · cases present.symm.trans absent
  · have absent : (findById Entity.items (some table) 8).outcome = .done none := by
      decide +kernel
    obtain ⟨_, _, _, _, present, _⟩ | ⟨_, unchanged, _⟩ :=
      single 8 (by decide +kernel) patch accepted
    · cases absent.symm.trans present
    · exact unchanged

/-- A list of one identifier after another, longer than a statement takes values, is refused, while
the question that it names can be removed again and again. -/
theorem crowded_identifiers_refused :
    let identifiers : List Int := List.replicate 32767 1
    let filter := Encoded.structured (Filter.ofIdentifiers identifiers)
    let table : Table := ⟨[[("id", .integer 1), ("question", .text "a"), ("answer", .text ""),
      ("status", .text "draft")]], 2⟩
    table.Reached Entity.faqs ∧
    (findMany Entity.faqs (some table)
      (Query.compile ⟨some filter, none, none, none⟩ "faqs" .none).value).outcome =
        .failed (.database "too many SQL variables") ∧
    (deleteWhere Entity.faqs (some table)
      (Query.compilePredicates "faqs" .none (some filter)).value).outcome =
        .failed (.database "too many SQL variables") ∧
    ∃ counts : List Nat,
      StoreCall.runAll Entity.faqs (some table) (identifiers.map StoreCall.deleteById) =
        (counts.map fun count => .done (.affected count), some ⟨[], 2⟩) := by
  intro identifiers filter table
  have reached : table.Reached Entity.faqs := by
    have inserted : (Store.insert Entity.faqs (some Table.empty)
        [("question", .string "a")]).outcome =
          .done ([("id", .integer 1), ("question", .text "a"), ("answer", .text ""),
            ("status", .text "draft")], some table) := by
      decide +kernel
    exact .insert .empty inserted
  have small : ∀ identifier ∈ identifiers, identifier ≤ (Bound.greatest : Int) := by
    intro identifier member
    rw [List.eq_of_mem_replicate member]
    decide +kernel
  have crowded : Sql.greatestValues < identifiers.length := by
    rw [List.length_replicate]
    decide
  have among : table.without (Record.isAmong identifiers) = ⟨[], 2⟩ := by
    have named : ∀ record ∈ table.records, record.isAmong identifiers = true := by
      intro record member
      cases List.mem_singleton.mp member
      exact Record.is_among_iff.mpr ⟨1, List.mem_replicate.mpr ⟨by decide, rfl⟩, rfl⟩
    have none : (table.records.filter fun record => !record.isAmong identifiers) = [] := by
      rw [List.filter_eq_nil_iff]
      intro record member
      rw [named record member]
      decide
    unfold Table.without
    rw [none]
  obtain ⟨counts, run, _⟩ : ∃ counts : List Nat,
      StoreCall.runAll Entity.faqs (some table) (identifiers.map StoreCall.deleteById) =
        (counts.map fun count => .done (.affected count),
          some (table.without (Record.isAmong identifiers))) ∧ _ :=
    StoreCall.run_deletions rfl (reached.numbered rfl).identified small
  rw [among] at run
  exact ⟨reached, find_identifiers_crowded rfl small crowded rfl _ _ _,
    delete_identifiers_crowded rfl small crowded rfl _ _ _, counts, run⟩

end Store

end GatedResources
