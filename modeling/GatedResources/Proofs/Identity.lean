import GatedResources.Proofs.Writes

/-!
# Identifiers of records

In every table that the store can build, the records stand in the order of their identifiers and
every identifier is below the one to be assigned next. So a new record gets an identifier that no
record has had, and an identifier names at most one record.
-/

namespace GatedResources

/-- Records with ascending identifiers, all below the one to be assigned next. -/
structure Table.Numbered (table : Table) : Prop where
  bounded : ∀ record ∈ table.records, ∃ identifier, record.identifier? = some identifier ∧
    identifier < table.nextIdentifier
  ascending : table.records.Pairwise fun first second => ∀ lower upper,
    first.identifier? = some lower → second.identifier? = some upper → lower < upper

/-- The tables that the store builds from an empty one, by any run of its writing operations. -/
inductive Table.Reached (entity : Entity) : Table -> Prop where
  | empty : Reached entity Table.empty
  | insert {table after : Table} {fields : List (String × Json)} {record : Record}
      (earlier : Reached entity table)
      (inserted : (Store.insert entity (some table) fields).outcome =
        .done (record, some after)) : Reached entity after
  | update {table after : Table} {identifier : Int} {patch : List (String × Json)}
      {result : Option Record} (earlier : Reached entity table)
      (updated : (Store.update entity (some table) identifier patch).outcome =
        .done (result, some after)) : Reached entity after
  | delete {table after : Table} {predicates : List Predicate} {affected : Nat}
      (earlier : Reached entity table)
      (deleted : (Store.deleteWhere entity (some table) predicates).outcome =
        .done (affected, some after)) : Reached entity after

namespace Store

theorem lookup_overwrite (given : List (String × Cell)) (record : Record) (field : String) :
    (overwrite given record).lookup field =
      (record.lookup field).map fun cell => (given.lookup field).getD cell := by
  induction record with
  | nil => rfl
  | cons entry rest claim =>
      obtain ⟨name, cell⟩ := entry
      unfold overwrite at claim ⊢
      rw [List.map_cons, List.lookup_cons, List.lookup_cons]
      by_cases same : field = name
      · subst same
        simp
      · rw [beq_eq_false_iff_ne.mpr same]
        exact claim

theorem overwrite_identifier {given : List (String × Cell)}
    (absent : given.lookup identifierField = none) (record : Record) :
    (overwrite given record).identifier? = record.identifier? := by
  unfold Record.identifier?
  rw [lookup_overwrite, absent]
  cases record.lookup identifierField <;> rfl

end Store

namespace Table

variable {entity : Entity} {table : Table}

theorem empty_numbered : Table.empty.Numbered := by
  constructor
  · intro record member
    cases member
  · exact List.Pairwise.nil

theorem Numbered.append (numbered : table.Numbered) (body : Record) :
    Numbered ⟨table.records ++ [(identifierField, .integer table.nextIdentifier) :: body],
      table.nextIdentifier + 1⟩ := by
  have own : Record.identifier? ((identifierField, .integer table.nextIdentifier) :: body) =
      some (table.nextIdentifier : Int) := by
    simp [Record.identifier?]
  constructor
  · intro record member
    rcases List.mem_append.mp member with earlier | added
    · obtain ⟨identifier, same, below⟩ := numbered.bounded record earlier
      refine ⟨identifier, same, ?_⟩
      show identifier < ((table.nextIdentifier + 1 : Nat) : Int)
      omega
    · rw [List.mem_singleton.mp added]
      refine ⟨table.nextIdentifier, own, ?_⟩
      show (table.nextIdentifier : Int) < ((table.nextIdentifier + 1 : Nat) : Int)
      omega
  · apply List.pairwise_append.mpr
    refine ⟨numbered.ascending, List.pairwise_singleton _ _, ?_⟩
    intro first earlier second added lower upper firstIs secondIs
    obtain ⟨identifier, same, below⟩ := numbered.bounded first earlier
    rw [List.mem_singleton.mp added, own] at secondIs
    rw [same] at firstIs
    have lowerIs := Option.some.inj firstIs
    have upperIs := Option.some.inj secondIs
    omega

theorem Numbered.without (numbered : table.Numbered) (holds : Record -> Bool) :
    (table.without holds).Numbered := by
  constructor
  · intro record member
    exact numbered.bounded record (List.mem_filter.mp member).1
  · exact numbered.ascending.sublist List.filter_sublist

theorem Numbered.replace (numbered : table.Numbered) (identifier : Int)
    {given : List (String × Cell)} (absent : given.lookup identifierField = none) :
    (Store.replaceById identifier given table).Numbered := by
  have kept : ∀ record : Record, (if record.identifier? = some identifier
      then Store.overwrite given record else record).identifier? = record.identifier? := by
    intro record
    split
    · exact Store.overwrite_identifier absent record
    · rfl
  constructor
  · intro record member
    obtain ⟨original, earlier, same⟩ := List.mem_map.mp member
    rw [← same, kept]
    exact numbered.bounded original earlier
  · apply List.pairwise_map.mpr
    apply numbered.ascending.imp
    intro first second ordered
    rw [kept, kept]
    exact ordered

/-- What the empty table has, and what is kept by appending a numbered record, by overwriting the
records of one identifier and by taking records away, every table has that the store builds. -/
theorem Reached.preserved {Keeps : Table -> Prop} (assigned : entity.key = .assigned)
    (empty : Keeps Table.empty)
    (appended : ∀ {before : Table} {fields : List (String × Json)}
      {given : List (String × Cell)} {body : Record}, Keeps before →
      Store.readInput entity (Store.keptFields entity fields) = .ok given →
      entity.body.mapM (Store.newCell given) = .ok body →
      Keeps ⟨before.records ++ [(identifierField, .integer before.nextIdentifier) :: body],
        before.nextIdentifier + 1⟩)
    (replaced : ∀ {before : Table} {fields : List (String × Json)}
      {given : List (String × Cell)} (identifier : Int), Keeps before →
      Store.readInput entity (Store.keptFields entity fields) = .ok given →
      Keeps (Store.replaceById identifier given before))
    (removed : ∀ {before : Table} (holds : Record -> Bool), Keeps before →
      Keeps (before.without holds))
    (reached : Reached entity table) : Keeps table := by
  induction reached with
  | empty => exact empty
  | insert earlier inserted claim =>
      obtain ⟨_, given, grown, present, read, taken, same⟩ := Store.insert_eq_done inserted
      cases present
      obtain ⟨body, made, record, shape⟩ := Store.insert_into_assigned assigned taken
      cases same
      rw [shape, record]
      exact appended claim read made
  | update earlier updated claim =>
      rcases Store.update_eq_done updated with ⟨_, _, same⟩ | ⟨_, _, unchanged | changed⟩
      · cases same
        exact claim
      · cases unchanged.2.2
        exact claim
      · obtain ⟨given, _, read, _, same⟩ := changed
        cases same
        exact replaced _ claim read
  | delete earlier deleted claim =>
      rcases Store.delete_where_eq_done deleted with ⟨_, _, same⟩ | taken
      · cases same
        exact claim
      · obtain ⟨_, _, holds, present, _, _, _, same⟩ := taken
        cases present
        cases same
        exact removed holds claim

/-- Every table that the store builds for records with assigned identifiers is numbered. -/
theorem Reached.numbered (assigned : entity.key = .assigned) (reached : Reached entity table) :
    table.Numbered := by
  apply reached.preserved assigned empty_numbered
  · intro before fields given body numbered _ _
    exact numbered.append body
  · intro before fields given identifier numbered read
    exact numbered.replace identifier (Store.read_input_without_identifier read)
  · intro before holds numbered
    exact numbered.without holds

/-- In a numbered table no other record has the identifier of a record. -/
theorem Numbered.other_identifiers {front back : List Record} {record : Record}
    {identifier : Int} (numbered : table.Numbered)
    (split : table.records = front ++ record :: back)
    (named : record.identifier? = some identifier) :
    ∀ other ∈ front ++ back, other.identifier? ≠ some identifier := by
  intro other member same
  have ascending := numbered.ascending
  rw [split] at ascending
  obtain ⟨_, later, before⟩ := List.pairwise_append.mp ascending
  rcases List.mem_append.mp member with inFront | inBack
  · have below := before other inFront record List.mem_cons_self _ _ same named
    omega
  · have above := (List.pairwise_cons.mp later).1 other inBack _ _ named same
    omega

theorem replace_elsewhere {identifier : Int} (given : List (String × Cell))
    {records : List Record}
    (others : ∀ record ∈ records, record.identifier? ≠ some identifier) :
    (records.map fun record => if record.identifier? = some identifier
      then Store.overwrite given record else record) = records := by
  have same : ∀ record ∈ records, (if record.identifier? = some identifier
      then Store.overwrite given record else record) = record := by
    intro record member
    exact if_neg (others record member)
  rw [List.map_congr_left same, List.map_id']

/-- Overwriting by identifier changes at most one record, in its place. -/
theorem Numbered.replace_one (numbered : table.Numbered) {identifier : Int}
    {given : List (String × Cell)}
    (changed : Store.replaceById identifier given table ≠ table) :
    ∃ front record back, table.records = front ++ record :: back ∧
      record.identifier? = some identifier ∧
      (Store.replaceById identifier given table).records =
        front ++ Store.overwrite given record :: back := by
  by_cases named : ∃ record ∈ table.records, record.identifier? = some identifier
  · obtain ⟨record, member, same⟩ := named
    obtain ⟨front, back, split⟩ := List.append_of_mem member
    have others := numbered.other_identifiers split same
    refine ⟨front, record, back, split, same, ?_⟩
    show table.records.map _ = _
    rw [split, List.map_append, List.map_cons, if_pos same]
    rw [replace_elsewhere given fun other inFront => others other (List.mem_append_left _ inFront)]
    rw [replace_elsewhere given fun other inBack => others other (List.mem_append_right _ inBack)]
  · exfalso
    apply changed
    unfold Store.replaceById
    rw [replace_elsewhere given fun record member same => named ⟨record, member, same⟩]

end Table
end GatedResources
