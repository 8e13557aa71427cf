import GatedResources.Proofs.EncodedRequests
import GatedResources.Proofs.GivenValues
import GatedResources.Proofs.OwnValues

/-!
# Laws of updates

An update that the store accepts writes what the patch gives over the record with the identifier,
and does nothing else. So the record is found as it was answered, a record is not changed by its own
JSON form, and two updates one after the other are one update with both patches laid over each
other. What the store accepts depends on the patch alone.
-/

namespace GatedResources

/-! ## Patches laid over each other -/

namespace Json

/-- The members of an object with those of another put in their places one by one. -/
def overridden (lower upper : List (String × Json)) : List (String × Json) :=
  upper.foldl (fun held entry => insertMember entry.1 entry.2 held) lower

/-- Where both objects have a member, that of the upper one counts. -/
theorem lookup_overridden {upper : List (String × Json)}
    (distinct : (upper.map Prod.fst).Nodup) (lower : List (String × Json)) (name : String) :
    (overridden lower upper).lookup name = (upper.lookup name).or (lower.lookup name) := by
  unfold overridden
  induction upper generalizing lower with
  | nil => simp
  | cons entry rest claim =>
      obtain ⟨key, value⟩ := entry
      rw [List.map_cons, List.nodup_cons] at distinct
      rw [List.foldl_cons, claim distinct.2, lookup_insert_member]
      by_cases same : name = key
      · subst same
        have later : rest.lookup name = none := by
          rw [List.lookup_eq_none_iff]
          intro field member
          rw [bne_iff_ne]
          intro same
          exact distinct.1 (List.mem_map.mpr ⟨field, member, same.symm⟩)
        simp [later]
      · rw [if_neg same, lookup_cons_other same]

theorem overridden_ascending {lower : List (String × Json)} (ascending : Ascending lower)
    (upper : List (String × Json)) : Ascending (overridden lower upper) := by
  unfold overridden
  induction upper generalizing lower with
  | nil => exact ascending
  | cons entry rest claim => exact claim (insert_member_ascending ascending entry.1 entry.2)

end Json

/-! ## What an update does -/

namespace Entity

/-- The store accepts a patch of which nothing is kept, or whose kept members fit the columns. -/
def accepts (entity : Entity) (patch : List (String × Json)) : Bool :=
  (Store.keptFields entity patch).isEmpty || entity.takes (Store.keptFields entity patch)

theorem accepts_iff {entity : Entity} {patch : List (String × Json)} :
    entity.accepts patch = true ↔
      (∀ field ∈ Store.keptFields entity patch, entity.hasType field = true) ∧
        (Store.keptFields entity patch = [] ∨ ∀ column ∈ entity.body, column.required = true →
          ∃ field ∈ Store.keptFields entity patch, field.1 = column.name) := by
  unfold accepts takes
  rw [Bool.or_eq_true, List.isEmpty_iff, Bool.and_eq_true, List.all_eq_true, List.all_eq_true]
  have required : ∀ column : Column,
      (!column.required || (Store.keptFields entity patch).any fun field =>
        field.1 == column.name) = true ↔
      (column.required = true →
        ∃ field ∈ Store.keptFields entity patch, field.1 = column.name) := by
    intro column
    cases column.required <;> simp
  constructor
  · rintro (nothing | ⟨typed, whole⟩)
    · rw [nothing]
      exact ⟨fun _ impossible => absurd impossible List.not_mem_nil, .inl rfl⟩
    · exact ⟨typed, .inr fun column member => (required column).mp (whole column member)⟩
  · rintro ⟨typed, nothing | whole⟩
    · exact .inl nothing
    · exact .inr ⟨typed, fun column member => (required column).mpr (whole column member)⟩

end Entity

namespace Store

variable {entity : Entity} {patch : List (String × Json)}

/-- An accepted patch gives a value for each column of the body that it names. -/
theorem value_of_accepted (accepted : entity.accepts patch = true)
    {column : Column} (member : column ∈ entity.body) {value : Json}
    (named : patch.lookup column.name = some value) : ∃ cell, value.cell? = some cell :=
  value_of_named (Entity.accepts_iff.mp accepted).1 member named

theorem value_given_nothing
    (nothing : keptFields entity patch = []) (name : String) :
    valueGiven? entity patch name = none := by
  rw [← value_given_kept, nothing]
  cases own : entity.bodyColumn? name <;> simp [valueGiven?, own]

theorem value_given_unnamed {name : String}
    (unnamed : patch.lookup name = none ∨ name ∉ entity.body.map Column.name) :
    valueGiven? entity patch name = none := by
  rcases unnamed with absent | other
  · simp [valueGiven?, absent]
  · rw [← body_column_iff, Option.not_isSome_iff_eq_none] at other
    simp [valueGiven?, other]

def patched (entity : Entity) (patch : List (String × Json)) (record : Record) : Record :=
  record.map fun field => (field.1, (valueGiven? entity patch field.1).getD field.2)

theorem overwrite_patched {given : List (String × Cell)}
    (read : readInput entity (keptFields entity patch) = .ok given) :
    overwrite given = patched entity patch := by
  funext record
  apply List.map_congr_left
  intro field _
  rw [read_input_lookup read]

theorem patched_nothing
    (nothing : keptFields entity patch = []) : patched entity patch = id := by
  funext record
  simp [patched, value_given_nothing nothing]

theorem lookup_patched (record : Record) (name : String) :
    (patched entity patch record).lookup name =
      (record.lookup name).map fun cell => (valueGiven? entity patch name).getD cell := by
  induction record with
  | nil => rfl
  | cons field rest claim =>
      obtain ⟨own, cell⟩ := field
      unfold patched at claim ⊢
      rw [List.map_cons, List.lookup_cons, List.lookup_cons, claim]
      by_cases same : name = own
      · simp [same]
      · simp [beq_eq_false_iff_ne.mpr same]

theorem patched_identifier (record : Record) :
    (patched entity patch record).identifier? = record.identifier? := by
  unfold Record.identifier?
  rw [lookup_patched]
  simp [valueGiven?, no_identifier_column]

def patchedAt (entity : Entity) (identifier : Int) (patch : List (String × Json))
    (record : Record) : Record :=
  if record.identifier? = some identifier then patched entity patch record else record

theorem patched_at_own {record : Record} {identifier : Int}
    (named : record.identifier? = some identifier) :
    patchedAt entity identifier patch record = patched entity patch record :=
  if_pos named

theorem patched_at_other {record : Record} {identifier : Int}
    (differs : record.identifier? ≠ some identifier) :
    patchedAt entity identifier patch record = record :=
  if_neg differs

theorem patched_at_identifier (identifier : Int)
    (record : Record) :
    (patchedAt entity identifier patch record).identifier? = record.identifier? := by
  unfold patchedAt
  split
  · exact patched_identifier record
  · rfl

theorem patched_at_others {records : List Record} {identifier : Int}
    (others : ∀ record ∈ records, record.identifier? ≠ some identifier) :
    records.map (patchedAt entity identifier patch) = records := by
  have same : ∀ record ∈ records, patchedAt entity identifier patch record = record :=
    fun record member => patched_at_other (others record member)
  rw [List.map_congr_left same, List.map_id']

end Store

namespace Table

variable {entity : Entity} {table : Table} {identifier : Int} {patch : List (String × Json)}

def patched (entity : Entity) (identifier : Int) (patch : List (String × Json))
    (table : Table) : Table :=
  { table with records := table.records.map (Store.patchedAt entity identifier patch) }

theorem patched_nothing
    (nothing : Store.keptFields entity patch = []) :
    table.patched entity identifier patch = table := by
  have same : Store.patchedAt entity identifier patch = id := by
    funext record
    simp [Store.patchedAt, Store.patched_nothing nothing]
  rw [patched, same, List.map_id]

theorem patched_absent
    (absent : ∀ record ∈ table.records, record.identifier? ≠ some identifier) :
    table.patched entity identifier patch = table := by
  rw [patched, Store.patched_at_others absent]

/-- Only the record of the identifier is changed, and it stays in its place. -/
theorem Numbered.patched_one (numbered : table.Numbered) {record : Record}
    (member : record ∈ table.records) (named : record.identifier? = some identifier) :
    ∃ front back, table.records = front ++ record :: back ∧
      (table.patched entity identifier patch).records =
        front ++ Store.patched entity patch record :: back := by
  obtain ⟨front, back, split⟩ := List.append_of_mem member
  have others := numbered.other_identifiers split named
  refine ⟨front, back, split, ?_⟩
  rw [patched, split, List.map_append, List.map_cons, Store.patched_at_own named,
    Store.patched_at_others fun other inside => others other (List.mem_append_left _ inside),
    Store.patched_at_others fun other inside => others other (List.mem_append_right _ inside)]

/-- In the patched table the patched record is the one that is found. -/
theorem find_patched :
    ((table.patched entity identifier patch).records.find? fun record =>
        decide (record.identifier? = some identifier)) =
      (table.records.find? fun record => decide (record.identifier? = some identifier)).map
        (Store.patched entity patch) := by
  unfold patched
  dsimp only
  rw [List.find?_map]
  have same : ((fun record : Record => decide (record.identifier? = some identifier)) ∘
      Store.patchedAt entity identifier patch) =
      fun record => decide (record.identifier? = some identifier) := by
    funext record
    simp only [Function.comp, Store.patched_at_identifier]
  rw [same]
  cases found : table.records.find? fun record =>
      decide (record.identifier? = some identifier) with
  | none => rfl
  | some record => exact congrArg some (Store.patched_at_own (named_of_find found).2)

end Table

namespace Store

variable {entity : Entity} {table : Table} {identifier : Int} {patch : List (String × Json)}

/-- An update with an accepted patch answers the patched record, if there is one with the
identifier, and leaves it in its place. -/
theorem update_accepted (assigned : entity.key = .assigned)
    (identified : table.IsIdentified) (accepted : entity.accepts patch = true) :
    (update entity (some table) identifier patch).outcome =
      .done ((table.records.find? fun record => decide (record.identifier? = some identifier)).map
        (patched entity patch), some (table.patched entity identifier patch)) := by
  rw [update_identified assigned identified]
  cases found : table.records.find? fun record =>
      decide (record.identifier? = some identifier) with
  | none =>
      rw [Table.patched_absent (Table.absent_of_find found)]
      rfl
  | some existing =>
      dsimp only
      by_cases nothing : keptFields entity patch = []
      · rw [if_pos (List.isEmpty_iff.mpr nothing), Table.patched_nothing nothing,
          patched_nothing nothing]
        rfl
      · have takes : entity.takes (keptFields entity patch) = true := by
          unfold Entity.accepts at accepted
          simpa [nothing] using accepted
        obtain ⟨given, read, _⟩ := read_input_takes takes
        have same : replaceById identifier given table =
            table.patched entity identifier patch := by
          unfold replaceById Table.patched patchedAt
          rw [overwrite_patched read]
        rw [if_neg (by simpa using nothing), read, Outcome.of_except_ok, Outcome.done_bind,
          overwrite_patched read, same]
        rfl

/-- An update of a record with any other patch fails. -/
theorem update_rejected (assigned : entity.key = .assigned) (identified : table.IsIdentified)
    (rejected : ¬entity.accepts patch = true) (present : table.hasRecord identifier = true) :
    ∃ reason, (update entity (some table) identifier patch).outcome = .failed (.decode reason) := by
  obtain ⟨existing, found⟩ := Option.isSome_iff_exists.mp (Operation.find_record.trans present)
  unfold Entity.accepts at rejected
  rw [Bool.or_eq_true, not_or] at rejected
  obtain ⟨reason, unread⟩ := read_input_refuses rejected.2
  refine ⟨reason, ?_⟩
  rw [update_identified assigned identified, found]
  dsimp only
  rw [if_neg rejected.1, unread]
  rfl

theorem update_eq_accepted (assigned : entity.key = .assigned)
    (identified : table.IsIdentified) (present : table.hasRecord identifier = true)
    {answer : Option Record} {after : Backing}
    (updated : (update entity (some table) identifier patch).outcome = .done (answer, after)) :
    entity.accepts patch = true ∧
      answer = (table.records.find? fun record =>
        decide (record.identifier? = some identifier)).map (patched entity patch) ∧
      after = some (table.patched entity identifier patch) := by
  by_cases accepted : entity.accepts patch = true
  · rw [update_accepted assigned identified accepted] at updated
    cases updated
    exact ⟨accepted, rfl, rfl⟩
  · obtain ⟨reason, failed⟩ := update_rejected assigned identified accepted present
    rw [failed] at updated
    cases updated

end Store

/-! ## A record and its own JSON form -/

namespace Entity.Fits

variable {entity : Entity} {record : Record}

theorem accepts_own (fits : entity.Fits record) :
    entity.accepts (record.map fun field => (field.1, field.2.toJson)) = true := by
  rw [Entity.accepts_iff]
  constructor
  · intro field member
    obtain ⟨inside, known⟩ := Store.mem_kept.mp member
    obtain ⟨own, held, same⟩ := List.mem_map.mp inside
    subst same
    obtain ⟨column, found⟩ := Option.isSome_iff_exists.mp known
    obtain ⟨inBody, named⟩ := Store.body_column_name found
    have admitted : column.admits own.2 = true := by
      rw [← fits.field_cell held, ← named]
      exact fits.values column inBody
    unfold Entity.hasType
    rw [found]
    dsimp only
    rw [Column.decoder_shown admitted]
    rfl
  · refine .inr fun column inBody _ => ?_
    have known : column.name ∈ record.map Prod.fst := by
      rw [fits.names]
      exact body_known inBody
    obtain ⟨own, held, named⟩ := List.mem_map.mp known
    refine ⟨(own.1, own.2.toJson), Store.mem_kept.mpr ⟨?_, ?_⟩, named⟩
    · exact List.mem_map.mpr ⟨own, held, rfl⟩
    · rw [named]
      exact Store.body_column_known inBody

/-- Its own JSON form gives a record the values that it has. -/
theorem patched_own (fits : entity.Fits record) :
    Store.patched entity (record.map fun field => (field.1, field.2.toJson)) record = record := by
  have shown : ∀ name, (record.map fun field => (field.1, field.2.toJson)).lookup name =
      (record.lookup name).map Cell.toJson := record.shown_lookup
  have same : ∀ field ∈ record, (field.1, (Store.valueGiven? entity
      (record.map fun field => (field.1, field.2.toJson)) field.1).getD field.2) = field := by
    intro field member
    have known : field.1 ∈ entity.columnNames := by
      rw [← fits.names]
      exact List.mem_map_of_mem member
    unfold Store.valueGiven?
    rw [shown, fits.lookup_cell known, fits.field_cell member]
    cases entity.bodyColumn? field.1 with
    | none => rfl
    | some column => simp [Cell.shown_value]
  unfold Store.patched
  rw [List.map_congr_left same, List.map_id']

end Entity.Fits

/-! ## Two patches as one -/

namespace Store

variable {entity : Entity} {first second : List (String × Json)}

section Overridden

variable (ascending : Json.Ascending first)
  (ascendingToo : Json.Ascending second)

include ascending ascendingToo

/-- What is kept of both patches together is kept of one of them. -/
theorem kept_of_overridden {field : String × Json}
    (member : field ∈ keptFields entity (Json.overridden first second)) :
    field ∈ keptFields entity first ∨ field ∈ keptFields entity second := by
  obtain ⟨inside, known⟩ := mem_kept.mp member
  have held := Json.lookup_of_mem (Json.overridden_ascending ascending second) inside
  rw [Json.lookup_overridden (Json.ascending_distinct ascendingToo),
    Option.or_eq_some_iff] at held
  rcases held with upper | ⟨_, lower⟩
  · exact .inr (mem_kept.mpr ⟨mem_of_lookup upper, known⟩)
  · exact .inl (mem_kept.mpr ⟨mem_of_lookup lower, known⟩)

theorem overridden_keeps {field : String × Json}
    (inside : field ∈ keptFields entity first ∨ field ∈ keptFields entity second) :
    ∃ own ∈ keptFields entity (Json.overridden first second), own.1 = field.1 := by
  have known : (entity.bodyColumn? field.1).isSome = true :=
    inside.elim (fun member => (mem_kept.mp member).2)
      fun member => (mem_kept.mp member).2
  have held : ((Json.overridden first second).lookup field.1).isSome = true := by
    rw [Json.lookup_overridden (Json.ascending_distinct ascendingToo), Option.isSome_or,
      Bool.or_eq_true]
    rcases inside with member | member
    · right
      rw [Json.lookup_of_mem ascending (mem_kept.mp member).1]
      rfl
    · left
      rw [Json.lookup_of_mem ascendingToo (mem_kept.mp member).1]
      rfl
  obtain ⟨value, own⟩ := Option.isSome_iff_exists.mp held
  exact ⟨(field.1, value), mem_kept.mpr ⟨mem_of_lookup own, known⟩, rfl⟩

theorem accepts_overridden (accepted : entity.accepts first = true)
    (acceptedToo : entity.accepts second = true) :
    entity.accepts (Json.overridden first second) = true := by
  obtain ⟨typed, whole⟩ := Entity.accepts_iff.mp accepted
  obtain ⟨typedToo, wholeToo⟩ := Entity.accepts_iff.mp acceptedToo
  rw [Entity.accepts_iff]
  constructor
  · intro field member
    exact (kept_of_overridden ascending ascendingToo member).elim (typed field)
      (typedToo field)
  · by_cases nothing : keptFields entity (Json.overridden first second) = []
    · exact .inl nothing
    · refine .inr fun column inBody required => ?_
      obtain ⟨some, member⟩ := List.exists_mem_of_ne_nil _ nothing
      -- The patch that something was kept of names every required column.
      have names : ∃ field, (field ∈ keptFields entity first ∨ field ∈ keptFields entity second) ∧
          field.1 = column.name := by
        rcases kept_of_overridden ascending ascendingToo member with inFirst | inSecond
        · obtain ⟨field, inside, named⟩ :=
            whole.resolve_left (List.ne_nil_of_mem inFirst) column inBody required
          exact ⟨field, .inl inside, named⟩
        · obtain ⟨field, inside, named⟩ :=
            wholeToo.resolve_left (List.ne_nil_of_mem inSecond) column inBody required
          exact ⟨field, .inr inside, named⟩
      obtain ⟨field, inside, named⟩ := names
      obtain ⟨own, kept, same⟩ := overridden_keeps ascending ascendingToo inside
      exact ⟨own, kept, same.trans named⟩

end Overridden

theorem value_given_overridden
    (ascending : Json.Ascending second) (accepted : entity.accepts second = true) (name : String) :
    valueGiven? entity (Json.overridden first second) name =
      (valueGiven? entity second name).or (valueGiven? entity first name) := by
  have looked := Json.lookup_overridden (Json.ascending_distinct ascending) first name
  cases known : entity.bodyColumn? name with
  | none => simp [valueGiven?, known]
  | some column =>
      obtain ⟨inBody, same⟩ := body_column_name known
      subst same
      rw [value_given_column inBody, value_given_column inBody, value_given_column inBody, looked]
      cases named : second.lookup column.name with
      | none => simp
      | some value =>
          obtain ⟨cell, own⟩ := value_of_accepted accepted inBody named
          simp [own]

theorem patched_twice (ascending : Json.Ascending second)
    (accepted : entity.accepts second = true) (record : Record) :
    patched entity second (patched entity first record) =
      patched entity (Json.overridden first second) record := by
  unfold patched
  rw [List.map_map]
  apply List.map_congr_left
  intro field _
  simp only [Function.comp, value_given_overridden ascending accepted,
    Option.getD_or]

end Store

theorem Table.patched_twice {entity : Entity} {first second : List (String × Json)}
    (ascending : Json.Ascending second)
    (accepted : entity.accepts second = true) (table : Table) (identifier : Int) :
    (table.patched entity identifier first).patched entity identifier second =
      table.patched entity identifier (Json.overridden first second) := by
  have each : ∀ record, Store.patchedAt entity identifier second
      (Store.patchedAt entity identifier first record) =
        Store.patchedAt entity identifier (Json.overridden first second) record := by
    intro record
    by_cases own : record.identifier? = some identifier
    · have kept : (Store.patched entity first record).identifier? = some identifier :=
        (Store.patched_identifier record).trans own
      rw [Store.patched_at_own own, Store.patched_at_own kept, Store.patched_at_own own]
      exact Store.patched_twice ascending accepted record
    · rw [Store.patched_at_other own, Store.patched_at_other own, Store.patched_at_other own]
  unfold patched
  rw [List.map_map]
  congr 1
  apply List.map_congr_left
  intro record _
  exact each record

/-! ## The laws -/

namespace Store

section Laws

variable {entity : Entity} (assigned : entity.key = .assigned)
  {table : Table} (reached : table.Reached entity) {record : Record}
  (held : record ∈ table.records) {identifier : Int}
  (named : record.identifier? = some identifier)

include assigned reached held named

theorem update_of_record {patch : List (String × Json)} {answer : Option Record} {after : Backing}
    (updated : (update entity (some table) identifier patch).outcome = .done (answer, after)) :
    entity.accepts patch = true ∧ answer = some (patched entity patch record) ∧
      after = some (table.patched entity identifier patch) := by
  have numbered := reached.numbered assigned
  have present : table.hasRecord identifier = true :=
    List.any_eq_true.mpr ⟨record, held, decide_eq_true named⟩
  obtain ⟨accepted, answered, same⟩ :=
    update_eq_accepted assigned numbered.identified present updated
  rw [numbered.find_own held named] at answered
  exact ⟨accepted, answered, same⟩

theorem update_found {patch : List (String × Json)} {answer : Option Record} {after : Backing}
    (updated : (update entity (some table) identifier patch).outcome = .done (answer, after)) :
    (findById entity after identifier).outcome = .done (some (patched entity patch record)) := by
  obtain ⟨_, _, same⟩ := update_of_record assigned reached held named updated
  subst same
  have numbered := (Table.Reached.update reached updated).numbered assigned
  rw [find_by_id_identified assigned numbered.identified, Table.find_patched,
    (reached.numbered assigned).find_own held named]
  rfl

theorem update_with_own :
    (update entity (some table) identifier
      (record.map fun field => (field.1, field.2.toJson))).outcome =
        .done (some record, some table) := by
  have numbered := reached.numbered assigned
  have fits := reached.fits assigned record held
  have same := fits.patched_own
  have unchanged : table.patched entity identifier
      (record.map fun field => (field.1, field.2.toJson)) = table := by
    obtain ⟨front, back, split, placed⟩ := numbered.patched_one held named
    rw [same, ← split] at placed
    exact congrArg (fun records => Table.mk records table.nextIdentifier) placed
  rw [update_accepted assigned numbered.identified fits.accepts_own,
    numbered.find_own held named, unchanged, Option.map_some, same]

theorem update_twice {first second : List (String × Json)} (ascending : Json.Ascending first)
    (ascendingToo : Json.Ascending second) {middleAnswer answer : Option Record} {middle : Table}
    {after : Backing}
    (updated : (update entity (some table) identifier first).outcome =
      .done (middleAnswer, some middle))
    (updatedToo : (update entity (some middle) identifier second).outcome =
      .done (answer, after)) :
    (update entity (some table) identifier (Json.overridden first second)).outcome =
      .done (answer, after) := by
  obtain ⟨accepted, _, same⟩ :=
    update_of_record assigned reached held named updated
  cases same
  have heldToo : patched entity first record ∈
      (table.patched entity identifier first).records := by
    rw [← patched_at_own named]
    exact List.mem_map_of_mem held
  have namedToo : (patched entity first record).identifier? = some identifier :=
    (patched_identifier record).trans named
  obtain ⟨acceptedToo, answered, left⟩ := update_of_record assigned
    (.update reached updated) heldToo namedToo updatedToo
  have numbered := reached.numbered assigned
  have both := accepts_overridden ascending ascendingToo accepted acceptedToo
  rw [update_accepted assigned numbered.identified both, numbered.find_own held named,
    answered, left, Table.patched_twice ascendingToo acceptedToo,
    patched_twice ascendingToo acceptedToo]
  rfl

end Laws

/-- An update is done when the patch is accepted. It is found as it was answered, with the values
of the patch in the columns that it names, and changes no other field and no other record. A record
patched with its own JSON form stays as it is. Two updates one after the other are one update with
the second patch laid over the first. -/
theorem update_laws {entity : Entity}
    (assigned : entity.key = .assigned) {table : Table} (reached : table.Reached entity)
    {record : Record} (held : record ∈ table.records) {identifier : Int}
    (named : record.identifier? = some identifier) :
    let update := fun (table : Table) patch =>
      (Store.update entity (some table) identifier patch).outcome
    (∀ patch, (∃ answer after, update table patch = .done (answer, after)) ↔
      entity.accepts patch = true) ∧
    (∀ patch answer after, update table patch = .done (answer, after) →
      ∃ changed left front back, answer = some changed ∧ after = some left ∧
        (findById entity (some left) identifier).outcome = .done (some changed) ∧
        changed.map Prod.fst = record.map Prod.fst ∧
        (∀ column ∈ entity.body, ∀ value, patch.lookup column.name = some value →
          value.cell? = some (changed.cell column.name)) ∧
        (∀ name, patch.lookup name = none ∨ name ∉ entity.body.map Column.name →
          changed.lookup name = record.lookup name) ∧
        table.records = front ++ record :: back ∧ left.records = front ++ changed :: back ∧
        left.nextIdentifier = table.nextIdentifier) ∧
    (∀ members, record.toJson = .object members →
      update table members = .done (some record, some table)) ∧
    (∀ first second, Json.Ascending first → Json.Ascending second →
      ∀ middleAnswer middle answer after,
        update table first = .done (middleAnswer, some middle) →
        update middle second = .done (answer, after) →
        update table (Json.overridden first second) = .done (answer, after)) := by
  intro update
  have fits := reached.fits assigned record held
  refine ⟨?_, ?_, ?_, ?_⟩
  · intro patch
    constructor
    · rintro ⟨answer, after, updated⟩
      exact (update_of_record assigned reached held named updated).1
    · intro accepted
      exact ⟨_, _, update_accepted assigned (reached.numbered assigned).identified
        accepted⟩
  · intro patch answer after updated
    obtain ⟨accepted, answered, same⟩ :=
      update_of_record assigned reached held named updated
    have found := update_found assigned reached held named updated
    rw [same] at found
    obtain ⟨front, back, split, placed⟩ : ∃ front back, table.records = front ++ record :: back ∧
        (table.patched entity identifier patch).records =
          front ++ patched entity patch record :: back :=
      (reached.numbered assigned).patched_one held named
    refine ⟨_, _, front, back, answered, same, found, ?_, ?_, ?_, split, placed, rfl⟩
    · rw [patched, List.map_map]
      rfl
    · intro column inBody value given
      obtain ⟨cell, own⟩ := value_of_accepted accepted inBody given
      have known := fits.lookup_cell (Entity.Fits.body_known inBody)
      rw [Record.cell, lookup_patched, known, value_given_column inBody, given]
      simp [own]
    · intro name unnamed
      rw [lookup_patched, value_given_unnamed unnamed]
      simp
  · intro members same
    cases same
    exact update_with_own assigned reached held named
  · intro first second ascending ascendingToo middleAnswer middle answer after updated updatedToo
    exact update_twice assigned reached held named ascending ascendingToo updated
      updatedToo

/-- An item gets a note, is found with it, and loses it again with a second patch. Neither the
identifier nor the colour in the patches counts. -/
theorem item_patched_twice :
    let item : Record := [("id", .integer 1), ("title", .text "a"), ("qty", .integer 7),
      ("active", .flag true), ("note", .null)]
    let table : Table := ⟨[item], 2⟩
    let first : List (String × Json) :=
      [("id", .integer 9), ("note", .string "new"), ("qty", .integer 3)]
    let second : List (String × Json) :=
      [("color", .string "red"), ("note", .null), ("title", .string "b")]
    let update := fun (table : Table) patch =>
      (Store.update Entity.items (some table) 1 patch).outcome
    table.Reached Entity.items ∧ item ∈ table.records ∧ item.identifier? = some 1 ∧
      Json.Ascending first ∧ Json.Ascending second ∧
      (∃ changed left, update table first = .done (some changed, some left) ∧
        (findById Entity.items (some left) 1).outcome = .done (some changed) ∧
        changed.cell "note" = .text "new" ∧
        changed.lookup "id" = some (.integer 1)) ∧
      update table [("id", .integer 1), ("title", .string "a"), ("qty", .integer 7),
        ("active", .bool true), ("note", .null)] = .done (some item, some table) ∧
      ∃ changed after, update table (Json.overridden first second) = .done (changed, after) ∧
        changed = some [("id", .integer 1), ("title", .text "b"), ("qty", .integer 3),
          ("active", .flag true), ("note", .null)] := by
  intro item table first second update
  have reached : table.Reached Entity.items := by
    have inserted : (Store.insert Entity.items (some Table.empty)
        [("title", .string "a")]).outcome = .done (item, some table) := by
      decide +kernel
    exact .insert .empty inserted
  have ascending : Json.Ascending first := by
    unfold Json.Ascending
    decide +kernel
  have ascendingToo : Json.Ascending second := by
    unfold Json.Ascending
    decide +kernel
  have held : item ∈ table.records := List.mem_cons_self
  have named : item.identifier? = some 1 := rfl
  obtain ⟨_, found, own, twice⟩ := update_laws rfl reached held named
  let noted : Record := [("id", .integer 1), ("title", .text "a"), ("qty", .integer 3),
    ("active", .flag true), ("note", .text "new")]
  have updated : update table first = .done (some noted, some ⟨[noted], 2⟩) := by
    decide +kernel
  have updatedToo : update ⟨[noted], 2⟩ second = .done (some [("id", .integer 1),
      ("title", .text "b"), ("qty", .integer 3), ("active", .flag true), ("note", .null)],
      some ⟨[[("id", .integer 1), ("title", .text "b"), ("qty", .integer 3),
        ("active", .flag true), ("note", .null)]], 2⟩) := by
    decide +kernel
  refine ⟨reached, held, named, ascending, ascendingToo, ?_, own _ rfl, _, _,
    twice first second ascending ascendingToo _ _ _ _ updated updatedToo, rfl⟩
  obtain ⟨changed, left, _, _, answered, same, sought, _, written, unnamed, _⟩ :=
    found first _ _ updated
  refine ⟨changed, left, by rw [updated, answered, same], sought, ?_, ?_⟩
  · have given := written ⟨"note", .text, true, false, some .null⟩ (by decide) (.string "new") rfl
    exact (Option.some.inj given).symm
  · exact unnamed "id" (.inr (by decide))

end Store

end GatedResources
