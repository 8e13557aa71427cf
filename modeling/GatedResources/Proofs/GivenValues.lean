import GatedResources.Proofs.Members
import GatedResources.Proofs.StoreVerdicts
import GatedResources.Proofs.StoredRecords

/-!
# The values that an input gives

An input that the store accepts gives each column that it names the value written there, and says
nothing of the other columns, whatever other members it has. Every record of a table that the store
has built has a value for each column, and the store takes the JSON form of such a value back as
that value.
-/

namespace GatedResources

theorem lookup_filter_keys {value : Type} (keeps : String -> Bool) (entries : List (String × value))
    (name : String) :
    (entries.filter fun entry => keeps entry.1).lookup name =
      if keeps name then entries.lookup name else none := by
  induction entries with
  | nil => simp
  | cons entry rest claim =>
      obtain ⟨key, own⟩ := entry
      by_cases same : name = key
      · subst same
        by_cases kept : keeps name = true <;> simp [kept, claim]
      · rw [lookup_cons_other same]
        by_cases kept : keeps key = true <;>
          simp [kept, lookup_cons_other same, claim]

/-- The value of a field that a JSON value is written for. Fractions, arrays and objects are
written for none. -/
def Json.cell? : Json -> Option Cell
  | .null => some .null
  | .bool state => some (.flag state)
  | .string text => some (.text text)
  | .number value => value.whole?.map Cell.integer
  | .array _ | .object _ => none

theorem Cell.shown_value (cell : Cell) : cell.toJson.cell? = some cell := by
  cases cell <;> rfl

namespace Decoder

theorem text_eq_ok {dialect : Dialect} {value : Json} {content : String} :
    text dialect value = .ok content ↔ value = .string content := by
  cases value <;> simp [text, refuseType, refuse]

theorem flag_eq_ok {dialect : Dialect} {value : Json} {state : Bool} :
    flag dialect value = .ok state ↔ value = .bool state := by
  cases value <;> simp [flag, refuseType, refuse]

theorem integer_within_cell {least greatest value : Int} {expected : String} {dialect : Dialect}
    {source : Json} (read : integerWithin least greatest expected dialect source = .ok value) :
    source.cell? = some (.integer value) := by
  cases source with
  | number held =>
      unfold integerWithin at read
      dsimp only at read
      split at read
      · next own whole =>
          split at read
          · cases read
            simp [Json.cell?, whole]
          · cases read
      · cases read
  | null | bool _ | string _ | array _ | object _ => cases read

end Decoder

namespace Column

variable {column : Column} {dialect : Dialect}

/-- What a column reads from a value is what the value is written for. -/
theorem decoder_cell {value : Json} {cell : Cell}
    (decoded : column.decoder dialect value = .ok cell) : value.cell? = some cell := by
  unfold decoder at decoded
  split at decoded
  · next absent =>
      cases decoded
      cases value <;> simp [Json.isNull] at absent
      rfl
  · split at decoded
    · obtain ⟨content, read, finished⟩ := except_bind_eq_ok.mp decoded
      cases finished
      rw [Decoder.text_eq_ok.mp read]
      rfl
    · obtain ⟨number, read, finished⟩ := except_bind_eq_ok.mp decoded
      cases finished
      exact Decoder.integer_within_cell read
    · obtain ⟨state, read, finished⟩ := except_bind_eq_ok.mp decoded
      cases finished
      rw [Decoder.flag_eq_ok.mp read]
      rfl

/-- A column takes back the values that it is declared for. -/
theorem decoder_shown {cell : Cell} (admitted : column.admits cell = true) :
    column.decoder dialect cell.toJson = .ok cell := by
  obtain ⟨name, type, nullable, required, initial⟩ := column
  cases cell with
  | null =>
      have own : nullable = true := admitted
      simp [decoder, own, Cell.toJson, Json.isNull]
  | text value =>
      have own : type = .text := by simpa [admits] using admitted
      subst own
      simp only [decoder, Cell.toJson, Json.isNull, Bool.and_false]
      exact except_bind_eq_ok.mpr ⟨value, rfl, rfl⟩
  | flag value =>
      have own : type = .flag := by simpa [admits] using admitted
      subst own
      simp only [decoder, Cell.toJson, Json.isNull, Bool.and_false]
      exact except_bind_eq_ok.mpr ⟨value, rfl, rfl⟩
  | integer value =>
      cases type with
      | integer bits =>
          have inside : ColumnType.fits bits value = true := admitted
          have bounds := of_decide_eq_true inside
          have within : -((Nat.pow 2 (bits - 1) : Nat) : Int) ≤ value ∧
              value ≤ ((Nat.pow 2 (bits - 1) : Nat) : Int) - 1 := by
            omega
          have read : Decoder.signed bits dialect (.integer value) = .ok value := if_pos within
          simp only [decoder, Cell.toJson, Json.isNull, Json.integer, Bool.and_false]
          exact except_bind_eq_ok.mpr ⟨value, read, rfl⟩
      | text | flag => cases admitted

end Column

/-! ## Inputs -/

namespace Store

variable {entity : Entity} {fields : List (String × Json)}

/-- The value that an input gives a field, if the field is a column of the body and named. -/
def valueGiven? (entity : Entity) (fields : List (String × Json)) (name : String) : Option Cell :=
  (entity.bodyColumn? name).bind fun _ => (fields.lookup name).bind Json.cell?

theorem body_column_known {column : Column} (member : column ∈ entity.body) :
    (entity.bodyColumn? column.name).isSome = true :=
  List.find?_isSome.mpr ⟨column, member, beq_self_eq_true _⟩

theorem value_given_column {column : Column} (member : column ∈ entity.body) :
    valueGiven? entity fields column.name = (fields.lookup column.name).bind Json.cell? := by
  obtain ⟨found, known⟩ := Option.isSome_iff_exists.mp (body_column_known member)
  simp [valueGiven?, known]

theorem no_identifier_column :
    entity.bodyColumn? identifierField = none := by
  rw [Entity.bodyColumn?, List.find?_eq_none]
  intro column member same
  exact entity.unnumbered (List.mem_map.mpr ⟨column, member, eq_of_beq same⟩)

theorem body_column_iff {name : String} :
    (entity.bodyColumn? name).isSome = true ↔ name ∈ entity.body.map Column.name := by
  simp [Entity.bodyColumn?, List.find?_isSome]

/-- The members of an input that are kept are those that name a column of the body. -/
theorem kept_iff (name : String) :
    (name != identifierField && entity.hasColumn name) = (entity.bodyColumn? name).isSome := by
  rw [Bool.eq_iff_iff, body_column_iff, Bool.and_eq_true, bne_iff_ne, ne_eq]
  unfold Entity.hasColumn Entity.columnNames
  cases entity.key with
  | assigned =>
      rw [List.contains_iff_mem, List.mem_cons]
      constructor
      · rintro ⟨other, known⟩
        exact known.resolve_left other
      · intro known
        refine ⟨?_, .inr known⟩
        rintro rfl
        exact entity.unnumbered known
  | supplied column =>
      rw [List.contains_iff_mem]
      constructor
      · intro known
        exact known.2
      · intro known
        refine ⟨?_, known⟩
        rintro rfl
        exact entity.unnumbered known

theorem mem_kept {field : String × Json} :
    field ∈ keptFields entity fields ↔
      field ∈ fields ∧ (entity.bodyColumn? field.1).isSome = true := by
  unfold keptFields
  rw [List.mem_filter, kept_iff]

/-- A kept member that has its type gives a value. -/
theorem value_of_typed {field : String × Json} (known : (entity.bodyColumn? field.1).isSome = true)
    (typed : entity.hasType field = true) : ∃ cell, field.2.cell? = some cell := by
  obtain ⟨column, own⟩ := Option.isSome_iff_exists.mp known
  unfold Entity.hasType at typed
  rw [own] at typed
  cases decoded : column.decoder .request field.2 with
  | ok cell => exact ⟨cell, Column.decoder_cell decoded⟩
  | error fault => simp [decoded, Except.isOk, Except.toBool] at typed

/-- An input whose kept members have their types gives a value for each column that it names. -/
theorem value_of_named
    (typed : ∀ field ∈ keptFields entity fields, entity.hasType field = true) {column : Column}
    (member : column ∈ entity.body) {value : Json}
    (named : fields.lookup column.name = some value) : ∃ cell, value.cell? = some cell := by
  have known := body_column_known member
  have kept : (column.name, value) ∈ keptFields entity fields :=
    mem_kept.mpr ⟨mem_of_lookup named, known⟩
  exact value_of_typed known (typed _ kept)

/-- Only the kept members of an input give values. -/
theorem value_given_kept (fields : List (String × Json))
    (name : String) :
    valueGiven? entity (keptFields entity fields) name = valueGiven? entity fields name := by
  unfold valueGiven? keptFields
  rw [lookup_filter_keys (fun key => key != identifierField && entity.hasColumn key),
    kept_iff]
  cases entity.bodyColumn? name <;> rfl

theorem read_members_lookup {start given : List (String × Cell)}
    (read : (inputShape entity).readMembers .request fields start = .ok given) (name : String) :
    given.lookup name = (start.lookup name).or (valueGiven? entity fields name) := by
  induction fields generalizing start with
  | nil =>
      cases read
      simp [valueGiven?]
  | cons field rest claim =>
      obtain ⟨key, value⟩ := field
      rw [Shape.readMembers, input_member] at read
      cases known : entity.bodyColumn? key with
      | none =>
          rw [known] at read
          rw [claim read]
          by_cases same : name = key
          · subst same
            simp [valueGiven?, known]
          · simp [valueGiven?, lookup_cons_other same]
      | some column =>
          rw [known] at read
          obtain ⟨next, taken, later⟩ := except_bind_eq_ok.mp read
          obtain ⟨cell, decoded, put⟩ := except_bind_eq_ok.mp taken
          cases put
          have own := Column.decoder_cell (under_key_eq_ok.mp decoded)
          have named : column.name = key := (body_column_name known).2
          rw [claim later, List.lookup_append, named]
          by_cases same : name = key
          · subst same
            simp [valueGiven?, known, own]
          · simp [valueGiven?, lookup_cons_other same]

theorem read_input_eq_ok {given : List (String × Cell)} :
    readInput entity fields = .ok given ↔
      (inputShape entity).decode .request (.object fields) = .ok given := by
  unfold readInput
  cases (inputShape entity).decode .request (.object fields) <;> simp

theorem read_input_iff :
    (∃ given, readInput entity fields = .ok given) ↔ entity.takes fields = true := by
  constructor
  · rintro ⟨given, read⟩
    by_contra refuses
    obtain ⟨reason, unread⟩ := read_input_refuses refuses
    cases read.symm.trans unread
  · intro takes
    obtain ⟨given, read, _⟩ := read_input_takes takes
    exact ⟨given, read⟩

theorem read_input_members {given : List (String × Cell)}
    (read : readInput entity fields = .ok given) :
    (inputShape entity).readMembers .request fields [] = .ok given := by
  obtain ⟨result, taken, finished⟩ := except_bind_eq_ok.mp (read_input_eq_ok.mp read)
  split at finished
  · cases finished
  · cases finished
    exact taken

/-- What is read from an input is what it gives. -/
theorem read_input_lookup {given : List (String × Cell)}
    (read : readInput entity (keptFields entity fields) = .ok given) (name : String) :
    given.lookup name = valueGiven? entity fields name := by
  rw [read_members_lookup (read_input_members read), List.lookup_nil, Option.none_or,
    value_given_kept]

end Store

/-! ## Records of the store -/

/-- A record has the columns of the entity in their order, with values in its body that they are
declared for. Its identifier may be any number. -/
structure Entity.Fits (entity : Entity) (record : Record) : Prop where
  names : record.map Prod.fst = entity.columnNames
  values : ∀ column ∈ entity.body, column.admits (record.cell column.name) = true

namespace Entity.Fits

variable {entity : Entity} {record : Record}

theorem lookup_cell (fits : entity.Fits record) {name : String}
    (known : name ∈ entity.columnNames) : record.lookup name = some (record.cell name) := by
  rw [← fits.names] at known
  obtain ⟨field, member, same⟩ := List.mem_map.mp known
  have found : record.lookup name ≠ none := by
    intro absent
    have other := List.lookup_eq_none_iff.mp absent field member
    simp [same] at other
  obtain ⟨cell, held⟩ := Option.ne_none_iff_exists'.mp found
  simp [Record.cell, held]

/-- A field of a record is the one of its name. -/
theorem field_cell (fits : entity.Fits record)
    {field : String × Cell} (member : field ∈ record) : record.cell field.1 = field.2 := by
  have whole := Entity.record_of_names entity.names_distinct fits.names
  rw [whole] at member
  obtain ⟨name, _, same⟩ := List.mem_map.mp member
  rw [← same]

theorem body_known {column : Column} (member : column ∈ entity.body) :
    column.name ∈ entity.columnNames := by
  rw [← Entity.columns_names]
  exact List.mem_map_of_mem (Entity.mem_columns member)

theorem overwritten (fits : entity.Fits record)
    {given : List (String × Cell)} (admits : entity.Admits given) :
    entity.Fits (Store.overwrite given record) := by
  constructor
  · rw [← fits.names, Store.overwrite, List.map_map]
    rfl
  · intro column member
    have value : (Store.overwrite given record).cell column.name =
        (given.lookup column.name).getD (record.cell column.name) := by
      rw [Record.cell, Store.lookup_overwrite, fits.lookup_cell (body_known member)]
      rfl
    rw [value]
    cases own : given.lookup column.name with
    | none => exact fits.values column member
    | some cell =>
        exact Store.given_admitted admits (Entity.mem_columns member) own

/-- A record that is inserted fits, whatever its identifier is. -/
theorem inserted (assigned : entity.key = .assigned)
    {given : List (String × Cell)} (admits : entity.Admits given) {body : Record}
    (made : entity.body.mapM (Store.newCell given) = .ok body) (identifier : Int) :
    entity.Fits ((identifierField, .integer identifier) :: body) := by
  have each : ∀ column ∈ entity.body, ∀ entry, Store.newCell given column = .ok entry →
      entry.1 = column.name ∧ column.admits entry.2 = true := by
    intro column member entry own
    exact Store.new_cell_admitted admits member own
  obtain ⟨names, values⟩ := Store.new_body_described each entity.distinct made
  constructor
  · rw [Entity.columnNames, assigned, List.map_cons, names]
  · intro column member
    have differs : column.name ≠ identifierField := by
      intro same
      exact entity.unnumbered (List.mem_map.mpr ⟨column, member, same⟩)
    simpa [Record.cell, lookup_cons_other differs] using values column member

end Entity.Fits

namespace Table

variable {entity : Entity} {table : Table}

/-- Every record of a table that the store builds fits. -/
theorem Reached.fits (assigned : entity.key = .assigned)
    (reached : table.Reached entity) : ∀ record ∈ table.records, entity.Fits record := by
  apply reached.preserved assigned
  · intro record member
    cases member
  · intro before fields given body fits read made record member
    rcases List.mem_append.mp member with old | added
    · exact fits record old
    · rw [List.mem_singleton.mp added]
      exact .inserted assigned (Store.read_input_admitted read) made _
  · intro before fields given identifier fits read record member
    obtain ⟨original, old, own⟩ := List.mem_map.mp member
    subst own
    split
    · exact (fits original old).overwritten (Store.read_input_admitted read)
    · exact fits original old
  · intro before holds fits record member
    exact fits record (List.mem_filter.mp member).1

theorem named_of_find {identifier : Int} {record : Record}
    (found : (table.records.find? fun held => decide (held.identifier? = some identifier)) =
      some record) : record ∈ table.records ∧ record.identifier? = some identifier := by
  have own := List.find?_some found
  exact ⟨List.mem_of_find?_eq_some found, of_decide_eq_true own⟩

theorem absent_of_find {identifier : Int}
    (none : (table.records.find? fun held => decide (held.identifier? = some identifier)) =
      none) : ∀ record ∈ table.records, record.identifier? ≠ some identifier := by
  intro record member named
  exact List.find?_eq_none.mp none record member (decide_eq_true named)

/-- A record of a numbered table is the one that is found by its identifier. -/
theorem Numbered.find_own (numbered : table.Numbered) {record : Record} {identifier : Int}
    (member : record ∈ table.records) (named : record.identifier? = some identifier) :
    table.records.find? (fun held => decide (held.identifier? = some identifier)) =
      some record := by
  obtain ⟨front, back, split⟩ := List.append_of_mem member
  have others := numbered.other_identifiers split named
  rw [List.find?_eq_some_iff_append]
  refine ⟨by simp [named], front, back, split, ?_⟩
  intro other inFront
  simp [others other (List.mem_append_left _ inFront)]

end Table
end GatedResources
