import GatedResources.Proofs.Identity
import Mathlib.Data.List.Nodup

/-!
# Records and their columns

A record of an entity has a value for each column and for nothing else, and every value is one
that the column is declared for. What is stored of such a record is read back as the record. An
insertion makes such a record and an update keeps it one, whatever the input.
-/

namespace GatedResources

namespace Decoder

theorem integer_within {least greatest value : Int} {expected : String} {dialect : Dialect}
    {source : Json} (read : integerWithin least greatest expected dialect source = .ok value) :
    least ≤ value ∧ value ≤ greatest := by
  cases source with
  | number number =>
      unfold integerWithin at read
      dsimp only at read
      split at read
      · split at read
        · next within =>
            cases read
            exact within
        · cases read
      · cases read
  | null | bool _ | string _ | array _ | object _ => cases read

theorem signed_fits {bits : Nat} {value : Int} {dialect : Dialect} {source : Json}
    (read : signed bits dialect source = .ok value) : ColumnType.fits bits value = true := by
  have within := integer_within read
  apply decide_eq_true
  omega

end Decoder

namespace Column

def read? (column : Column) (stored : Scalar) : Option Cell :=
  match stored, column.type with
  | .null, _ => if column.nullable then some .null else none
  | .text value, .text => some (.text value)
  | .integer value, .integer bits =>
      if ColumnType.fits bits value then some (.integer value) else none
  | .integer value, .flag => some (.flag (value != 0))
  | _, _ => none

theorem read_admitted {column : Column} {cell : Cell} (admitted : column.admits cell = true) :
    column.read? (.ofCell cell) = some cell := by
  obtain ⟨name, type, nullable, required, initial⟩ := column
  cases cell with
  | null => simp_all [admits, read?, Scalar.ofCell]
  | text value =>
      have same : type = .text := by simpa [admits] using admitted
      simp [read?, Scalar.ofCell, same]
  | integer value =>
      cases type with
      | integer bits =>
          have inside : ColumnType.fits bits value = true := admitted
          simp [read?, Scalar.ofCell, inside]
      | text | flag => cases admitted
  | flag value =>
      have same : type = .flag := by simpa [admits] using admitted
      cases value <;> simp [read?, Scalar.ofCell, same]

theorem decoder_admitted {column : Column} {dialect : Dialect} {value : Json} {cell : Cell}
    (decoded : column.decoder dialect value = .ok cell) : column.admits cell = true := by
  unfold decoder at decoded
  split at decoded
  · next absent =>
      cases decoded
      exact (Bool.and_eq_true_iff.mp absent).1
  · split at decoded
    · next isText =>
        obtain ⟨text, _, finished⟩ := except_bind_eq_ok.mp decoded
        cases finished
        simp [admits, isText]
    · next bits isInteger =>
        obtain ⟨number, read, finished⟩ := except_bind_eq_ok.mp decoded
        cases finished
        simp [admits, isInteger, Decoder.signed_fits read]
    · next isFlag =>
        obtain ⟨flag, _, finished⟩ := except_bind_eq_ok.mp decoded
        cases finished
        simp [admits, isFlag]

end Column

namespace Entity

def identifierColumn : Column := ⟨identifierField, .integer 64, false, false, none⟩

def columns (entity : Entity) : List Column :=
  match entity.key with
  | .assigned => identifierColumn :: entity.body
  | .supplied _ => entity.body

/-- A record has the columns of the entity in their order, with values they are declared for. -/
structure Describes (entity : Entity) (record : Record) : Prop where
  names : record.map Prod.fst = entity.columnNames
  values : ∀ column ∈ entity.columns, column.admits (record.cell column.name) = true

def readRecord (entity : Entity) (stored : List (String × Scalar)) : Option Record :=
  entity.columns.mapM fun column => do
    let cell ← column.read? (← stored.lookup column.name)
    return (column.name, cell)

variable {entity : Entity} {record : Record}

theorem columns_names (entity : Entity) : entity.columns.map Column.name = entity.columnNames := by
  unfold columns columnNames
  cases entity.key <;> rfl

theorem mem_columns {column : Column} (member : column ∈ entity.body) :
    column ∈ entity.columns := by
  unfold columns
  cases entity.key with
  | assigned => exact List.mem_cons_of_mem _ member
  | supplied name => exact member

theorem names_distinct (entity : Entity) : entity.columnNames.Nodup := by
  unfold columnNames
  cases entity.key with
  | assigned => exact List.nodup_cons.mpr ⟨entity.unnumbered, entity.distinct⟩
  | supplied column => exact entity.distinct

theorem initial_admitted {column : Column} (member : column ∈ entity.body) {cell : Cell}
    (initial : column.initial = some cell) : column.admits cell = true := by
  have admitted := entity.initialAdmitted column member
  rwa [initial] at admitted

/-- A key that is supplied stands in a column that is never null. -/
theorem key_column {name : String} (supplied : entity.key = .supplied name) :
    ∃ column ∈ entity.body, column.name = name ∧ column.nullable = false := by
  have held := entity.keyed
  rw [supplied] at held
  obtain ⟨column, member, own⟩ := List.any_eq_true.mp held
  refine ⟨column, member, ?_⟩
  simpa using own

/-- A field of a record is found by its name. -/
theorem lookup_described (described : entity.Describes record) {name : String}
    (known : name ∈ entity.columnNames) : record.lookup name = some (record.cell name) := by
  rw [← described.names] at known
  have found : record.lookup name ≠ none := by
    intro absent
    obtain ⟨field, member, same⟩ := List.mem_map.mp known
    have other := List.lookup_eq_none_iff.mp absent field member
    simp [same] at other
  obtain ⟨cell, same⟩ := Option.ne_none_iff_exists'.mp found
  simp [Record.cell, same]

theorem record_of_names {names : List String} (distinct : names.Nodup)
    (same : record.map Prod.fst = names) :
    record = names.map fun name => (name, record.cell name) := by
  induction record generalizing names with
  | nil =>
      subst same
      rfl
  | cons field rest claim =>
      obtain ⟨name, cell⟩ := field
      subst same
      rw [List.map_cons, List.nodup_cons] at distinct
      have kept : ∀ other ∈ rest.map Prod.fst,
          (other, Record.cell rest other) = (other, Record.cell ((name, cell) :: rest) other) := by
        intro other member
        have differs : other ≠ name := by
          rintro rfl
          exact distinct.1 member
        simp [Record.cell, List.lookup_cons, beq_eq_false_iff_ne.mpr differs]
      rw [List.map_cons, List.map_cons, ← List.map_congr_left kept, ← claim distinct.2 rfl]
      simp [Record.cell]

theorem lookup_stored (record : Record) (name : String) :
    (record.map fun field => (field.1, Scalar.ofCell field.2)).lookup name =
      (record.lookup name).map Scalar.ofCell := by
  induction record with
  | nil => rfl
  | cons field rest claim =>
      rw [List.map_cons, List.lookup_cons, List.lookup_cons, claim]
      cases name == field.1 <;> rfl

/-- What is stored of a record is read back as the record. -/
theorem read_stored (described : entity.Describes record) :
    entity.readRecord (record.map fun field => (field.1, .ofCell field.2)) = some record := by
  have known : ∀ column ∈ entity.columns, column.name ∈ entity.columnNames := by
    intro column member
    rw [← columns_names]
    exact List.mem_map_of_mem member
  have each : ∀ columns : List Column, (∀ column ∈ columns, column ∈ entity.columns) →
      (columns.mapM fun column => do
        let stored ← (record.map fun field => (field.1, Scalar.ofCell field.2)).lookup column.name
        let cell ← column.read? stored
        return (column.name, cell)) =
        some (columns.map fun column => (column.name, record.cell column.name)) := by
    intro columns inside
    induction columns with
    | nil => rfl
    | cons column rest claim =>
        have member := inside column List.mem_cons_self
        have found := lookup_described described (known column member)
        have read := Column.read_admitted (described.values column member)
        rw [List.mapM_cons, claim fun other later => inside other (List.mem_cons_of_mem _ later),
          lookup_stored, found]
        simp [read]
  have whole := record_of_names entity.names_distinct described.names
  rw [← columns_names, List.map_map] at whole
  unfold readRecord
  rw [each entity.columns fun _ member => member]
  exact congrArg some whole.symm

def Admits (entity : Entity) (given : List (String × Cell)) : Prop :=
  ∀ entry ∈ given, ∃ column ∈ entity.body, column.name = entry.1 ∧ column.admits entry.2 = true

end Entity

namespace Store

variable {entity : Entity} {table grown : Table} {given : List (String × Cell)} {record : Record}

theorem read_input_admitted {fields : List (String × Json)}
    (read : readInput entity fields = .ok given) : entity.Admits given := by
  intro entry member
  obtain ⟨column, inBody, _, named, _, decoded⟩ := read_input_entries read entry member
  exact ⟨column, inBody, named, Column.decoder_admitted decoded⟩

theorem given_admitted (admits : entity.Admits given)
    {column : Column} (member : column ∈ entity.columns) {cell : Cell}
    (found : given.lookup column.name = some cell) : column.admits cell = true := by
  obtain ⟨front, back, split, _⟩ := List.lookup_eq_some_iff.mp found
  have inside : (column.name, cell) ∈ given := by simp [split]
  obtain ⟨other, inBody, named, admitted⟩ := admits _ inside
  have distinct : (entity.columns.map Column.name).Nodup := by
    rw [Entity.columns_names]
    exact entity.names_distinct
  have same : other = column :=
    List.inj_on_of_nodup_map distinct (Entity.mem_columns inBody) member named
  exact same ▸ admitted

theorem new_cell_admitted (admits : entity.Admits given)
    {column : Column} (member : column ∈ entity.body) {entry : String × Cell}
    (made : newCell given column = .ok entry) :
    entry.1 = column.name ∧ column.admits entry.2 = true := by
  unfold newCell at made
  split at made
  · next cell chosen =>
      cases made
      refine ⟨rfl, ?_⟩
      cases found : given.lookup column.name with
      | some own =>
          rw [found] at chosen
          cases chosen
          exact given_admitted admits (Entity.mem_columns member) found
      | none =>
          rw [found, Option.none_or] at chosen
          exact Entity.initial_admitted member chosen
  · cases made

theorem new_cell_eq_ok {column : Column} {entry : String × Cell} :
    newCell given column = .ok entry ↔
      ∃ cell, (given.lookup column.name).or column.initial = some cell ∧
        entry = (column.name, cell) := by
  unfold newCell
  cases (given.lookup column.name).or column.initial with
  | none => simp
  | some cell => simp [eq_comm]

/-- A new body has what is made for each column under its name. -/
theorem new_body_cells {columns : List Column} (distinct : (columns.map Column.name).Nodup)
    {body : Record} (made : columns.mapM (newCell given) = .ok body) :
    body.map Prod.fst = columns.map Column.name ∧
      ∀ column ∈ columns, newCell given column = .ok (column.name, body.cell column.name) := by
  induction columns generalizing body with
  | nil =>
      cases made
      exact ⟨rfl, fun column member => nomatch member⟩
  | cons first rest claim =>
      rw [List.mapM_cons] at made
      obtain ⟨entry, own, made⟩ := except_bind_eq_ok.mp made
      obtain ⟨others, madeOthers, finished⟩ := except_bind_eq_ok.mp made
      cases finished
      obtain ⟨cell, _, same⟩ := new_cell_eq_ok.mp own
      subst same
      rw [List.map_cons, List.nodup_cons] at distinct
      obtain ⟨names, values⟩ := claim distinct.2 madeOthers
      refine ⟨by rw [List.map_cons, List.map_cons, names], ?_⟩
      intro column member
      rcases List.mem_cons.mp member with same | later
      · subst same
        simpa [Record.cell] using own
      · have differs : column.name ≠ first.name := by
          intro same
          exact distinct.1 (List.mem_map.mpr ⟨column, later, same⟩)
        have value := values column later
        simpa [Record.cell, List.lookup_cons, beq_eq_false_iff_ne.mpr differs] using value

/-- A new body has a value for each column. -/
theorem new_body_described {columns : List Column}
    (each : ∀ column ∈ columns, ∀ entry, newCell given column = .ok entry →
      entry.1 = column.name ∧ column.admits entry.2 = true)
    (distinct : (columns.map Column.name).Nodup) {body : Record}
    (made : columns.mapM (newCell given) = .ok body) :
    body.map Prod.fst = columns.map Column.name ∧
      ∀ column ∈ columns, column.admits (body.cell column.name) = true := by
  obtain ⟨names, cells⟩ := new_body_cells distinct made
  refine ⟨names, ?_⟩
  intro column member
  exact (each column member _ (cells column member)).2

/-- A record that an insertion adds is one of the entity, as long as identifiers fit. -/
theorem inserted_described (admits : entity.Admits given)
    (room : table.nextIdentifier < Nat.pow 2 63)
    (taken : insertInto entity table given = .ok (record, grown)) : entity.Describes record := by
  have each : ∀ column ∈ entity.body, ∀ entry, newCell given column = .ok entry →
      entry.1 = column.name ∧ column.admits entry.2 = true := by
    intro column member entry made
    exact new_cell_admitted admits member made
  cases key : entity.key with
  | assigned =>
      obtain ⟨body, made, shape, _⟩ := insert_into_assigned key taken
      obtain ⟨names, values⟩ := new_body_described each entity.distinct made
      subst shape
      constructor
      · unfold Entity.columnNames
        rw [key, List.map_cons, names]
      · intro column member
        unfold Entity.columns at member
        rw [key] at member
        rcases List.mem_cons.mp member with same | inBody
        · subst same
          have fits : ColumnType.fits 64 table.nextIdentifier = true := by
            apply decide_eq_true
            constructor
            · omega
            · exact Int.ofNat_lt.mpr room
          simpa [Record.cell, Entity.identifierColumn, Column.admits] using fits
        · have differs : column.name ≠ identifierField := by
            intro same
            exact entity.unnumbered (List.mem_map.mpr ⟨column, inBody, same⟩)
          have value := values column inBody
          simpa [Record.cell, List.lookup_cons, beq_eq_false_iff_ne.mpr differs] using value
  | supplied column =>
      obtain ⟨made, _, _⟩ := insert_into_supplied key taken
      obtain ⟨names, values⟩ := new_body_described each entity.distinct made
      constructor
      · unfold Entity.columnNames
        rw [key, names]
      · unfold Entity.columns
        rw [key]
        exact values

/-- A record of the entity stays one when it is overwritten. -/
theorem overwrite_described (admits : entity.Admits given)
    (described : entity.Describes record) : entity.Describes (overwrite given record) := by
  constructor
  · rw [← described.names]
    unfold overwrite
    rw [List.map_map]
    rfl
  · intro column member
    have known : column.name ∈ entity.columnNames := by
      rw [← Entity.columns_names]
      exact List.mem_map_of_mem member
    have found := Entity.lookup_described described known
    have value : (overwrite given record).cell column.name =
        (given.lookup column.name).getD (record.cell column.name) := by
      unfold Record.cell at found ⊢
      rw [lookup_overwrite, found]
      rfl
    rw [value]
    cases own : given.lookup column.name with
    | none => exact described.values column member
    | some cell => exact given_admitted admits member own

end Store

end GatedResources
