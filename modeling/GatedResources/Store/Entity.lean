import GatedResources.Decode.Decoder

/-!
# Entities

An entity is a kind of record: a table with columns. Records of most entities are addressed
by an identifier that the store assigns; an entity may instead be keyed by one of its own
columns.
-/

namespace GatedResources

inductive Cell where
  | null
  | text (value : String)
  | integer (value : Int)
  | flag (value : Bool)
deriving DecidableEq, Repr

/-- The fields of a record with their values, in the order of the columns. -/
abbrev Record := List (String × Cell)

inductive ColumnType where
  | text
  | integer (bits : Nat)
  | flag
deriving DecidableEq, Repr

/-- The whole numbers of a width in two's complement. -/
def ColumnType.fits (bits : Nat) (value : Int) : Bool :=
  -(Nat.pow 2 (bits - 1) : Nat) ≤ value ∧ value < (Nat.pow 2 (bits - 1) : Nat)

structure Column where
  name : String
  type : ColumnType
  /-- Whether the column may hold null. -/
  nullable : Bool
  /-- Whether every input must give it. -/
  required : Bool
  /-- The value of a new record that is given none; without one, such a record is refused. -/
  initial : Option Cell
deriving DecidableEq, Repr

def Column.admits (column : Column) : Cell -> Bool
  | .null => column.nullable
  | .text _ => column.type == .text
  | .integer value =>
      match column.type with
      | .integer bits => ColumnType.fits bits value
      | .text | .flag => false
  | .flag _ => column.type == .flag

inductive Key where
  /-- The store numbers the records in a column of its own, the first one. -/
  | assigned
  /-- A column of the record, of which no two records have the same value. -/
  | supplied (column : String)
deriving DecidableEq, Repr

def Key.isHeld (body : List Column) : Key -> Bool
  | .assigned => true
  | .supplied name => body.any fun column => column.name == name && !column.nullable

def identifierField : String := "id"

/-- A table with its key and its columns besides that of the identifier. Columns have names of
their own and initial values that they are declared for. -/
structure Entity where
  table : String
  key : Key
  body : List Column
  distinct : (body.map Column.name).Nodup := by decide
  unnumbered : identifierField ∉ body.map Column.name := by decide
  initialAdmitted : ∀ column ∈ body, column.initial.all column.admits = true := by decide
  keyed : key.isHeld body = true := by decide
deriving DecidableEq, Repr

namespace Cell

def toJson : Cell -> Json
  | .null => .null
  | .text value => .string value
  | .integer value => .integer value
  | .flag value => .bool value

end Cell

namespace Record

/-- The value of a field; null when there is no such field. -/
def cell (record : Record) (field : String) : Cell :=
  (record.lookup field).getD .null

def toJson (record : Record) : Json :=
  .object (record.map fun field => (field.1, field.2.toJson))

def identifier? (record : Record) : Option Int :=
  match record.lookup identifierField with
  | some (.integer value) => some value
  | _ => none

end Record

namespace Column

def decoder (column : Column) : Decoder Cell := fun dialect value =>
  if column.nullable && value.isNull then
    .ok .null
  else
    match column.type with
    | .text => do .ok (.text (← Decoder.text dialect value))
    | .integer bits => do .ok (.integer (← Decoder.signed bits dialect value))
    | .flag => do .ok (.flag (← Decoder.flag dialect value))

end Column

namespace Entity

def hasIdentifier (entity : Entity) : Bool :=
  entity.key == .assigned

def keyColumn (entity : Entity) : String :=
  match entity.key with
  | .assigned => identifierField
  | .supplied column => column

def columnNames (entity : Entity) : List String :=
  match entity.key with
  | .assigned => identifierField :: entity.body.map Column.name
  | .supplied _ => entity.body.map Column.name

def hasColumn (entity : Entity) (field : String) : Bool :=
  entity.columnNames.contains field

def bodyColumn? (entity : Entity) (field : String) : Option Column :=
  entity.body.find? fun column => column.name == field

def typeOf? (entity : Entity) (field : String) : Option ColumnType :=
  if entity.hasIdentifier && field == identifierField then some (.integer 64)
  else (entity.bodyColumn? field).map Column.type

end Entity

namespace Entity

private def textColumn (name initial : String) : Column :=
  ⟨name, .text, false, false, some (.text initial)⟩

def faqs : Entity where
  table := "faqs"
  key := .assigned
  body := [textColumn "question" "", textColumn "answer" "", textColumn "status" "draft"]

def items : Entity where
  table := "items"
  key := .assigned
  body := [
    textColumn "title" "",
    ⟨"qty", .integer 64, false, false, some (.integer 7)⟩,
    ⟨"active", .flag, false, false, some (.flag true)⟩,
    ⟨"note", .text, true, false, some .null⟩]

def tags : Entity where
  table := "tags"
  key := .assigned
  body := [⟨"name", .text, false, true, none⟩, ⟨"rank", .integer 32, false, true, none⟩]

def labels : Entity where
  table := "labels"
  key := .supplied "code"
  body := [⟨"code", .text, false, false, none⟩, textColumn "text" "none"]

def all : List Entity := [faqs, items, tags, labels]

end Entity
end GatedResources
