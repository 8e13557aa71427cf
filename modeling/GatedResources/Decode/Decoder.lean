import GatedResources.Decode.Fault

/-!
# Decoding JSON values into records

A record is decoded from an object, or from an array that gives its members in order. The
first fault met wins: members are visited in the order of the value, and members that are
missing are noticed last, in declaration order.
-/

namespace GatedResources

/-- Where a value comes from. Settings are more lenient about the length of arrays and word
their faults differently. -/
inductive Dialect where
  | request
  | settings
deriving DecidableEq, Repr

abbrev Decoder (α : Type) := Dialect -> Json -> Except Fault α

def refuse {α : Type} (cause : Cause) : Except Fault α :=
  .error ⟨[], cause⟩

def refuseType {α : Type} (value : Json) (expected : String) : Except Fault α :=
  refuse (.wrongType (Found.of value) expected)

/-- Names the step that led to a fault. -/
def underKey {α : Type} (key : String) : Except Fault α -> Except Fault α
  | .ok value => .ok value
  | .error fault => .error (fault.under key)

namespace Decoder

def any : Decoder Json :=
  fun _ value => .ok value

def text : Decoder String
  | _, .string value => .ok value
  | _, value => refuseType value "a string"

def flag : Decoder Bool
  | _, .bool value => .ok value
  | _, value => refuseType value "a boolean"

def map : Decoder (List (String × Json))
  | _, .object members => .ok members
  | _, value => refuseType value "a map"

def unit : Decoder Unit
  | _, .null => .ok ()
  | _, value => refuseType value "unit"

def integerWithin (least greatest : Int) (expected : String) : Decoder Int
  | _, .number number =>
      match number.whole? with
      | some value =>
          if least ≤ value ∧ value ≤ greatest then .ok value
          else refuse (.wrongValue (Found.of (.number number)) expected)
      | none => refuseType (.number number) expected
  | _, value => refuseType value expected

def unsigned (bits : Nat) : Decoder Nat :=
  fun dialect value => do
    let number ←
      integerWithin 0 ((Nat.pow 2 bits : Nat) - 1) ("u" ++ Decimal.natural bits) dialect value
    .ok number.toNat

/-- Whole numbers of a width in two's complement. -/
def signed (bits : Nat) : Decoder Int :=
  let bound : Int := (Nat.pow 2 (bits - 1) : Nat)
  integerWithin (-bound) (bound - 1) ("i" ++ Decimal.natural bits)

def optional {α : Type} (decoder : Decoder α) : Decoder (Option α)
  | _, .null => .ok none
  | dialect, value => do .ok (some (← decoder dialect value))

def elementsFrom {α : Type} (decoder : Decoder α) (dialect : Dialect) :
    Nat -> List Json -> Except Fault (List α)
  | _, [] => .ok []
  | index, value :: rest => do
      let element ← underKey (Decimal.natural index) (decoder dialect value)
      .ok (element :: (← elementsFrom decoder dialect (index + 1) rest))

def list {α : Type} (decoder : Decoder α) : Decoder (List α)
  | dialect, .array values => elementsFrom decoder dialect 0 values
  | _, value => refuseType value "a sequence"

def chosen {α : Type} (options : List (String × α)) (name : String) : Except Fault α :=
  match options.lookup name with
  | some value => .ok value
  | none => refuse (.unknownVariant name (options.map Prod.fst))

/-- One of several names, as a string or as the key of a null. -/
def choice {α : Type} (label : String) (options : List (String × α)) : Decoder α
  | _, .string name => chosen options name
  | .request, .object [(name, content)] => do
      let value ← chosen options name
      underKey name (unit .request content)
      .ok value
  | .request, .object _ => refuse (.wrongValue .map "map with a single key")
  | .request, value => refuseType value "string or map"
  | .settings, .object ((name, content) :: _) => do
      let value ← underKey name (chosen options name)
      underKey name (unit .settings content)
      .ok value
  | .settings, .object [] => refuse (.wrongType .map "enum")
  | .settings, value => refuseType value ("enum " ++ label)

end Decoder

inductive Presence where
  /-- Its absence is a fault. -/
  | required
  /-- It may be absent from an object, but an array must reach it. -/
  | nullable
  /-- It keeps its initial value. -/
  | defaulted
deriving DecidableEq, Repr

structure Member (α : Type) where
  name : String
  presence : Presence
  read : Dialect -> Json -> α -> Except Fault α

def Member.of {α β : Type} (name : String) (presence : Presence) (decoder : Decoder β)
    (put : β -> α -> α) : Member α where
  name := name
  presence := presence
  read := fun dialect value record => do
    .ok (put (← underKey name (decoder dialect value)) record)

/-- How a record is decoded. `closed` records refuse members they do not know. -/
structure Shape (α : Type) where
  label : String
  closed : Bool
  initial : α
  members : List (Member α)

namespace Shape

variable {α : Type}

def lengthText (shape : Shape α) : String :=
  let count := shape.members.length
  "struct " ++ shape.label ++ " with " ++ Decimal.natural count ++
    (if count = 1 then " element" else " elements")

def readMembers (shape : Shape α) (dialect : Dialect) :
    List (String × Json) -> α -> Except Fault α
  | [], record => .ok record
  | (key, value) :: rest, record =>
      match shape.members.find? fun known => known.name == key with
      | some known => do readMembers shape dialect rest (← known.read dialect value record)
      | none =>
          if shape.closed then
            .error ⟨[key], .unknownField key (shape.members.map Member.name)⟩
          else
            readMembers shape dialect rest record

def missing (shape : Shape α) (given : List (String × Json)) : Option String :=
  (shape.members.find? fun known =>
    known.presence == .required && !(given.any fun entry => entry.1 == known.name)).map Member.name

def readElements (shape : Shape α) (dialect : Dialect) :
    Nat -> List (Member α) -> List Json -> α -> Except Fault α
  | _, [], _, record => .ok record
  | index, known :: members, [], record =>
      if known.presence = .defaulted then readElements shape dialect (index + 1) members [] record
      else refuse (.wrongLength index shape.lengthText)
  | index, known :: members, value :: values, record => do
      readElements shape dialect (index + 1) members values (← known.read dialect value record)

def decode (shape : Shape α) : Decoder α
  | dialect, .object given => do
      let record ← readMembers shape dialect given shape.initial
      match shape.missing given with
      | some field => refuse (.missingField field)
      | none => .ok record
  | dialect, .array values => do
      let record ← readElements shape dialect 0 shape.members values shape.initial
      if dialect = .request ∧ shape.members.length < values.length then
        refuse (.wrongLength values.length "fewer elements in array")
      else
        .ok record
  | _, value => refuseType value ("struct " ++ shape.label)

end Shape
end GatedResources
