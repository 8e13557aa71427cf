import GatedResources.Number.Binary64

/-!
# JSON values

Objects are lists of members. `Json.sorted` brings a value to the form the rest of the
library works on: keys ascending by code point, each at most once.
-/

namespace GatedResources

/-- A number: whole numbers of 64 bits are kept exactly, all others as doubles. JSON text has
only these two; values that settings are given in one line can also be the other two. -/
inductive Number where
  | integer (value : Int)
  | float (value : Binary64)
  /-- The whole number zero with a minus sign. -/
  | signedZero
  /-- A double beyond the finite range. -/
  | infinite (negative : Bool)
deriving DecidableEq, Repr

def Number.whole? : Number -> Option Int
  | .integer value => some value
  | .signedZero => some 0
  | .float _ | .infinite _ => none

inductive Json where
  | null
  | bool (value : Bool)
  | number (value : Number)
  | string (value : String)
  | array (elements : List Json)
  | object (members : List (String × Json))
deriving Repr

namespace Json

mutual

def decideEqual (left right : Json) : Decidable (left = right) :=
  match left, right with
  | .null, .null => isTrue rfl
  | .bool first, .bool second =>
      if same : first = second then isTrue (by rw [same])
      else isFalse (by simpa using same)
  | .number first, .number second =>
      if same : first = second then isTrue (by rw [same])
      else isFalse (by simpa using same)
  | .string first, .string second =>
      if same : first = second then isTrue (by rw [same])
      else isFalse (by simpa using same)
  | .array first, .array second =>
      match decideElementsEqual first second with
      | isTrue same => isTrue (by rw [same])
      | isFalse differ => isFalse (by simpa using differ)
  | .object first, .object second =>
      match decideMembersEqual first second with
      | isTrue same => isTrue (by rw [same])
      | isFalse differ => isFalse (by simpa using differ)
  | .null, .bool _ | .null, .number _ | .null, .string _ | .null, .array _ | .null, .object _
  | .bool _, .null | .bool _, .number _ | .bool _, .string _ | .bool _, .array _
  | .bool _, .object _ | .number _, .null | .number _, .bool _ | .number _, .string _
  | .number _, .array _ | .number _, .object _ | .string _, .null | .string _, .bool _
  | .string _, .number _ | .string _, .array _ | .string _, .object _ | .array _, .null
  | .array _, .bool _ | .array _, .number _ | .array _, .string _ | .array _, .object _
  | .object _, .null | .object _, .bool _ | .object _, .number _ | .object _, .string _
  | .object _, .array _ => isFalse (by simp)

def decideElementsEqual (left right : List Json) : Decidable (left = right) :=
  match left, right with
  | [], [] => isTrue rfl
  | [], _ :: _ => isFalse (by simp)
  | _ :: _, [] => isFalse (by simp)
  | first :: firsts, second :: seconds =>
      match decideEqual first second, decideElementsEqual firsts seconds with
      | isTrue same, isTrue rest => isTrue (by rw [same, rest])
      | isFalse differ, _ => isFalse (by simp [differ])
      | _, isFalse differ => isFalse (by simp [differ])

def decideMembersEqual (left right : List (String × Json)) : Decidable (left = right) :=
  match left, right with
  | [], [] => isTrue rfl
  | [], _ :: _ => isFalse (by simp)
  | _ :: _, [] => isFalse (by simp)
  | (key, first) :: firsts, (name, second) :: seconds =>
      if sameKey : key = name then
        match decideEqual first second, decideMembersEqual firsts seconds with
        | isTrue same, isTrue rest => isTrue (by rw [sameKey, same, rest])
        | isFalse differ, _ => isFalse (by simp [differ])
        | _, isFalse differ => isFalse (by simp [differ])
      else isFalse (by simp [sameKey])

end

instance : DecidableEq Json := decideEqual

instance : Inhabited Json := ⟨.null⟩

def integer (value : Int) : Json :=
  .number (.integer value)

def natural (value : Nat) : Json :=
  .number (.integer value)

def optionalString : Option String -> Json
  | some text => .string text
  | none => .null

def optionalNatural : Option Nat -> Json
  | some value => .natural value
  | none => .null

def strings (texts : List String) : Json :=
  .array (texts.map .string)

def isNull : Json -> Bool
  | .null => true
  | _ => false

def isString : Json -> Bool
  | .string _ => true
  | _ => false

def isListOfStrings : Json -> Bool
  | .array elements => elements.all isString
  | _ => false

def asString : Json -> Option String
  | .string text => some text
  | _ => none

def asArray : Json -> Option (List Json)
  | .array elements => some elements
  | _ => none

def lookup (key : String) : List (String × Json) -> Option Json
  | [] => none
  | (name, value) :: rest => if name = key then some value else lookup key rest

/-- The member of an object; `none` for other values. -/
def member (key : String) : Json -> Option Json
  | .object members => lookup key members
  | _ => none

def insertMember (key : String) (value : Json) : List (String × Json) -> List (String × Json)
  | [] => [(key, value)]
  | (name, held) :: rest =>
      if key < name then (key, value) :: (name, held) :: rest
      else if key = name then (key, value) :: rest
      else (name, held) :: insertMember key value rest

/-- Members in ascending key order; of several with one key the last stays. -/
def sortMembers (members : List (String × Json)) : List (String × Json) :=
  members.foldl (fun sorted entry => insertMember entry.1 entry.2 sorted) []

mutual

/-- The same value with all objects in ascending key order, without duplicates. -/
def sorted : Json -> Json
  | .array elements => .array (sortedElements elements)
  | .object members => .object (sortMembers (sortedMembers members))
  | value => value

def sortedElements : List Json -> List Json
  | [] => []
  | element :: rest => sorted element :: sortedElements rest

def sortedMembers : List (String × Json) -> List (String × Json)
  | [] => []
  | (key, value) :: rest => (key, sorted value) :: sortedMembers rest

end

end Json
end GatedResources
