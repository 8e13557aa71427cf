import GatedResources.Graph.Envelope

/-!
# Reading requests from text

A request is decoded while its text is read, so the first thing that is wrong is reported,
whether it is the text or what the text says.
-/

namespace GatedResources
namespace GraphRequest

inductive TextFault where
  /-- The text is not JSON. -/
  | malformed
  /-- The text is JSON so far, but not of a request. -/
  | refused (path : String) (cause : Cause)
deriving DecidableEq, Repr

namespace TextFault

def message : TextFault -> String
  | .malformed => "Failed to parse the request body as JSON"
  | .refused path cause =>
      "Failed to deserialize the JSON body into the target type: " ++
        (if path.isEmpty then "" else path ++ ": ") ++ cause.requestMessage

end TextFault

def wellFormed {α : Type} (reading : Option (α × List Char)) : Except TextFault (α × List Char) :=
  match reading with
  | some answer => .ok answer
  | none => .error .malformed

/-- The fault that the value which stands next is not the expected one. Arrays and objects
are recognized by their first character. -/
def unexpected (path expected : String) (input : List Char) : TextFault :=
  let refused (found : Found) : TextFault := .refused path (.wrongType found expected)
  match Json.skipBlanks input with
  | '[' :: _ => refused .sequence
  | '{' :: _ => refused .map
  | rest =>
      match Json.readJson 0 rest with
      | some (value, _) => refused (Found.of value)
      | none => .malformed

def readText (path expected : String) (input : List Char) : Except TextFault (String × List Char) :=
  match Json.skipBlanks input with
  | '"' :: rest => wellFormed (Json.readStringBody rest)
  | _ => .error (unexpected path expected input)

def readMark (mark : Char) (input : List Char) : Except TextFault (List Char) :=
  match Json.skipBlanks input with
  | symbol :: rest => if symbol = mark then .ok rest else .error .malformed
  | [] => .error .malformed

def rootType (path name : String) : Except TextFault RootType :=
  match Decoder.chosen [("query", RootType.query), ("mutation", .mutation)] name with
  | .ok type => .ok type
  | .error fault => .error (.refused path fault.cause)

/-- Reads a root type: its name, or an object with its name and null. -/
def readType (path : String) (input : List Char) : Except TextFault (RootType × List Char) :=
  match Json.skipBlanks input with
  | '"' :: rest => do
      let (name, rest) ← wellFormed (Json.readStringBody rest)
      .ok (← rootType path name, rest)
  | '{' :: rest => do
      let (name, rest) ← readText path "variant identifier" rest
      let type ← rootType path name
      let rest ← readMark ':' rest
      let inner := path ++ "." ++ name
      match Json.skipBlanks rest with
      | 'n' :: rest =>
          match Json.readWord ['u', 'l', 'l'] rest with
          | some rest => do .ok (type, ← readMark '}' rest)
          | none => .error .malformed
      | rest => .error (unexpected inner "unit" rest)
  | _ => .error .malformed

def readArguments (input : List Char) : Except TextFault (Json × List Char) := do
  let (value, rest) ← wellFormed (Json.readJson (Json.greatestDepth - 1) input)
  .ok (value.sorted, rest)

structure Draft where
  type : Option RootType
  field : Option String
  arguments : Option Json

namespace Draft

def empty : Draft := ⟨none, none, none⟩

def finish (draft : Draft) : Except TextFault GraphRequest :=
  match draft.type, draft.field with
  | none, _ => .error (.refused "" (.missingField "kind"))
  | some _, none => .error (.refused "" (.missingField "field"))
  | some type, some field => .ok ⟨type, field, draft.arguments.getD .null⟩

def has (draft : Draft) (key : String) : Bool :=
  match key with
  | "kind" => draft.type.isSome
  | "field" => draft.field.isSome
  | _ => draft.arguments.isSome

def readMember (draft : Draft) (key path : String) (input : List Char) :
    Except TextFault (Draft × List Char) :=
  match key with
  | "kind" => do
      let (type, rest) ← readType path input
      .ok ({ draft with type := some type }, rest)
  | "field" => do
      let (field, rest) ← readText path "a string" input
      .ok ({ draft with field := some field }, rest)
  | _ => do
      let (arguments, rest) ← readArguments input
      .ok ({ draft with arguments := some arguments }, rest)

end Draft

def readMembers (draft : Draft) : Nat -> List Char -> Except TextFault (Draft × List Char)
  | 0, _ => .error .malformed
  | fuel + 1, input => do
      let rest ← readMark '"' input
      let (key, rest) ← wellFormed (Json.readStringBody rest)
      if !memberNames.contains key then
        .error (.refused key (.unknownField key memberNames))
      else if draft.has key then
        .error (.refused "" (.duplicateField key))
      else
        let rest ← readMark ':' rest
        let (draft, rest) ← draft.readMember key key rest
        match Json.skipBlanks rest with
        | ',' :: rest => readMembers draft fuel rest
        | '}' :: rest => .ok (draft, rest)
        | _ => .error .malformed

def tooShort (length : Nat) : TextFault :=
  .refused "" (.wrongLength length shape.lengthText)

def readElements (draft : Draft) (index : Nat) :
    List String -> List Char -> Except TextFault (Draft × List Char)
  | [], input => do .ok (draft, ← readMark ']' input)
  | key :: keys, input => do
      let continues : Option (List Char) ←
        match Json.skipBlanks input, index with
        | ']' :: _, _ => .ok none
        | rest, 0 => .ok (some rest)
        | ',' :: rest, _ =>
            match Json.skipBlanks rest with
            | ']' :: _ => .error .malformed
            | rest => .ok (some rest)
        | _, _ => .error .malformed
      match continues with
      | none =>
          if key = "args" then .ok (draft, ← readMark ']' input) else .error (tooShort index)
      | some rest => do
          let (draft, rest) ← draft.readMember key ("[" ++ Decimal.natural index ++ "]") rest
          readElements draft (index + 1) keys rest

def readDraft (input : List Char) : Except TextFault (Draft × List Char) :=
  match Json.skipBlanks input with
  | '{' :: rest =>
      match Json.skipBlanks rest with
      | '}' :: rest => .ok (Draft.empty, rest)
      | rest => readMembers Draft.empty (rest.length + 1) rest
  | '[' :: rest => readElements Draft.empty 0 memberNames rest
  | _ => .error (unexpected "" "struct GraphRequest" input)

def ofText (text : String) : Except TextFault GraphRequest := do
  let (draft, rest) ← readDraft text.toList
  let request ← draft.finish
  if (Json.skipBlanks rest).isEmpty then .ok request else .error .malformed

end GraphRequest
end GatedResources
