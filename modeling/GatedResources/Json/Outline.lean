import GatedResources.Json.Parser
import GatedResources.Text.Utf8

/-!
# The outline of JSON

An outline is read by the grammar alone. Strings and numbers stay as they are written, so
neither broken UTF-8 nor an unpaired surrogate nor a number too large stands in the way, and
containers may be nested to any depth. What the parts mean is asked afterwards, part by part:
`Outline.value?` is the strict meaning, and `Outline.yields` says whether a reader that needs
a meaning and finds none can at least go on behind it.

An outline is made of bytes. Characters stand for the bytes of their number.
-/

namespace GatedResources
namespace Json

inductive Outline where
  | null
  | bool (value : Bool)
  | number (written : WrittenNumber)
  | string (written : List Char)
  | array (elements : List Outline)
  | object (members : List (List Char × Outline))

def ofBytes (bytes : List UInt8) : List Char :=
  bytes.map fun byte => Char.ofNat byte.toNat

def toBytes (octets : List Char) : List UInt8 :=
  octets.map fun octet => UInt8.ofNat octet.toNat

def readWrittenText : List Char -> Option (List Char × List Char)
  | [] => none
  | '"' :: rest => some ([], rest)
  | '\\' :: 'u' :: first :: second :: third :: fourth :: rest =>
      let digits := [first, second, third, fourth]
      if digits.all fun digit => (hexValue digit).isSome then
        (readWrittenText rest).map fun read => ('\\' :: 'u' :: digits ++ read.1, read.2)
      else
        none
  | '\\' :: mark :: rest =>
      if ['"', '\\', '/', 'b', 'f', 'n', 'r', 't'].contains mark then
        (readWrittenText rest).map fun read => ('\\' :: mark :: read.1, read.2)
      else
        none
  | octet :: rest =>
      if octet.toNat < 32 || octet == '\\' then
        none
      else
        (readWrittenText rest).map fun read => (octet :: read.1, read.2)

mutual

def readOutline : Nat -> List Char -> Option (Outline × List Char)
  | 0, _ => none
  | fuel + 1, input =>
      match skipBlanks input with
      | '"' :: rest => do
          let (written, rest) ← readWrittenText rest
          some (.string written, rest)
      | '[' :: rest =>
          match skipBlanks rest with
          | ']' :: rest => some (.array [], rest)
          | rest => do
              let (elements, rest) ← outlineElements fuel rest
              some (.array elements, rest)
      | '{' :: rest =>
          match skipBlanks rest with
          | '}' :: rest => some (.object [], rest)
          | rest => do
              let (members, rest) ← outlineMembers fuel rest
              some (.object members, rest)
      | 'n' :: rest => do some (.null, ← readWord ['u', 'l', 'l'] rest)
      | 't' :: rest => do some (.bool true, ← readWord ['r', 'u', 'e'] rest)
      | 'f' :: rest => do some (.bool false, ← readWord ['a', 'l', 's', 'e'] rest)
      | rest => do
          let (written, rest) ← readWrittenNumber rest
          some (.number written, rest)

def outlineElements : Nat -> List Char -> Option (List Outline × List Char)
  | 0, _ => none
  | fuel + 1, input => do
      let (element, rest) ← readOutline fuel input
      match skipBlanks rest with
      | ',' :: rest => do
          let (elements, rest) ← outlineElements fuel rest
          some (element :: elements, rest)
      | ']' :: rest => some ([element], rest)
      | _ => none

def outlineMembers : Nat -> List Char -> Option (List (List Char × Outline) × List Char)
  | 0, _ => none
  | fuel + 1, input =>
      match skipBlanks input with
      | '"' :: rest => do
          let (key, rest) ← readWrittenText rest
          match skipBlanks rest with
          | ':' :: rest => do
              let (value, rest) ← readOutline fuel rest
              match skipBlanks rest with
              | ',' :: rest => do
                  let (members, rest) ← outlineMembers fuel rest
                  some ((key, value) :: members, rest)
              | '}' :: rest => some ([(key, value)], rest)
              | _ => none
          | _ => none
      | _ => none

end

def outline (bytes : List UInt8) : Option Outline := do
  let input := ofBytes bytes
  let (outline, rest) ← readOutline (fuelFor input) input
  if (skipBlanks rest).isEmpty then some outline else none

namespace Outline

/-- The text that a written string means; `none` for broken UTF-8 and unpaired surrogates. -/
def text? (written : List Char) : Option String := do
  let symbols ← Utf8.decode (toBytes written)
  match readStringBody (symbols ++ ['"']) with
  | some (text, []) => some text
  | _ => none

/-- The value that an outline means, with at most `depth` containers within each other. -/
def value? : Nat -> Outline -> Option Json
  | _, .null => some .null
  | _, .bool value => some (.bool value)
  | _, .number written => written.value?.map Json.number
  | _, .string written => (text? written).map Json.string
  | 0, .array _ => none
  | 0, .object _ => none
  | depth + 1, .array elements => (elements.mapM (value? depth)).map Json.array
  | depth + 1, .object members =>
      let pair (member : List Char × Outline) : Option (String × Json) := do
        some (← text? member.1, ← value? depth member.2)
      (members.mapM pair).map Json.object

def hasSoundEscapes (written : List Char) : Bool :=
  match readStringBody (written ++ ['"']) with
  | some (_, []) => true
  | _ => false

def isHighSurrogate : List Char -> Bool
  | ['\\', 'u', first, second, _, _] =>
      (first == 'd' || first == 'D') && ['8', '9', 'a', 'b', 'A', 'B'].contains second
  | _ => false

/-- Whether a reader of texts stands behind the closing quote in the end, whether or not there
is a text: broken UTF-8 shows there only, and a missing second surrogate is looked for there. -/
def closes (written : List Char) : Bool :=
  let front := written.take (written.length - 6)
  hasSoundEscapes written ||
    (hasSoundEscapes front && isHighSurrogate (written.drop front.length))

def yields : Nat -> Outline -> Bool
  | _, .null => true
  | _, .bool _ => true
  | _, .number _ => true
  | _, .string written => closes written
  | 0, .array _ => false
  | 0, .object _ => false
  | depth + 1, .array elements =>
      elements.dropLast.all (fun element => (value? depth element).isSome) &&
        elements.getLast?.all (yields depth)
  | depth + 1, .object members =>
      members.all (fun member => (text? member.1).isSome) &&
        members.dropLast.all (fun member => (value? depth member.2).isSome) &&
        members.getLast?.all (fun member => yields depth member.2)

end Outline
end Json
end GatedResources
