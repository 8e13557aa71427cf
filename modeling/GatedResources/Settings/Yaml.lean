import GatedResources.Json.Parser
import GatedResources.Number.Numeral
import GatedResources.Text.Integer
import GatedResources.Text.Trim

/-!
# Settings files

The part of YAML that settings are written in: mappings and sequences in block style by
indentation or in flow style within one line, plain and quoted scalars, comments. A text
outside of it is malformed, for which readers answer `none`. Left out are block scalars, flow
collections and plain scalars over several lines, keys after `?`, anchors and aliases, tags,
directives and a second document; a whole number that 64 bits do not hold is a double, and
`.nan` a text.
-/

namespace GatedResources
namespace Yaml

/-- A line that holds something: how far it is indented, and its content from there on. -/
structure Line where
  indent : Nat
  content : List Char
deriving DecidableEq, Repr

def isBlank (symbol : Char) : Bool :=
  symbol == ' ' || symbol == '\t'

def skipBlanks (input : List Char) : List Char :=
  input.dropWhile isBlank

def isFinished (input : List Char) : Bool :=
  match input with
  | [] => true
  | symbol :: _ =>
      match skipBlanks input with
      | [] => true
      | mark :: _ => mark == '#' && isBlank symbol

/-- The lines of a text that hold something. Tabs do not indent. -/
def lines (text : String) : Option (List Line) :=
  let physical := (Trim.splitAll '\n' text.toList).map (Trim.both (· == '\r'))
  let held := physical.filter fun line => !isFinished (' ' :: line) && line != "---".toList
  held.mapM fun line =>
    let content := line.dropWhile (· == ' ')
    if content.head? == some '\t' then none else some ⟨line.length - content.length, content⟩

inductive Scalar where
  | plain (text : List Char)
  | quoted (text : List Char)
deriving DecidableEq, Repr

namespace Scalar

def text : Scalar -> String
  | .plain symbols | .quoted symbols => String.ofList symbols

def inBase? (base : Nat) (digits : List Char) : Option Nat :=
  if digits.isEmpty then
    none
  else
    digits.foldlM (fun value digit => do
      let next ← Json.hexValue digit
      if next < base then some (value * base + next) else none) 0

/-- The value of a whole number without its sign. Other bases have a mark. With leading zeros it
is a text. -/
def magnitude? : List Char -> Option Nat
  | '0' :: 'x' :: digits => inBase? 16 digits
  | '0' :: 'o' :: digits => inBase? 8 digits
  | '0' :: 'b' :: digits => inBase? 2 digits
  | '0' :: _ :: _ => none
  | digits => if digits.all Decimal.isDigit then inBase? 10 digits else none

def integer? (symbols : List Char) : Option Int := do
  let (negative, unsigned) := Numeral.splitSign symbols
  let value ← magnitude? unsigned
  if negative then
    if value ≤ Nat.pow 2 63 then some (-(value : Int)) else none
  else if value < Nat.pow 2 64 then
    some value
  else
    none

def hasLeadingZero (symbols : List Char) : Bool :=
  let (_, digits) := Numeral.splitSign symbols
  digits.all Decimal.isDigit && 1 < digits.length && digits.head? == some '0'

def float? (symbols : List Char) : Option Number :=
  let (negative, unsigned) := Numeral.splitSign symbols
  if [".inf", ".Inf", ".INF"].contains (String.ofList unsigned) then
    some (.infinite negative)
  else if hasLeadingZero symbols then
    none
  else
    (Numeral.parse symbols >>= Numeral.toBinary64).map .float

def plainValue (symbols : List Char) : Json :=
  let text := String.ofList symbols
  if ["", "~", "null", "Null", "NULL"].contains text then .null
  else if ["true", "True", "TRUE"].contains text then .bool true
  else if ["false", "False", "FALSE"].contains text then .bool false
  else
    match integer? symbols with
    | some value => .integer value
    | none =>
        match float? symbols with
        | some number => .number number
        | none => .string text

def value : Scalar -> Json
  | .plain symbols => plainValue symbols
  | .quoted symbols => .string (String.ofList symbols)

end Scalar

def isFlowMark (symbol : Char) : Bool :=
  symbol == ',' || symbol == '[' || symbol == ']' || symbol == '{' || symbol == '}'

def endsPlain (flow : Bool) : List Char -> Bool
  | [] => true
  | ':' :: rest =>
      match rest with
      | [] => true
      | next :: _ => isBlank next || (flow && isFlowMark next)
  | symbol :: rest =>
      (flow && isFlowMark symbol) || (isBlank symbol && (skipBlanks rest).head? == some '#')

def splitPlain (flow : Bool) : List Char -> List Char × List Char
  | [] => ([], [])
  | symbol :: rest =>
      if endsPlain flow (symbol :: rest) then
        ([], symbol :: rest)
      else
        let (taken, left) := splitPlain flow rest
        (symbol :: taken, left)

def startsPlain (flow : Bool) : List Char -> Bool
  | [] => false
  | symbol :: rest =>
      if symbol == '-' || symbol == '?' || symbol == ':' then
        match rest with
        | [] => false
        | next :: _ => !isBlank next && !(flow && isFlowMark next)
      else
        !isFlowMark symbol && !("#&*!|>'\"%@\x60".toList.contains symbol)

def isBreak (symbol : Char) : Bool :=
  symbol == '\n' || symbol == '\r' || symbol == '\u0085' || symbol == '\u2028' || symbol == '\u2029'

/-- What the end of a line within quotes is read as, unless it is the only one. -/
def keptBreak (symbol : Char) : Char :=
  if symbol == '\u2028' || symbol == '\u2029' then symbol else '\n'

/-- What blanks and ends of lines within quotes stand for. Blanks beside the end of a line are
dropped; the first end of a line is a space, or nothing before further ones, unless it is one
that is kept. -/
def foldBreaks (gap : List Char) : List Char :=
  match gap.filter isBreak with
  | [] => gap
  | first :: later =>
      if keptBreak first ≠ '\n' then first :: later.map keptBreak
      else if later.isEmpty then [' ']
      else later.map keptBreak

def isDocumentMark (line : List Char) : Bool :=
  (line.take 3 == ['-', '-', '-'] || line.take 3 == ['.', '.', '.']) &&
    (line.drop 3).head?.all fun symbol => isBlank symbol || isBreak symbol

def leadsToMark (gap rest : List Char) : Bool :=
  gap.getLast?.any isBreak && isDocumentMark rest

def readGap (input : List Char) : Option (List Char × List Char) :=
  let inGap := fun symbol => isBlank symbol || isBreak symbol
  let gap := input.takeWhile inGap
  let rest := input.dropWhile inGap
  if leadsToMark gap rest then none else some (foldBreaks gap, rest)

/-- Reads single-quoted text; a quote within it is written twice. The fuel bounds the number of
characters. -/
def readSingleQuoted (held : List Char) : Nat -> List Char -> Option (List Char × List Char)
  | 0, _ | _ + 1, [] => none
  | fuel + 1, '\'' :: '\'' :: rest => readSingleQuoted ('\'' :: held) fuel rest
  | _ + 1, '\'' :: rest => some (held.reverse, rest)
  | fuel + 1, symbol :: rest =>
      if isBlank symbol || isBreak symbol then do
        let (gap, rest) ← readGap (symbol :: rest)
        readSingleQuoted (gap.reverse ++ held) fuel rest
      else
        readSingleQuoted (symbol :: held) fuel rest

def escapes : List (Char × Char) := [
  ('0', '\x00'), ('a', '\x07'), ('b', '\x08'), ('t', '\t'), ('n', '\n'), ('v', '\x0b'),
  ('f', '\x0c'), ('r', '\r'), ('e', '\x1b'), (' ', ' '), ('"', '"'), ('/', '/'), ('\\', '\\'),
  ('N', '\u0085'), ('_', '\u00a0'), ('L', '\u2028'), ('P', '\u2029')]

def readEscape : List Char -> Option (Char × List Char)
  | 'u' :: rest => Json.readUnicodeEscape rest
  | 'x' :: first :: second :: rest => do
      some (Char.ofNat ((← Json.hexValue first) * 16 + (← Json.hexValue second)), rest)
  | symbol :: rest => do some (← escapes.lookup symbol, rest)
  | [] => none

def readDoubleQuoted (held : List Char) : Nat -> List Char -> Option (List Char × List Char)
  | 0, _ => none
  | _ + 1, [] => none
  | _ + 1, '"' :: rest => some (held.reverse, rest)
  | fuel + 1, '\\' :: rest => do
      let (symbol, rest) ← readEscape rest
      readDoubleQuoted (symbol :: held) fuel rest
  | fuel + 1, symbol :: rest =>
      if isBlank symbol || isBreak symbol then do
        let (gap, rest) ← readGap (symbol :: rest)
        readDoubleQuoted (gap.reverse ++ held) fuel rest
      else
        readDoubleQuoted (symbol :: held) fuel rest

def readScalar (flow : Bool) (input : List Char) : Option (Scalar × List Char) :=
  match input with
  | '"' :: rest => do
      let (text, rest) ← readDoubleQuoted [] (rest.length + 1) rest
      some (.quoted text, rest)
  | '\'' :: rest => do
      let (text, rest) ← readSingleQuoted [] (rest.length + 1) rest
      some (.quoted text, rest)
  | _ =>
      if startsPlain flow input then
        let (text, rest) := splitPlain flow input
        some (.plain (Trim.both isBlank text), rest)
      else
        none

/-- The greatest length of a key, with its quotes and the blanks up to its colon. -/
def greatestKeyLength : Nat := 1024

structure Key where
  name : Scalar
  /-- Whether a colon follows, so that a value can. -/
  hasColon : Bool
deriving DecidableEq, Repr

/-- Reads a key and the colon after it, if there is one. With a colon it must be short enough
and within one line. -/
def readKey (flow : Bool) (input : List Char) : Option (Key × List Char) := do
  let (name, rest) ← readScalar flow input
  match skipBlanks rest with
  | ':' :: value =>
      let written := input.take (input.length - value.length - 1)
      if greatestKeyLength < written.length || written.any isBreak then none
      else some (⟨name, true⟩, value)
  | _ => some (⟨name, false⟩, rest)

mutual

def readFlow (flow : Bool) : Nat -> List Char -> Option (Json × List Char)
  | 0, _ => none
  | fuel + 1, input =>
      match skipBlanks input with
      | '[' :: rest => do
          let (elements, rest) ← readElements fuel rest
          some (.array elements, rest)
      | '{' :: rest => do
          let (members, rest) ← readMembers fuel rest
          some (.object members, rest)
      | input => do
          let (scalar, rest) ← readScalar flow input
          some (scalar.value, rest)

/-- Reads elements up to the closing bracket. A comma may stand before it. -/
def readElements : Nat -> List Char -> Option (List Json × List Char)
  | 0, _ => none
  | fuel + 1, input =>
      match skipBlanks input with
      | ']' :: rest => some ([], rest)
      | input => do
          let (element, rest) ← readFlow true fuel input
          match skipBlanks rest with
          | ',' :: rest => do
              let (elements, rest) ← readElements fuel rest
              some (element :: elements, rest)
          | ']' :: rest => some ([element], rest)
          | _ => none

/-- Reads members up to the closing brace. A key may stand without a value, and a comma
before the brace. -/
def readMembers : Nat -> List Char -> Option (List (String × Json) × List Char)
  | 0, _ => none
  | fuel + 1, input =>
      match skipBlanks input with
      | '}' :: rest => some ([], rest)
      | input => do
          let (key, rest) ← readKey true input
          let (value, rest) ←
            if key.hasColon then
              match skipBlanks rest with
              | ',' :: rest => some (.null, ',' :: rest)
              | '}' :: rest => some (.null, '}' :: rest)
              | rest => readFlow true fuel rest
            else
              some (.null, rest)
          match skipBlanks rest with
          | ',' :: rest => do
              let (members, rest) ← readMembers fuel rest
              some ((key.name.text, value) :: members, rest)
          | '}' :: rest => some ([(key.name.text, value)], rest)
          | _ => none

end

def inlineValue (content : List Char) : Option Json := do
  let (value, rest) ← readFlow false (2 * content.length + 2) content
  if isFinished rest then some value else none

def key? (content : List Char) : Option (String × List Char) := do
  let (key, rest) ← readKey false content
  if key.hasColon && (rest.isEmpty || rest.head?.any isBlank) then some (key.name.text, rest)
  else none

def afterDash? : List Char -> Option (List Char)
  | '-' :: rest => if rest.isEmpty || rest.head?.any isBlank then some rest else none
  | _ => none

def isInside (indent : Nat) : List Line -> Bool
  | [] => false
  | line :: _ => indent < line.indent

mutual

def readBlock : Nat -> List Line -> Option (Json × List Line)
  | 0, _ => none
  | _ + 1, [] => none
  | fuel + 1, line :: rest =>
      if (afterDash? line.content).isSome then do
        let (elements, rest) ← readEntries line.indent fuel (line :: rest)
        if isInside line.indent rest then none else some (.array elements, rest)
      else if (key? line.content).isSome then do
        let (members, rest) ← readPairs line.indent fuel (line :: rest)
        if isInside line.indent rest then none else some (.object members, rest)
      else do
        some (← inlineValue line.content, rest)

def readEntries (indent : Nat) : Nat -> List Line -> Option (List Json × List Line)
  | 0, _ => none
  | _ + 1, [] => some ([], [])
  | fuel + 1, line :: rest =>
      if line.indent = indent then
        match afterDash? line.content with
        | none => some ([], line :: rest)
        | some content => do
            let (value, rest) ←
              if isFinished content then
                if isInside indent rest then readBlock fuel rest else some (.null, rest)
              else
                let inner := skipBlanks content
                readBlock fuel (⟨indent + 1 + (content.length - inner.length), inner⟩ :: rest)
            let (values, rest) ← readEntries indent fuel rest
            some (value :: values, rest)
      else
        some ([], line :: rest)

/-- Reads the members of a mapping at an indentation. A sequence below a key may stand at the
same one. -/
def readPairs (indent : Nat) : Nat -> List Line -> Option (List (String × Json) × List Line)
  | 0, _ => none
  | _ + 1, [] => some ([], [])
  | fuel + 1, line :: rest =>
      if line.indent = indent then do
        let (key, content) ← key? line.content
        let (value, rest) ←
          if isFinished content then
            if isInside indent rest then
              readBlock fuel rest
            else if startsEntry rest then do
              let (elements, rest) ← readEntries indent fuel rest
              some (.array elements, rest)
            else
              some (.null, rest)
          else do
            some (← inlineValue content, rest)
        let (members, rest) ← readPairs indent fuel rest
        some ((key, value) :: members, rest)
      else
        some ([], line :: rest)
where
  startsEntry : List Line -> Bool
    | [] => false
    | line :: _ => line.indent == indent && (afterDash? line.content).isSome

end

def isAllowed (symbol : Char) : Bool :=
  let code := symbol.toNat
  code == 9 || code == 10 || code == 13 || (32 ≤ code && code ≤ 126) || code == 0x85 ||
    (0xA0 ≤ code && code != 0xFEFF && code != 0xFFFE && code != 0xFFFF)

/-- The value of a text; nothing is an empty mapping. -/
def parse (text : String) : Option Json := do
  if text.toList.all isAllowed then
    match ← lines text with
    | [] => some (.object [])
    | held =>
        let (value, rest) ← readBlock (2 * text.length + 2) held
        if rest.isEmpty then some value.sorted else none
  else
    none

end Yaml
end GatedResources
