import GatedResources.Json.Parser
import GatedResources.Number.Numeral
import GatedResources.Text.Integer
import GatedResources.Text.Trim

/-!
# Values in one line

The grammar of settings that are given in one line: `true`, numbers, `"quoted"` text,
`[lists]`, `{key = value}` and bare text. A text that does not follow it stands for itself.
-/

namespace GatedResources
namespace InlineValue

inductive Failure where
  /-- The text does not follow the grammar. -/
  | malformed
  /-- Quoted text would have to be cut within a character. -/
  | cutCharacter
deriving DecidableEq, Repr

def orMalformed {α : Type} : Option α -> Except Failure α
  | some value => .ok value
  | none => .error .malformed

def isBlank (symbol : Char) : Bool :=
  Json.isBlank symbol || symbol == '\x0c'

def skipBlanks (input : List Char) : List Char :=
  input.dropWhile isBlank

def isSeparator (symbol : Char) : Bool :=
  symbol == ',' || symbol == '{' || symbol == '}' || symbol == '[' || symbol == ']'

def isKeySymbol (symbol : Char) : Bool :=
  symbol.isAlphanum || symbol == '_' || symbol == '-'

def pointNumber? (symbols : List Char) : Option Number :=
  if symbols.contains '.' then
    (Numeral.parse symbols).map fun numeral =>
      match numeral.toBinary64 with
      | some float => .float float
      | none => .infinite numeral.negative
  else
    none

def wholeNumber? (symbols : List Char) : Option Number :=
  match Integer.parseUnsigned 64 symbols, Integer.parseSigned 64 symbols with
  | .ok value, _ => some (.integer value)
  | .error _, .ok value => some (if value = 0 then .signedZero else .integer value)
  | .error _, .error _ => none

/-- The value of bare text: a number if it reads as one. -/
def bare (symbols : List Char) : Json :=
  match pointNumber? symbols, wholeNumber? symbols with
  | some number, _ | none, some number => .number number
  | none, none => .string (String.ofList symbols)

def readCodePoint (input : List Char) (long : Bool) : Option (Char × List Char) := do
  let (high, rest) ← if long then Json.readCodeUnit input else some (0, input)
  let (low, rest) ← Json.readCodeUnit rest
  let code := high * 0x10000 + low
  if code.isValidChar then some (Char.ofNat code, rest) else none

def readEscape : List Char -> Option (Char × List Char)
  | '"' :: rest => some ('"', rest)
  | '\\' :: rest => some ('\\', rest)
  | 'b' :: rest => some ('\x08', rest)
  | 'f' :: rest => some ('\x0c', rest)
  | 'n' :: rest => some ('\n', rest)
  | 'r' :: rest => some ('\r', rest)
  | 't' :: rest => some ('\t', rest)
  | 'u' :: rest => readCodePoint rest false
  | 'U' :: rest => readCodePoint rest true
  | _ => none

def isQuotable (symbol : Char) : Bool :=
  symbol == '\t' || (32 ≤ symbol.toNat && symbol.toNat != 127)

/-- What stands before the closing quote, and what follows it. A quote after a backslash does
not close. -/
def splitQuoted : List Char -> Option (List Char × List Char)
  | [] => none
  | '"' :: rest => some ([], rest)
  | '\\' :: symbol :: rest =>
      (splitQuoted rest).map fun (content, rest) => ('\\' :: symbol :: content, rest)
  | symbol :: rest => (splitQuoted rest).map fun (content, rest) => (symbol :: content, rest)

/-- The first bytes of a text, unless they end within a character. -/
def firstBytes : Nat -> List Char -> Option (List Char)
  | 0, _ => some []
  | _ + 1, [] => some []
  | count + 1, symbol :: rest =>
      if symbol.utf8Size ≤ count + 1 then
        (firstBytes (count + 1 - symbol.utf8Size) rest).map (symbol :: ·)
      else
        none

def unescape : Nat -> List Char -> Option (List Char)
  | _, [] => some []
  | 0, _ => none
  | fuel + 1, symbol :: rest =>
      if symbol = '\\' then do
        let (value, rest) ← readEscape rest
        some (value :: (← unescape fuel rest))
      else if isQuotable symbol then do
        some (symbol :: (← unescape fuel rest))
      else
        none

/-- The text that the content of quotes stands for. With escapes in it, only so many bytes are
kept before the first one as there are characters. -/
def quotedText (content : List Char) : Except Failure (List Char) := do
  let plain := content.takeWhile (· != '\\')
  let escaped := content.dropWhile (· != '\\')
  if plain.all isQuotable then
    if escaped.isEmpty then
      return plain
    else
      match firstBytes plain.length plain with
      | none => .error .cutCharacter
      | some kept => return kept ++ (← orMalformed (unescape escaped.length escaped))
  else
    .error .malformed

def readQuoted (input : List Char) : Except Failure (String × List Char) := do
  let (content, rest) ← orMalformed (splitQuoted input)
  return (String.ofList (← quotedText content), rest)

def readKey (input : List Char) : Except Failure (String × List Char) := do
  let input := skipBlanks input
  let (key, rest) ←
    match input with
    | '"' :: rest => readQuoted rest
    | _ =>
        let key := input.takeWhile isKeySymbol
        if key.isEmpty then .error .malformed
        else .ok (String.ofList key, input.dropWhile isKeySymbol)
  match skipBlanks rest with
  | '=' :: rest => return (key, rest)
  | _ => .error .malformed

mutual

def readValue : Nat -> List Char -> Except Failure (Json × List Char)
  | 0, _ => .error .malformed
  | fuel + 1, input => do
      let input := skipBlanks input
      let (value, rest) ←
        match input with
        | '{' :: rest => do
            let (members, rest) ← readMembers fuel rest
            .ok (.object members, rest)
        | '[' :: rest => do
            let (elements, rest) ← readElements fuel rest
            .ok (.array elements, rest)
        | '"' :: rest => do
            let (text, rest) ← readQuoted rest
            .ok (.string text, rest)
        | '\'' :: symbol :: '\'' :: rest => .ok (.string (String.singleton symbol), rest)
        | '\'' :: _ => .error .malformed
        | _ =>
            match Json.readWord "true".toList input, Json.readWord "false".toList input with
            | some rest, _ => .ok (.bool true, rest)
            | none, some rest => .ok (.bool false, rest)
            | none, none =>
                .ok (bare (Trim.spaces (input.takeWhile fun symbol => !isSeparator symbol)),
                  input.dropWhile fun symbol => !isSeparator symbol)
      return (value, skipBlanks rest)

/-- Reads elements up to the closing bracket. A comma may stand before it. -/
def readElements : Nat -> List Char -> Except Failure (List Json × List Char)
  | 0, _ => .error .malformed
  | _ + 1, ']' :: rest => .ok ([], rest)
  | fuel + 1, input => do
      let (element, rest) ← readValue fuel input
      match rest with
      | ',' :: rest => do
          let (elements, rest) ← readElements fuel rest
          return (element :: elements, rest)
      | ']' :: rest => return ([element], rest)
      | _ => .error .malformed

/-- Reads members up to the closing brace. A comma may stand before it. -/
def readMembers : Nat -> List Char -> Except Failure (List (String × Json) × List Char)
  | 0, _ => .error .malformed
  | _ + 1, '}' :: rest => .ok ([], rest)
  | fuel + 1, input => do
      let (key, rest) ← readKey input
      let (value, rest) ← readValue fuel rest
      match rest with
      | ',' :: rest => do
          let (members, rest) ← readMembers fuel rest
          return ((key, value) :: members, rest)
      | '}' :: rest => return ([(key, value)], rest)
      | _ => .error .malformed

end

/-- The value of a text; `none` where quoted text would be cut within a character. -/
def parse (text : String) : Option Json :=
  let symbols := text.toList
  match readValue (2 * symbols.length + 2) symbols with
  | .ok (value, []) => some value.sorted
  | .ok (_, _ :: _) | .error .malformed => some (.string text)
  | .error .cutCharacter => none

end InlineValue
end GatedResources
