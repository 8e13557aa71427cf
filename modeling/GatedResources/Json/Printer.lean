import GatedResources.Json.Value
import GatedResources.Number.Decimal

/-!
# Writing JSON

Compact text has no spaces. Indented text puts each element and member on its own line.
Only quotes, backslashes and control characters are escaped.
-/

namespace GatedResources
namespace Json

def hexDigit (digit : Nat) : Char :=
  if digit < 10 then Char.ofNat (48 + digit) else Char.ofNat (87 + digit)

def escaped (symbol : Char) : List Char :=
  match symbol with
  | '"' => ['\\', '"']
  | '\\' => ['\\', '\\']
  | '\n' => ['\\', 'n']
  | '\r' => ['\\', 'r']
  | '\t' => ['\\', 't']
  | '\x08' => ['\\', 'b']
  | '\x0c' => ['\\', 'f']
  | _ =>
      if symbol.toNat < 32 then
        ['\\', 'u', '0', '0', hexDigit (symbol.toNat / 16), hexDigit (symbol.toNat % 16)]
      else
        [symbol]

def quotedSymbols (text : String) : List Char :=
  '"' :: text.toList.flatMap escaped ++ ['"']

/-- The text of a number. What is beyond all doubles has none and is written as null. -/
def numberText : Number -> String
  | .integer value => Decimal.integer value
  | .float value => Decimal.floatText value
  | .signedZero => "0"
  | .infinite _ => "null"

mutual

def compactSymbols : Json -> List Char
  | .null => ['n', 'u', 'l', 'l']
  | .bool true => ['t', 'r', 'u', 'e']
  | .bool false => ['f', 'a', 'l', 's', 'e']
  | .number value => (numberText value).toList
  | .string text => quotedSymbols text
  | .array elements => '[' :: compactElements elements ++ [']']
  | .object members => '{' :: compactMembers members ++ ['}']

def compactElements : List Json -> List Char
  | [] => []
  | [element] => compactSymbols element
  | element :: next :: rest => compactSymbols element ++ ',' :: compactElements (next :: rest)

def compactMembers : List (String × Json) -> List Char
  | [] => []
  | [(key, value)] => quotedSymbols key ++ ':' :: compactSymbols value
  | (key, value) :: next :: rest =>
      quotedSymbols key ++ ':' :: compactSymbols value ++ ',' :: compactMembers (next :: rest)

end

def compact (value : Json) : String :=
  String.ofList (compactSymbols value)

def lineBreak (level : Nat) : List Char :=
  '\n' :: List.replicate (2 * level) ' '

mutual

def indentedSymbols (level : Nat) : Json -> List Char
  | .array [] => ['[', ']']
  | .array (element :: rest) =>
      '[' :: indentedElements (level + 1) (element :: rest) ++ lineBreak level ++ [']']
  | .object [] => ['{', '}']
  | .object (entry :: rest) =>
      '{' :: indentedMembers (level + 1) (entry :: rest) ++ lineBreak level ++ ['}']
  | .null => ['n', 'u', 'l', 'l']
  | .bool value => (if value then "true" else "false").toList
  | .number value => (numberText value).toList
  | .string text => quotedSymbols text

def indentedElements (level : Nat) : List Json -> List Char
  | [] => []
  | [element] => lineBreak level ++ indentedSymbols level element
  | element :: next :: rest =>
      lineBreak level ++ indentedSymbols level element ++
        ',' :: indentedElements level (next :: rest)

def indentedMembers (level : Nat) : List (String × Json) -> List Char
  | [] => []
  | [(key, value)] =>
      lineBreak level ++ quotedSymbols key ++ [':', ' '] ++ indentedSymbols level value
  | (key, value) :: next :: rest =>
      lineBreak level ++ quotedSymbols key ++ [':', ' '] ++ indentedSymbols level value ++
        ',' :: indentedMembers level (next :: rest)

end

def indented (value : Json) : String :=
  String.ofList (indentedSymbols 0 value)

end Json
end GatedResources
