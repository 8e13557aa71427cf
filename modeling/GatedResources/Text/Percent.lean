import GatedResources.Json.Parser
import GatedResources.Text.Trim
import GatedResources.Text.Utf8

/-!
# Percent encoding and form data
-/

namespace GatedResources
namespace Percent

def escapedByte (first second : Char) : Option UInt8 := do
  some (UInt8.ofNat ((← Json.hexValue first) * 16 + (← Json.hexValue second)))

/-- The bytes of a text with its escapes resolved. What is no escape stands for itself. -/
def decode : List Char -> List UInt8
  | '%' :: first :: second :: rest =>
      match escapedByte first second with
      | some byte => byte :: decode rest
      | none => String.utf8EncodeChar '%' ++ decode (first :: second :: rest)
  | symbol :: rest => String.utf8EncodeChar symbol ++ decode rest
  | [] => []

def decodeForm (symbols : List Char) : String :=
  String.ofList (Utf8.decodeLenient (decode (symbols.map fun symbol =>
    if symbol = '+' then ' ' else symbol)))

def formPairs (text : String) : List (String × String) :=
  ((Trim.splitAll '&' text.toList).filter fun part => !part.isEmpty).map fun part =>
    (decodeForm (part.takeWhile (· != '=')), decodeForm ((part.dropWhile (· != '=')).drop 1))

end Percent
end GatedResources
