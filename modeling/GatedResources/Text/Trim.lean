/-!
# Cutting text
-/

namespace GatedResources
namespace Trim

def both (drops : Char -> Bool) (symbols : List Char) : List Char :=
  ((symbols.dropWhile drops).reverse.dropWhile drops).reverse

def isSpace (symbol : Char) : Bool :=
  let code := symbol.toNat
  (9 ≤ code && code ≤ 13) || code == 32 || code == 0x85 || code == 0xA0 || code == 0x1680 ||
    (0x2000 ≤ code && code ≤ 0x200A) || code == 0x2028 || code == 0x2029 || code == 0x202F ||
    code == 0x205F || code == 0x3000

def spaces (symbols : List Char) : List Char :=
  both isSpace symbols

def splitLast (mark : Char) (symbols : List Char) : Option (List Char × List Char) :=
  if symbols.contains mark then
    let after := (symbols.reverse.takeWhile (· != mark)).reverse
    some (symbols.take (symbols.length - after.length - 1), after)
  else
    none

def splitAll (mark : Char) : List Char -> List (List Char)
  | [] => [[]]
  | symbol :: rest =>
      match splitAll mark rest with
      | [] => [[symbol]]
      | part :: parts =>
          if symbol = mark then [] :: part :: parts else (symbol :: part) :: parts

def occurs (part : List Char) : List Char -> Bool
  | [] => part.isEmpty
  | symbol :: rest => part.isPrefixOf (symbol :: rest) || occurs part rest

def replaceFrom (part replacement : List Char) : Nat -> List Char -> List Char
  | 0, symbols => symbols
  | _ + 1, [] => []
  | fuel + 1, symbol :: rest =>
      if part.isPrefixOf (symbol :: rest) then
        replacement ++ replaceFrom part replacement fuel ((symbol :: rest).drop part.length)
      else
        symbol :: replaceFrom part replacement fuel rest

def replaceAll (part replacement : String) (text : String) : String :=
  let symbols := text.toList
  String.ofList (replaceFrom part.toList replacement.toList symbols.length symbols)

end Trim
end GatedResources
