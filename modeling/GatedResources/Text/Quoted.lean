import GatedResources.Text.EscapedRanges
import GatedResources.Json.Printer

/-!
# Quoted text for messages

Messages show received strings between quotes, with everything that would not be visible
written as an escape.
-/

namespace GatedResources
namespace Quoted

def within (ranges : List (Nat × Nat)) (code : Nat) : Bool :=
  ranges.any fun range => range.1 ≤ code && code ≤ range.2

def hexadecimal (value : Nat) : List Char :=
  if value < 16 then [Json.hexDigit value]
  else hexadecimal (value / 16) ++ [Json.hexDigit (value % 16)]
termination_by value
decreasing_by omega

def isHidden (symbol : Char) : Bool :=
  symbol.toNat < 32 || symbol.toNat == 127 ||
    (128 ≤ symbol.toNat && within escapedRanges symbol.toNat)

def symbolText (symbol : Char) : List Char :=
  match symbol with
  | '\t' => ['\\', 't']
  | '\r' => ['\\', 'r']
  | '\n' => ['\\', 'n']
  | '\x00' => ['\\', '0']
  | '"' => ['\\', '"']
  | '\\' => ['\\', '\\']
  | _ =>
      if isHidden symbol then
        ['\\', 'u', '{'] ++ hexadecimal symbol.toNat ++ ['}']
      else
        [symbol]

end Quoted

def quoted (text : String) : String :=
  String.ofList ('"' :: text.toList.flatMap Quoted.symbolText ++ ['"'])

def ticked (text : String) : String :=
  "`" ++ text ++ "`"

end GatedResources
