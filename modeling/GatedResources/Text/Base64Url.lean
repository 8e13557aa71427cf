/-!
# base64url without padding

Decoding is strict: only the alphabet, no padding, and no stray bits at the end.
-/

namespace GatedResources
namespace Base64Url

def symbolValue (symbol : Char) : Option Nat :=
  if 'A' ≤ symbol && symbol ≤ 'Z' then some (symbol.toNat - 65)
  else if 'a' ≤ symbol && symbol ≤ 'z' then some (symbol.toNat - 71)
  else if '0' ≤ symbol && symbol ≤ '9' then some (symbol.toNat + 4)
  else if symbol = '-' then some 62
  else if symbol = '_' then some 63
  else none

def byteOf (value : Nat) : UInt8 :=
  UInt8.ofNat (value % 256)

/-- The bytes of groups of four symbols; the last group may have two or three. -/
def decodeValues : List Nat -> Option (List UInt8)
  | [] => some []
  | [_] => none
  | [first, second] =>
      if second % 16 = 0 then some [byteOf (first * 4 + second / 16)] else none
  | [first, second, third] =>
      if third % 4 = 0 then
        some [byteOf (first * 4 + second / 16), byteOf (second * 16 + third / 4)]
      else
        none
  | first :: second :: third :: fourth :: rest => do
      let tail ← decodeValues rest
      some (byteOf (first * 4 + second / 16) :: byteOf (second * 16 + third / 4) ::
        byteOf (third * 64 + fourth) :: tail)

def decode (symbols : List Char) : Option (List UInt8) := do
  decodeValues (← symbols.mapM symbolValue)

end Base64Url
end GatedResources
