/-!
# UTF-8

Strict and lenient decoding of byte strings.
-/

namespace GatedResources
namespace Utf8

def encode (symbols : List Char) : List UInt8 :=
  symbols.flatMap String.utf8EncodeChar

def bytes (text : String) : List UInt8 :=
  encode text.toList

def payload (byte : UInt8) : Nat :=
  byte.toNat % 64

def isContinuation (byte : UInt8) : Bool :=
  128 ≤ byte.toNat && byte.toNat < 192

/-- Whether a byte may follow a lead byte. Some lead bytes narrow the range, which rules out
overlong forms, surrogates and code points beyond the last one. -/
def maySecond (lead second : UInt8) : Bool :=
  let value := second.toNat
  match lead.toNat with
  | 0xE0 => 0xA0 ≤ value && value < 0xC0
  | 0xED => 0x80 ≤ value && value < 0xA0
  | 0xF0 => 0x90 ≤ value && value < 0xC0
  | 0xF4 => 0x80 ≤ value && value < 0x90
  | _ => isContinuation second

/-- How many bytes a character with this lead byte has; 0 when no character starts so. -/
def width (lead : UInt8) : Nat :=
  let value := lead.toNat
  if value < 0x80 then 1
  else if value < 0xC2 then 0
  else if value < 0xE0 then 2
  else if value < 0xF0 then 3
  else if value < 0xF5 then 4
  else 0

/-- Decodes the character at a lead byte; `none` when it is broken. The second component is
the number of bytes after the lead byte that belong to it, or to its intact beginning. -/
def decodeAt (lead : UInt8) (rest : List UInt8) : Option Char × Nat :=
  match width lead, rest with
  | 1, _ => (some (Char.ofNat lead.toNat), 0)
  | 2, second :: _ =>
      if maySecond lead second then
        (some (Char.ofNat (lead.toNat % 32 * 64 + payload second)), 1)
      else
        (none, 0)
  | 3, second :: more =>
      if maySecond lead second then
        match more with
        | third :: _ =>
            if isContinuation third then
              (some (Char.ofNat ((lead.toNat % 16 * 64 + payload second) * 64 + payload third)), 2)
            else
              (none, 1)
        | [] => (none, 1)
      else
        (none, 0)
  | 4, second :: more =>
      if maySecond lead second then
        match more with
        | third :: last =>
            if isContinuation third then
              match last with
              | fourth :: _ =>
                  if isContinuation fourth then
                    (some (Char.ofNat (((lead.toNat % 8 * 64 + payload second) * 64 + payload third)
                      * 64 + payload fourth)), 3)
                  else
                    (none, 2)
              | [] => (none, 2)
            else
              (none, 1)
        | [] => (none, 1)
      else
        (none, 0)
  | _, _ => (none, 0)

/-- The characters of a byte string, `none` in place of each broken sequence. -/
def pieces : List UInt8 -> List (Option Char)
  | [] => []
  | lead :: rest =>
      let decoded := decodeAt lead rest
      decoded.1 :: pieces (rest.drop decoded.2)
termination_by bytes => bytes.length
decreasing_by
  simp only [List.length_drop, List.length_cons]
  omega

def decode (bytes : List UInt8) : Option (List Char) :=
  (pieces bytes).mapM id

def decodeLenient (bytes : List UInt8) : List Char :=
  (pieces bytes).map fun piece => piece.getD '\uFFFD'

end Utf8
end GatedResources
