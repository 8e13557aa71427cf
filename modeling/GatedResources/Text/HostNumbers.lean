import GatedResources.Json.Parser
import GatedResources.Text.Trim

/-!
# Hosts given by numbers

A host is given by four numbers with dots between them, or by eight groups of hexadecimal
digits with colons between them.
-/

namespace GatedResources
namespace HostNumbers

def octet? (symbols : List Char) : Option Nat :=
  if symbols.isEmpty || 3 < symbols.length || !symbols.all Decimal.isDigit ||
      (symbols.head? == some '0' && 1 < symbols.length) then
    none
  else
    let value := Decimal.value symbols
    if value < 256 then some value else none

def octets? (symbols : List Char) : Option (List Nat) := do
  let octets ← (Trim.splitAll '.' symbols).mapM octet?
  if octets.length = 4 then some octets else none

def isGroup (symbols : List Char) : Bool :=
  !symbols.isEmpty && symbols.length ≤ 4 && symbols.all fun symbol => (Json.hexValue symbol).isSome

/-- How many groups a text with colons between them has; four numbers at the end stand for
two. -/
def groupCount? (symbols : List Char) (mayEndInOctets : Bool) : Option Nat :=
  if symbols.isEmpty then
    some 0
  else
    let parts := Trim.splitAll ':' symbols
    if parts.all isGroup then
      some parts.length
    else if mayEndInOctets && parts.dropLast.all isGroup &&
        (parts.getLast?.bind octets?).isSome then
      some (parts.length + 1)
    else
      none

def splitGap : List Char -> Option (List Char × List Char)
  | ':' :: ':' :: rest => some ([], rest)
  | symbol :: rest => (splitGap rest).map fun (before, after) => (symbol :: before, after)
  | [] => none

/-- Whether a text is a host given by groups. Two colons in a row stand for groups of zeros, at
least one. -/
def isGrouped (symbols : List Char) : Bool :=
  match splitGap symbols with
  | none => groupCount? symbols true == some 8
  | some (before, after) =>
      match groupCount? before false, groupCount? after true with
      | some first, some second => first + second ≤ 7
      | _, _ => false

end HostNumbers
end GatedResources
