import GatedResources.Text.HostNumbers

/-!
# Addresses of resources

An address is a scheme and a colon, and what the scheme tells: after two slashes a user, a host
and the number of a socket, then a path. Only the scheme is read; the rest is checked.
-/

namespace GatedResources
namespace Address

def hostSchemes : List String :=
  ["http", "https", "ws", "wss", "ftp"]

def isSchemeSymbol (symbol : Char) : Bool :=
  symbol.isAlphanum || symbol == '+' || symbol == '-' || symbol == '.'

def isForbiddenInHost (symbol : Char) : Bool :=
  "\x00\t\n\r #/:<>?@[\\]^|".toList.contains symbol

def isHost (symbols : List Char) : Bool :=
  match symbols with
  | '[' :: rest => rest.getLast? == some ']' && HostNumbers.isGrouped rest.dropLast
  | _ => !symbols.any isForbiddenInHost

/-- Splits a host from what follows it; a colon in brackets is part of the host. -/
def splitHost (bracketed : Bool) : List Char -> List Char × List Char
  | [] => ([], [])
  | symbol :: rest =>
      if symbol = ':' && !bracketed then
        ([], symbol :: rest)
      else
        let inside := symbol == '[' || (bracketed && symbol != ']')
        let (host, after) := splitHost inside rest
        (symbol :: host, after)

/-- Whether the number of a socket is in order; it may be missing. -/
def isSocketNumber (symbols : List Char) : Bool :=
  symbols.all Decimal.isDigit && Decimal.value symbols < Nat.pow 2 16

/-- Whether the user, the host and the socket number of an address are in order. `atEnd` says
whether nothing follows them. -/
def isAuthority (needsHost atEnd : Bool) (symbols : List Char) : Bool :=
  let (user, place) := (Trim.splitLast '@' symbols).getD ([], symbols)
  let (host, number) := splitHost false place
  let hasUser := !(user.isEmpty || user == [':'])
  isHost host && isSocketNumber (number.drop 1) &&
    (!host.isEmpty || !(needsHost || hasUser || !number.isEmpty)) &&
    (!place.isEmpty || atEnd || !symbols.contains '@')

def isRest (scheme : String) (symbols : List Char) : Bool :=
  let needsHost := hostSchemes.contains scheme
  let ends := fun symbol : Char =>
    symbol == '/' || symbol == '?' || symbol == '#' || (needsHost && symbol == '\\')
  let check := fun rest : List Char =>
    isAuthority needsHost (rest.all fun symbol => !ends symbol)
      (rest.takeWhile fun symbol => !ends symbol)
  if needsHost then
    check (symbols.dropWhile fun symbol => symbol == '/' || symbol == '\\')
  else
    match symbols with
    | '/' :: '/' :: rest => scheme == "file" || check rest
    | _ => true

/-- The scheme of an address, in lowercase; `none` if the text is none. Blanks and control
characters around it do not count, and ends of lines nowhere. -/
def scheme? (text : String) : Option String :=
  let symbols := (Trim.both (fun symbol => symbol.toNat ≤ 32) text.toList).filter fun symbol =>
    !(symbol == '\t' || symbol == '\n' || symbol == '\r')
  let scheme := String.ofList ((symbols.takeWhile isSchemeSymbol).map Char.toLower)
  match symbols.dropWhile isSchemeSymbol with
  | ':' :: rest =>
      if symbols.head?.any Char.isAlpha && isRest scheme rest then some scheme else none
  | _ => none

end Address
end GatedResources
