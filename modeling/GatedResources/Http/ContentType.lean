import GatedResources.Identity.Bearer

/-!
# Content types
-/

namespace GatedResources
namespace ContentType

def isNameSymbol (symbol : Char) : Bool :=
  symbol.isAlphanum || "!#$%&'*+-.^_\x60|~".toList.contains symbol

def isQuotedSymbol (symbol : Char) : Bool :=
  31 < symbol.toNat && symbol.toNat != 127

/-- What follows quoted text after its opening quote. It has at least one character, and a quote
as the first one is part of it. -/
def afterQuoted? : List Char -> Option (List Char)
  | [] => none
  | first :: rest =>
      if isQuotedSymbol first then
        match rest.dropWhile fun symbol => isQuotedSymbol symbol && symbol != '"' with
        | '"' :: rest => some rest
        | _ => none
      else
        none

/-- Whether parameters are well formed; each is a name and a value, which may be quoted. The
fuel bounds how many there are. -/
def areParameters : Nat -> List Char -> Bool
  | 0, _ => false
  | _ + 1, [] => true
  | fuel + 1, ' ' :: rest => areParameters fuel rest
  | fuel + 1, input =>
      let name := input.takeWhile isNameSymbol
      match name, input.dropWhile isNameSymbol with
      | [], _ => false
      | _ :: _, '=' :: '"' :: rest =>
          match (afterQuoted? rest).map fun rest => rest.dropWhile (· == ' ') with
          | some [] => true
          | some (';' :: rest) => areParameters fuel rest
          | _ => false
      | _ :: _, '=' :: rest =>
          match rest.takeWhile isNameSymbol, rest.dropWhile isNameSymbol with
          | _, [] => true
          | _ :: _, ';' :: rest => areParameters fuel rest
          | _, _ => false
      | _ :: _, _ => false

def isJson (value : String) : Bool :=
  let symbols := value.toList
  let type := symbols.takeWhile isNameSymbol
  match symbols.drop type.length with
  | '/' :: rest =>
      let subtype := (rest.takeWhile isNameSymbol).map Char.toLower
      let parameters := rest.drop subtype.length
      let (main, suffix) :=
        match Trim.splitLast '+' subtype with
        | some ([], _) => (subtype, [])
        | some (main, suffix) => (main, suffix)
        | none => (subtype, [])
      type.map Char.toLower == "application".toList &&
        (main == "json".toList || suffix == "json".toList) &&
        (match parameters with
          | [] => true
          | ';' :: parameters => areParameters (parameters.length + 1) parameters
          | _ => false)
  | _ => false

def saysJson (headers : Headers) : Bool :=
  match headers.first "content-type" with
  | some value => Bearer.isVisible value.toList && isJson value
  | none => false

def expectedText : String := "Expected request with \x60Content-Type: application/json\x60"

end ContentType
end GatedResources
