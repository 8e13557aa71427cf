import GatedResources.Json.Value

/-!
# Key descriptions

A token header may describe a key. The description is not used, but it must be one: some
members every key may have, and the members that one family of keys needs. Members beyond
these may stand.
-/

namespace GatedResources

/-- A name out of a choice: a text, or an object whose only member has the name and a value
that says nothing. -/
def Json.choiceName (saysNothing : Json -> Bool) : Json -> Option String
  | .string name => some name
  | .object [(name, value)] => if saysNothing value then some name else none
  | _ => none

namespace KeyDescription

def repeats (name : String) (members : List (String × Json)) : Bool :=
  1 < (members.filter fun entry => entry.1 == name).length

/-- What members that every key may have must be, unless they are null. -/
def commonMembers : List (String × (Json -> Bool)) :=
  let isAlgorithm := fun value : Json =>
    (value.choiceName fun inner => inner.isNull || inner == .object []).isSome
  [("use", Json.isString), ("key_ops", Json.isListOfStrings), ("alg", isAlgorithm),
    ("kid", Json.isString), ("x5u", Json.isString), ("x5c", Json.isListOfStrings),
    ("x5t", Json.isString), ("x5t#S256", Json.isString)]

def isOneOf (names : List String) (value : Json) : Bool :=
  (value.choiceName Json.isNull).any names.contains

def isCurve : Json -> Bool := isOneOf ["P-256", "P-384", "P-521", "Ed25519"]

/-- What the families of keys need: points on curves, products of primes, octets, and pairs of
octets on curves. -/
def families : List (List (String × (Json -> Bool))) := [
  [("kty", isOneOf ["EC"]), ("crv", isCurve), ("x", Json.isString), ("y", Json.isString)],
  [("kty", isOneOf ["RSA"]), ("n", Json.isString), ("e", Json.isString)],
  [("kty", isOneOf ["oct"]), ("k", Json.isString)],
  [("kty", isOneOf ["OKP"]), ("crv", isCurve), ("x", Json.isString)]]

def isValid : Json -> Bool
  | .object members =>
      commonMembers.all (fun (name, holds) =>
        !repeats name members &&
          (Json.lookup name members).all fun value => value.isNull || holds value) &&
      families.any fun family => family.all fun (name, holds) =>
        !repeats name members && (Json.lookup name members).any holds
  | _ => false

end KeyDescription
end GatedResources
