import GatedResources.Text.Trim

/-!
# Bearer credentials

A credential comes in the first `Authorization` header, after the word `Bearer`.
-/

namespace GatedResources

abbrev Headers := List (String × String)

namespace Headers

/-- The value of the first header of a name, whatever the case of its letters. -/
def first (headers : Headers) (name : String) : Option String :=
  (headers.find? fun header =>
    header.1.toList.map Char.toLower == name.toList.map Char.toLower).map Prod.snd

end Headers

namespace Bearer

def isVisible (value : List Char) : Bool :=
  value.all fun symbol => (32 ≤ symbol.toNat && symbol.toNat < 127) || symbol = '\t'

def credentialOf (value : List Char) : Option String :=
  let mark := ['B', 'e', 'a', 'r', 'e', 'r', ' ']
  if isVisible value && mark.isPrefixOf value then
    let credential := Trim.spaces (value.drop mark.length)
    if credential.isEmpty then none else some (String.ofList credential)
  else
    none

def credential (headers : Headers) : Option String :=
  (headers.first "authorization").bind fun value => credentialOf value.toList

end Bearer
end GatedResources
