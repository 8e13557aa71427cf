import GatedResources.Json.Overlay
import GatedResources.Settings.InlineValue

/-!
# Settings from the environment

A variable whose name begins with `CRUDKIT__` sets the value at the keys that follow, with
`__` between them: `CRUDKIT__SERVER__BIND_ADDR` sets `bind_addr` of `server`.
-/

namespace GatedResources
namespace Environment

/-- How the names of variables for settings begin, in any case. -/
def namePrefix : String := "CRUDKIT__"

/-- The keys of a variable, in lowercase; `none` if it is not a setting or a key is empty. -/
def keys? (name : String) : Option (List String) :=
  let symbols := (Trim.spaces name.toList).map Char.toLower
  let start := namePrefix.toList.map Char.toLower
  if start.isPrefixOf symbols then
    let rest := Trim.replaceAll "__" "." (String.ofList (Trim.spaces (symbols.drop start.length)))
    let keys := Trim.splitAll '.' rest.toList
    if keys.any List.isEmpty then none else some (keys.map String.ofList)
  else
    none

/-- The tree with what one variable sets; `none` if its value cannot be read. -/
def apply (tree : Json) (entry : String × String) : Option Json :=
  match keys? entry.1 with
  | some keys => do some (tree.overlay (Json.nest keys (← InlineValue.parse entry.2)))
  | none => some tree

/-- What all variables set; later ones over earlier ones. -/
def settings (entries : List (String × String)) : Option Json :=
  entries.foldlM apply (.object [])

end Environment
end GatedResources
