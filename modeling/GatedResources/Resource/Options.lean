import GatedResources.Access.Policy
import GatedResources.Query.Transform

/-!
# Options of a resource
-/

namespace GatedResources

/-- What a resource is called, who may do what with it, and how its filters are understood. -/
structure ResourceOptions where
  name : String
  singular : Option String
  policy : Policy
  hidden : List Action
  transforms : Transforms

namespace ResourceOptions

def named (name : String) : ResourceOptions :=
  ⟨name, none, Policy.empty, [], Transforms.none⟩

def hide (options : ResourceOptions) (action : Action) : ResourceOptions :=
  if action ∈ options.hidden then options
  else { options with hidden := options.hidden ++ [action] }

def isHidden (options : ResourceOptions) (action : Action) : Bool :=
  decide (action ∈ options.hidden)

/-- The name of one record: as given, or the name without its last letter. -/
def singularName (options : ResourceOptions) : String :=
  match options.singular with
  | some singular => singular
  | none => String.ofList options.name.toList.dropLast

end ResourceOptions
end GatedResources
