import GatedResources.Resource.Operations

/-!
# Root fields

A resource offers its operations as named fields of two root types.
-/

namespace GatedResources

inductive RootType where
  | query
  | mutation
deriving DecidableEq, Repr

namespace RootType

def name : RootType -> String
  | .query => "query"
  | .mutation => "mutation"

def typeName : RootType -> String
  | .query => "Query"
  | .mutation => "Mutation"

def decoder : Decoder RootType :=
  Decoder.choice "OpType" [("query", .query), ("mutation", .mutation)]

end RootType

inductive RootOperation where
  | findOne
  | findAll
  | create
  | patch
  | remove
  | removeMany
deriving DecidableEq, Repr

namespace RootOperation

def action : RootOperation -> Action
  | .findOne => .find
  | .findAll => .find
  | .create => .create
  | .patch => .update
  | .remove => .delete
  | .removeMany => .delete

def reportName : RootOperation -> String
  | .findOne => "FindOne"
  | .findAll => "FindAll"
  | .create => "Create"
  | .patch => "Patch"
  | .remove => "Remove"
  | .removeMany => "RemoveMany"

end RootOperation

structure RootField where
  type : RootType
  name : String
  operation : RootOperation
deriving DecidableEq, Repr

namespace Resource

def rootFields (resource : Resource) : List RootField :=
  let name := resource.options.name
  let singular := resource.options.singularName
  let onlyIf (action : Action) (fields : List RootField) :=
    if resource.offers action then fields else []
  onlyIf .find [
      ⟨.query, Case.lower singular, .findOne⟩,
      ⟨.query, Case.lower name, .findAll⟩] ++
    onlyIf .create [⟨.mutation, Case.lower name, .create⟩] ++
    onlyIf .update [⟨.mutation, "patch" ++ Case.upperCamel singular, .patch⟩] ++
    onlyIf .delete [
      ⟨.mutation, "remove" ++ Case.upperCamel singular, .remove⟩,
      ⟨.mutation, "removeMany" ++ Case.upperCamel name, .removeMany⟩]

end Resource
end GatedResources
