import GatedResources.Graph.Field

/-!
# Resolving root fields

A field is resolved in a fixed order: who is asking, what is asked, whether the action is
offered at all, and then the operation itself.
-/

namespace GatedResources
namespace Graph

def identifierShape : Shape Int where
  label := "IdArgs"
  closed := false
  initial := 0
  members := [Member.of "id" .required (Decoder.signed 64) fun identifier _ => identifier]

def creationShape : Shape (List (String × Json)) where
  label := "CreateArgs"
  closed := false
  initial := []
  members := [Member.of "input" .required Decoder.map fun input _ => input]

structure PatchArguments where
  identifier : Int
  data : List (String × Json)

def patchShape : Shape PatchArguments where
  label := "PatchArgs"
  closed := false
  initial := ⟨0, []⟩
  members := [
    Member.of "id" .required (Decoder.signed 64)
      fun identifier arguments => { arguments with identifier },
    Member.of "data" .required Decoder.map fun data arguments => { arguments with data }]

def bulkShape : Shape FilterRequest where
  label := "RemoveManyArgs"
  closed := false
  initial := ⟨none⟩
  members := [Member.of "info" .defaulted FilterRequest.shape.decode fun request _ => request]

/-- Reads arguments; null stands for no arguments. -/
def readArguments {α : Type} (shape : Shape α) (arguments : Json) : Attempt ResourceError α :=
  let given := if arguments.isNull then .object [] else arguments
  match shape.decode .request given with
  | .ok value => .succeed value
  | .error fault => .fail (.validation "args" fault.requestMessage)

def handleFor (resource : Resource) (action : Action) : Attempt ResourceError (Handle action) :=
  match resource.handle? action with
  | some handle => .succeed handle
  | none => .fail (.internal "operation is hidden")

def resolving (resource : Resource) (operation : RootOperation) (arguments : Json)
    (credential : Option String) (verifier : Verifier) : Steps ResourceError Json := do
  let principal ← Steps.doing
    ((Gate.identify operation.action resource.policy credential verifier).convertError
      fun error => Traced.quiet (ResourceError.ofAccessError error))
  match operation with
  | .findOne => do
      let identifier ← Steps.doing (readArguments identifierShape arguments)
      let handle ← Steps.doing (handleFor resource .find)
      let record ← Steps.reading fun backing => handle.findOne principal backing identifier
      return record.toJson
  | .findAll => do
      let request ← Steps.doing (readArguments ListRequest.shape arguments)
      let handle ← Steps.doing (handleFor resource .find)
      let page ← Steps.reading fun backing => handle.findAll principal backing request
      return page.toJson Record.toJson
  | .create => do
      let input ← Steps.doing (readArguments creationShape arguments)
      let handle ← Steps.doing (handleFor resource .create)
      let record ← handle.creating principal input
      return record.toJson
  | .patch => do
      let change ← Steps.doing (readArguments patchShape arguments)
      let handle ← Steps.doing (handleFor resource .update)
      let record ← handle.updating principal change.identifier change.data
      return record.toJson
  | .remove => do
      let identifier ← Steps.doing (readArguments identifierShape arguments)
      let handle ← Steps.doing (handleFor resource .delete)
      let removed ← handle.removing principal identifier
      return .bool removed
  | .removeMany => do
      let request ← Steps.doing (readArguments bulkShape arguments)
      let handle ← Steps.doing (handleFor resource .delete)
      let removed ← handle.removingMany principal request
      return .bool removed

def resolve (resource : Resource) (operation : RootOperation) (arguments : Json)
    (credential : Option String) (verifier : Verifier) (backing : Backing) :
    Attempt ResourceError (Json × Backing) :=
  (resolving resource operation arguments credential verifier).run backing

end Graph
end GatedResources
