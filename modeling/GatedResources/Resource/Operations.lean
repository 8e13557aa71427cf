import GatedResources.Resource.Error
import GatedResources.Resource.Options
import GatedResources.Store.Operations
import GatedResources.Text.Case

/-!
# Operations of resources

An operation needs a handle for its kind of action, which hidden actions do not give, and
passes the gate before it touches the store.
-/

namespace GatedResources

structure Resource where
  entity : Entity
  options : ResourceOptions

/-- The right to try an action on a resource. -/
structure Handle (action : Action) where
  resource : Resource
  offered : resource.options.isHidden action = false

namespace Resource

def build (entity : Entity) (options : ResourceOptions) : Traced Resource := do
  Traced.report .debug "resource registered"
    [("resource", options.name), ("table", entity.table)]
  return ⟨entity, options⟩

def policy (resource : Resource) : Policy :=
  resource.options.policy

def handle? (resource : Resource) (action : Action) : Option (Handle action) :=
  if offered : resource.options.isHidden action = false then some ⟨resource, offered⟩ else none

def offers (resource : Resource) (action : Action) : Bool :=
  !resource.options.isHidden action

def reportText (resource : Resource) : String :=
  "Resource \x7b name: " ++ quoted resource.options.name ++ ", table: " ++
    quoted resource.entity.table ++ ", .. \x7d"

def transformsText (resource : Resource) : String :=
  let fields := resource.options.transforms.fields.mergeSort fun first second => first ≤ second
  "FieldTransforms \x7b fields: [" ++ ", ".intercalate (fields.map quoted) ++ "] \x7d"

def storeText (resource : Resource) : String :=
  "Store \x7b table: " ++ quoted resource.entity.table ++ " \x7d"

def gate (resource : Resource) (action : Action) (principal : Principal) :
    Attempt ResourceError Unit :=
  (Gate.authorize action principal resource.policy).convertError fun error =>
    Traced.quiet (ResourceError.ofAccessError error)

def query (resource : Resource) (request : ListRequest) : Traced Query :=
  Query.compile request resource.entity.table resource.options.transforms

end Resource

def storing {α : Type} (attempt : Attempt StoreError α) : Attempt ResourceError α :=
  attempt.convertError ResourceError.ofStoreError

namespace Handle

variable {action : Action}

def kindName : Action -> String
  | .create => "Creator"
  | .find => "Finder"
  | .update => "Updater"
  | .delete => "Remover"

def reportText (handle : Handle action) : String :=
  kindName action ++ " \x7b resource: " ++ quoted handle.resource.options.name ++ ", .. \x7d"

def findOne (handle : Handle .find) (principal : Principal) (backing : Backing)
    (identifier : Int) : Attempt ResourceError Record := do
  handle.resource.gate .find principal
  match ← storing (Store.findById handle.resource.entity backing identifier) with
  | some record => return record
  | none => Attempt.fail (.notFound handle.resource.options.name identifier)

def findAll (handle : Handle .find) (principal : Principal) (backing : Backing)
    (request : ListRequest) : Attempt ResourceError (Page Record) := do
  handle.resource.gate .find principal
  let query ← Attempt.ofTraced (handle.resource.query request)
  storing (Store.findPage handle.resource.entity backing query)

def findMany (handle : Handle .find) (principal : Principal) (backing : Backing)
    (request : ListRequest) : Attempt ResourceError (List Record) := do
  handle.resource.gate .find principal
  let query ← Attempt.ofTraced (handle.resource.query request)
  storing (Store.findMany handle.resource.entity backing query)

def creating (handle : Handle .create) (principal : Principal)
    (input : List (String × Json)) : Steps ResourceError Record := do
  Steps.doing (handle.resource.gate .create principal)
  let created ← (Store.inserting handle.resource.entity input).calling ResourceError.ofStoreError
  Steps.doing (Attempt.report .info "record created" [])
  return created

def createOne (handle : Handle .create) (principal : Principal) (backing : Backing)
    (input : List (String × Json)) : Attempt ResourceError (Record × Backing) :=
  (handle.creating principal input).run backing

def updating (handle : Handle .update) (principal : Principal) (identifier : Int)
    (patch : List (String × Json)) : Steps ResourceError Record := do
  Steps.doing (handle.resource.gate .update principal)
  match ← (Store.updating handle.resource.entity identifier patch).calling
      ResourceError.ofStoreError with
  | some record => do
      Steps.doing (Attempt.report .info "record updated" [])
      return record
  | none => Steps.doing (Attempt.fail (.notFound handle.resource.options.name identifier))

def updateOne (handle : Handle .update) (principal : Principal) (backing : Backing)
    (identifier : Int) (patch : List (String × Json)) :
    Attempt ResourceError (Record × Backing) :=
  (handle.updating principal identifier patch).run backing

/-- Removes the record with an identifier and answers whether there was one. -/
def removing (handle : Handle .delete) (principal : Principal) (identifier : Int) :
    Steps ResourceError Bool := do
  Steps.doing (handle.resource.gate .delete principal)
  let affected ← (Store.deletingById handle.resource.entity identifier).calling
    ResourceError.ofStoreError
  return decide (0 < affected)

def remove (handle : Handle .delete) (principal : Principal) (backing : Backing)
    (identifier : Int) : Attempt ResourceError (Bool × Backing) :=
  (handle.removing principal identifier).run backing

/-- Removes the records that pass a filter and further predicates, and answers whether there
were any. A filter without predicates removes nothing, whatever the further predicates. -/
def removingManyWhere (handle : Handle .delete) (principal : Principal) (request : FilterRequest)
    (extra : List Predicate) : Steps ResourceError Bool := do
  let resource := handle.resource
  Steps.doing (resource.gate .delete principal)
  let predicates ← Steps.doing (Attempt.ofTraced
    (Query.compilePredicates resource.entity.table resource.options.transforms request.filter))
  if predicates.isEmpty then
    Steps.doing (Attempt.report .warn "bulk delete without a usable filter, nothing removed" [])
    return false
  else
    let affected ← (Store.deletingWhere resource.entity (predicates ++ extra)).calling
      ResourceError.ofStoreError
    Steps.doing (Attempt.report .info "bulk delete" [("affected", Decimal.natural affected)])
    return decide (0 < affected)

def removeManyWhere (handle : Handle .delete) (principal : Principal) (backing : Backing)
    (request : FilterRequest) (extra : List Predicate) :
    Attempt ResourceError (Bool × Backing) :=
  (handle.removingManyWhere principal request extra).run backing

def removingMany (handle : Handle .delete) (principal : Principal) (request : FilterRequest) :
    Steps ResourceError Bool :=
  handle.removingManyWhere principal request []

def removeMany (handle : Handle .delete) (principal : Principal) (backing : Backing)
    (request : FilterRequest) : Attempt ResourceError (Bool × Backing) :=
  handle.removeManyWhere principal backing request []

end Handle
end GatedResources
