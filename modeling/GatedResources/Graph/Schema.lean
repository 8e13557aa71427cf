import GatedResources.Graph.Envelope
import GatedResources.Graph.Resolver
import GatedResources.Store.Database

/-!
# Schemas

A schema knows the root fields of all registered resources. No two have the same type and
name.
-/

namespace GatedResources

structure SchemaEntry where
  field : RootField
  resource : Resource

structure Schema where
  entries : List SchemaEntry

structure DuplicateField where
  type : RootType
  field : String
deriving DecidableEq, Repr

namespace DuplicateField

def message (duplicate : DuplicateField) : String :=
  duplicate.type.typeName ++ " field '" ++ duplicate.field ++ "' is already registered"

end DuplicateField

namespace Schema

def empty : Schema := ⟨[]⟩

def find? (schema : Schema) (type : RootType) (name : String) : Option SchemaEntry :=
  schema.entries.find? fun entry => entry.field.type == type && entry.field.name == name

def fieldNames (schema : Schema) (type : RootType) : List String :=
  let entries := schema.entries.filter fun entry => entry.field.type == type
  (entries.map fun entry => entry.field.name).mergeSort fun first second => first ≤ second

def addFields (resource : Resource) :
    List RootField -> Schema -> Attempt DuplicateField Schema
  | [], schema => return schema
  | field :: rest, schema =>
      match schema.find? field.type field.name with
      | some _ => Attempt.fail ⟨field.type, field.name⟩
      | none => do
          Attempt.report .debug "graph field registered"
            [("kind", field.type.typeName), ("field", field.name)]
          addFields resource rest ⟨schema.entries ++ [⟨field, resource⟩]⟩

def register (schema : Schema) (resource : Resource) : Attempt DuplicateField Schema :=
  addFields resource resource.rootFields schema

def registerAll : List Resource -> Schema -> Attempt DuplicateField Schema
  | [], schema => return schema
  | resource :: rest, schema => do registerAll rest (← schema.register resource)

/-- Answers a request with a status, a response and the database afterwards. Errors of the
operation are answers too; only a field that does not exist is a bad request. -/
def execute (schema : Schema) (verifier : Verifier) (database : Database)
    (request : GraphRequest) (credential : Option String) :
    Attempt Empty (Nat × GraphResponse × Database) :=
  match schema.find? request.type request.field with
  | none => do
      Attempt.report .debug "unknown root field" []
      return (400, .failure (GraphError.unknownField request.type request.field), database)
  | some entry =>
      let entity := entry.resource.entity
      let resolved := Graph.resolve entry.resource entry.field.operation request.arguments
        credential verifier (database.backing entity)
      let answered : Attempt ResourceError (Nat × GraphResponse × Database) := do
        let (value, backing) ← resolved
        return (200, .data request.field value, database.store entity backing)
      answered.settle fun error => do
        return (200, .failure (← GraphError.ofResourceError error), database)

end Schema
end GatedResources
