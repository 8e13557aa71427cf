import GatedResources.Graph.Schema
import GatedResources.Proofs.Databases
import GatedResources.Proofs.Operation

/-!
# What a graph request asks

A root field of a resource and its arguments stand for one operation, and resolving the field
performs that operation. A schema holds the root fields of the resources that were registered in
it and no others, each under a type and a name of its own.
-/

namespace GatedResources

namespace Resource

theorem root_field_offered {resource : Resource} {field : RootField}
    (member : field ∈ resource.rootFields) :
    resource.options.isHidden field.operation.action = false := by
  have offered : ∀ {action : Action} {fields : List RootField},
      field ∈ (if resource.offers action then fields else []) →
      (∀ held ∈ fields, held.operation.action = action) →
      resource.options.isHidden field.operation.action = false := by
    intro action fields inside does
    split at inside
    · next visible =>
        unfold offers at visible
        rw [Bool.not_eq_true'] at visible
        rw [does field inside, visible]
    · cases inside
  unfold rootFields at member
  dsimp only at member
  rcases List.mem_append.mp member with member | removes
  · rcases List.mem_append.mp member with member | updates
    · rcases List.mem_append.mp member with finds | creates
      · exact offered finds (by simp [RootOperation.action])
      · exact offered creates (by simp [RootOperation.action])
    · exact offered updates (by simp [RootOperation.action])
  · exact offered removes (by simp [RootOperation.action])

theorem query_field_finds {resource : Resource} {field : RootField}
    (member : field ∈ resource.rootFields) (query : field.type = .query) :
    field.operation.action = .find := by
  have finds : ∀ {condition : Bool} {fields : List RootField},
      field ∈ (if condition = true then fields else []) →
      (∀ held ∈ fields, held.type = .query → held.operation.action = .find) →
      field.operation.action = .find := by
    intro condition fields inside does
    split at inside
    · exact does field inside query
    · cases inside
  unfold rootFields at member
  dsimp only at member
  rcases List.mem_append.mp member with member | removes
  · rcases List.mem_append.mp member with member | updates
    · rcases List.mem_append.mp member with found | creates
      · exact finds found (by simp [RootOperation.action])
      · exact finds creates (by simp)
    · exact finds updates (by simp)
  · exact finds removes (by simp)

end Resource

namespace Graph

/-- The operation that a root operation is with its arguments. -/
inductive Reads (arguments : Json) : RootOperation -> Operation -> Prop where
  | findOne {identifier : Int}
      (read : readArguments identifierShape arguments = .succeed identifier) :
      Reads arguments .findOne (.findOne identifier)
  | findAll {wanted : ListRequest}
      (read : readArguments ListRequest.shape arguments = .succeed wanted) :
      Reads arguments .findAll (.findAll wanted)
  | create {input : List (String × Json)}
      (read : readArguments creationShape arguments = .succeed input) :
      Reads arguments .create (.create input)
  | patch {change : PatchArguments}
      (read : readArguments patchShape arguments = .succeed change) :
      Reads arguments .patch (.update change.identifier change.data)
  | remove {identifier : Int}
      (read : readArguments identifierShape arguments = .succeed identifier) :
      Reads arguments .remove (.remove identifier)
  | removeMany {wanted : FilterRequest}
      (read : readArguments bulkShape arguments = .succeed wanted) :
      Reads arguments .removeMany (.removeMany wanted)

/-- What a request asks of a resource: one of its root fields, with arguments for it. -/
def Asks (resource : Resource) (request : GraphRequest) (operation : Operation) : Prop :=
  ∃ field ∈ resource.rootFields, field.type = request.type ∧ field.name = request.field ∧
    Reads request.arguments field.operation operation

def concluded (entity : Entity) (database : Database) (field : String) :
    Outcome ResourceError (Json × Backing) -> Outcome Empty (Nat × GraphResponse × Database)
  | .done (value, backing) => .done (200, .data field value, database.store entity backing)
  | .failed error => .done (200, .failure (GraphError.ofResourceError error).value, database)
  | .crashed => .crashed

theorem concluded_eq_done {entity : Entity} {database after : Database} {field : String}
    {performed : Outcome ResourceError (Json × Backing)} {status : Nat} {response : GraphResponse}
    (done : concluded entity database field performed = .done (status, response, after)) :
    after = database ∨ ∃ value backing, performed = .done (value, backing) ∧
      after = database.store entity backing := by
  cases performed with
  | done answer =>
      cases done
      exact .inr ⟨answer.1, answer.2, rfl, rfl⟩
  | failed error =>
      cases done
      exact .inl rfl
  | crashed => cases done

variable {resource : Resource} {arguments : Json} {verifier : Verifier}
  {credential : Option String} {backing : Backing}

theorem Reads.action_eq {rootOperation : RootOperation} {operation : Operation}
    (reads : Reads arguments rootOperation operation) :
    operation.action = rootOperation.action := by
  cases reads <;> rfl

theorem read_arguments_succeed {α : Type} {shape : Shape α} {value : α}
    (read : (readArguments shape arguments).outcome = .done value) :
    readArguments shape arguments = .succeed value := by
  unfold readArguments at read ⊢
  dsimp only at read ⊢
  split at read
  · next held decoded =>
      cases read
      rfl
  · cases read

theorem handle_for_offered (action : Action)
    (offered : resource.options.isHidden action = false) :
    handleFor resource action = .succeed ⟨resource, offered⟩ := by
  unfold handleFor Resource.handle?
  rw [dif_pos offered]

/-- Resolving a field whose arguments can be read is performing the operation. -/
theorem resolve_reads {rootOperation : RootOperation} {operation : Operation}
    (reads : Reads arguments rootOperation operation)
    (offered : resource.options.isHidden operation.action = false) :
    (resolve resource rootOperation arguments credential verifier backing).outcome =
      operation.perform resource verifier credential backing offered := by
  unfold resolve resolving Operation.perform
  rw [Steps.run_doing, Attempt.outcome_bind, Attempt.outcome_convert_error, reads.action_eq]
  apply congrArg
  funext principal
  cases reads with
  | findOne read =>
      rw [read, handle_for_offered .find offered]
      simp only [Steps.run_doing, Steps.run_reading, Attempt.outcome_bind]
      rfl
  | findAll read =>
      rw [read, handle_for_offered .find offered]
      simp only [Steps.run_doing, Steps.run_reading, Attempt.outcome_bind]
      rfl
  | create read =>
      rw [read, handle_for_offered .create offered]
      simp only [Steps.run_bind, Attempt.outcome_bind]
      rfl
  | patch read =>
      rw [read, handle_for_offered .update offered]
      simp only [Steps.run_bind, Attempt.outcome_bind]
      rfl
  | remove read =>
      rw [read, handle_for_offered .delete offered]
      simp only [Steps.run_bind, Attempt.outcome_bind]
      rfl
  | removeMany read =>
      rw [read, handle_for_offered .delete offered]
      simp only [Steps.run_bind, Attempt.outcome_bind]
      rfl

/-- A field that is resolved well has arguments that can be read. -/
theorem resolve_eq_done {rootOperation : RootOperation} {answer : Json × Backing}
    (done : (resolve resource rootOperation arguments credential verifier backing).outcome =
      .done answer) :
    ∃ operation, Reads arguments rootOperation operation := by
  unfold resolve resolving at done
  obtain ⟨principal, _, done⟩ := Steps.doing_eq_done.mp done
  cases rootOperation with
  | findOne =>
      obtain ⟨identifier, read, _⟩ := Steps.doing_eq_done.mp done
      exact ⟨_, .findOne (read_arguments_succeed read)⟩
  | findAll =>
      obtain ⟨wanted, read, _⟩ := Steps.doing_eq_done.mp done
      exact ⟨_, .findAll (read_arguments_succeed read)⟩
  | create =>
      obtain ⟨input, read, _⟩ := Steps.doing_eq_done.mp done
      exact ⟨_, .create (read_arguments_succeed read)⟩
  | patch =>
      obtain ⟨change, read, _⟩ := Steps.doing_eq_done.mp done
      exact ⟨_, .patch (read_arguments_succeed read)⟩
  | remove =>
      obtain ⟨identifier, read, _⟩ := Steps.doing_eq_done.mp done
      exact ⟨_, .remove (read_arguments_succeed read)⟩
  | removeMany =>
      obtain ⟨wanted, read, _⟩ := Steps.doing_eq_done.mp done
      exact ⟨_, .removeMany (read_arguments_succeed read)⟩

end Graph

namespace Schema

/-- Every field is a root field of one of the resources, under a type and a name of its own. -/
structure Holds (resources : List Resource) (schema : Schema) : Prop where
  owned : ∀ entry ∈ schema.entries, entry.resource ∈ resources ∧
    entry.field ∈ entry.resource.rootFields
  found : ∀ resource ∈ resources, ∀ field ∈ resource.rootFields,
    schema.find? field.type field.name = some ⟨field, resource⟩

theorem add_fields_eq_done {resource : Resource} {fields : List RootField}
    {schema built : Schema} (done : (addFields resource fields schema).outcome = .done built) :
    built.entries = schema.entries ++ fields.map (fun field => ⟨field, resource⟩) ∧
      (∀ type name, ∀ entry, schema.find? type name = some entry →
        built.find? type name = some entry) ∧
      ∀ field ∈ fields, built.find? field.type field.name = some ⟨field, resource⟩ := by
  induction fields generalizing schema with
  | nil =>
      cases done
      exact ⟨(List.append_nil _).symm, fun _ _ _ same => same, fun field member => nomatch member⟩
  | cons field rest claim =>
      unfold addFields at done
      split at done
      · cases done
      · next absent =>
          rw [Attempt.outcome_bind] at done
          obtain ⟨_, _, done⟩ := Outcome.bind_eq_done.mp done
          obtain ⟨entries, kept, added⟩ := claim done
          have appended : ∀ type name,
              Schema.find? ⟨schema.entries ++ [⟨field, resource⟩]⟩ type name =
              (schema.find? type name).or
                (Schema.find? ⟨[⟨field, resource⟩]⟩ type name) := by
            intro type name
            exact List.find?_append
          refine ⟨?_, ?_, ?_⟩
          · rw [entries, List.map_cons, List.append_assoc]
            rfl
          · intro type name entry same
            apply kept
            rw [appended, same]
            rfl
          · intro wanted member
            rcases List.mem_cons.mp member with same | later
            · subst same
              apply kept
              rw [appended, absent, Option.none_or]
              simp [find?]
            · exact added wanted later

theorem holds_empty : Holds [] Schema.empty := by
  constructor
  · intro entry member
    cases member
  · intro resource member
    cases member

theorem Holds.register {resources : List Resource} {schema built : Schema}
    (holds : Holds resources schema) {resource : Resource}
    (done : (schema.register resource).outcome = .done built) :
    Holds (resources ++ [resource]) built := by
  obtain ⟨entries, kept, added⟩ := add_fields_eq_done done
  constructor
  · intro entry member
    rw [entries] at member
    rcases List.mem_append.mp member with earlier | new
    · obtain ⟨owner, own⟩ := holds.owned entry earlier
      exact ⟨List.mem_append_left _ owner, own⟩
    · obtain ⟨field, own, same⟩ := List.mem_map.mp new
      subst same
      exact ⟨List.mem_append_right _ List.mem_cons_self, own⟩
  · intro held member field own
    rcases List.mem_append.mp member with earlier | new
    · exact kept _ _ _ (holds.found held earlier field own)
    · cases List.mem_singleton.mp new
      exact added field own

theorem Holds.register_all {earlier resources : List Resource} {schema built : Schema}
    (holds : Holds earlier schema)
    (done : (registerAll resources schema).outcome = .done built) :
    Holds (earlier ++ resources) built := by
  induction resources generalizing earlier schema with
  | nil =>
      cases done
      rw [List.append_nil]
      exact holds
  | cons resource rest claim =>
      unfold registerAll at done
      rw [Attempt.outcome_bind] at done
      obtain ⟨between, registered, done⟩ := Outcome.bind_eq_done.mp done
      have all := claim (holds.register registered) done
      rw [List.append_assoc] at all
      exact all

section Requests

variable {resources : List Resource} {schema : Schema} {verifier : Verifier}
  {credential : Option String} {database : Database} {request : GraphRequest}

theorem execute_entry {entry : SchemaEntry}
    (sought : schema.find? request.type request.field = some entry) :
    (schema.execute verifier database request credential).outcome =
      Graph.concluded entry.resource.entity database request.field
        (Graph.resolve entry.resource entry.field.operation request.arguments credential verifier
          (database.backing entry.resource.entity)).outcome := by
  unfold execute
  rw [sought]
  dsimp only
  rw [Attempt.outcome_settle, Attempt.outcome_bind]
  cases (Graph.resolve entry.resource entry.field.operation request.arguments credential verifier
    (database.backing entry.resource.entity)).outcome <;> rfl

/-- A request that asks for an operation of a registered resource is answered by performing it. -/
theorem Holds.execute_asked (holds : Holds resources schema) {resource : Resource}
    (registered : resource ∈ resources) {operation : Operation}
    (asks : Graph.Asks resource request operation)
    (offered : resource.options.isHidden operation.action = false) :
    (schema.execute verifier database request credential).outcome =
      Graph.concluded resource.entity database request.field
        (operation.perform resource verifier credential (database.backing resource.entity)
          offered) := by
  obtain ⟨field, own, sameType, sameName, reads⟩ := asks
  have sought := holds.found resource registered field own
  rw [sameType, sameName] at sought
  rw [execute_entry sought, Graph.resolve_reads reads offered]

/-- Whatever a schema does with a request, the request asked a registered resource for it. -/
theorem Holds.execute_followed (holds : Holds resources schema) {status : Nat}
    {response : GraphResponse} {after : Database}
    (done : (schema.execute verifier database request credential).outcome =
      .done (status, response, after)) :
    after = database ∨ ∃ owner ∈ resources, ∃ operation offered,
      Graph.Asks owner request operation ∧
      Graph.concluded owner.entity database request.field
        (operation.perform owner verifier credential (database.backing owner.entity) offered) =
          .done (status, response, after) := by
  cases sought : schema.find? request.type request.field with
  | none =>
      unfold execute at done
      rw [sought, Attempt.outcome_bind] at done
      cases done
      exact .inl rfl
  | some entry =>
      have inside := List.mem_of_find?_eq_some sought
      have named := List.find?_some sought
      simp only [Bool.and_eq_true, beq_iff_eq] at named
      obtain ⟨registered, own⟩ := holds.owned entry inside
      rw [execute_entry sought] at done
      cases ended : (Graph.resolve entry.resource entry.field.operation request.arguments credential
          verifier (database.backing entry.resource.entity)).outcome with
      | done answer =>
          obtain ⟨operation, reads⟩ := Graph.resolve_eq_done ended
          have offered : entry.resource.options.isHidden operation.action = false := by
            rw [reads.action_eq]
            exact Resource.root_field_offered own
          rw [Graph.resolve_reads reads offered] at done
          exact .inr ⟨entry.resource, registered, operation, offered,
            ⟨entry.field, own, named.1, named.2, reads⟩, done⟩
      | failed error =>
          rw [ended] at done
          cases done
          exact .inl rfl
      | crashed =>
          rw [ended] at done
          cases done

end Requests

end Schema
end GatedResources
