import GatedResources.Proofs.Operation
import GatedResources.Rest.Endpoint

/-!
# What the HTTP handlers do

Each handler reads an operation from its request and answers what performing that operation
gives. A request that cannot be read leaves the database as it was.
-/

namespace GatedResources
namespace Rest

def successStatus : Operation -> Nat
  | .create _ => 201
  | _ => 200

/-- A bulk removal of nothing, which HTTP does not count as a success. -/
def removedNothing : Operation -> Json -> Bool
  | .removeMany _, value => decide (value = .bool false)
  | _, _ => false

def respond (operation : Operation) :
    Outcome ResourceError (Json × Backing) -> Outcome Problem (Response × Backing)
  | .done (value, backing) =>
      if removedNothing operation value then .failed (Problem.notFound "no matching records")
      else .done (Response.ofJson (successStatus operation) value, backing)
  | .failed error => .failed (Problem.ofResourceError error).value
  | .crashed => .crashed

def concluded (entity : Entity) (database : Database) :
    Outcome Problem (Response × Backing) -> Outcome Empty (Response × Database)
  | .done (response, backing) => .done (response, database.store entity backing)
  | .failed problem => .done (problem.response, database)
  | .crashed => .crashed

def served (endpoint : Endpoint) (credential : Option String) (database : Database)
    (operation : Operation)
    (offered : endpoint.resource.options.isHidden operation.action = false) :
    Outcome Empty (Response × Database) :=
  concluded endpoint.resource.entity database (respond operation
    (operation.perform endpoint.resource endpoint.verifier credential
      (database.backing endpoint.resource.entity) offered))

/-- What is answered either leaves the database alone or stores what the operation left. -/
theorem served_eq_done {endpoint : Endpoint} {credential : Option String}
    {database after : Database} {operation : Operation}
    {offered : endpoint.resource.options.isHidden operation.action = false} {response : Response}
    (done : served endpoint credential database operation offered = .done (response, after)) :
    after = database ∨ ∃ value backing,
      operation.perform endpoint.resource endpoint.verifier credential
        (database.backing endpoint.resource.entity) offered = .done (value, backing) ∧
      after = database.store endpoint.resource.entity backing := by
  unfold served at done
  cases performed : operation.perform endpoint.resource endpoint.verifier credential
      (database.backing endpoint.resource.entity) offered with
  | done answer =>
      obtain ⟨value, backing⟩ := answer
      rw [performed] at done
      unfold respond at done
      dsimp only at done
      split at done
      · cases done
        exact .inl rfl
      · cases done
        exact .inr ⟨value, backing, rfl, rfl⟩
  | failed error =>
      rw [performed] at done
      cases done
      exact .inl rfl
  | crashed =>
      rw [performed] at done
      cases done

section Handlers

variable {endpoint : Endpoint} {request : Request} {captures : Captures} {database : Database}

theorem answering_outcome (steps : Request -> Captures -> Steps Problem Response) :
    (answering endpoint steps request captures database).outcome =
      concluded endpoint.resource.entity database
        ((steps request captures).run (database.backing endpoint.resource.entity)).outcome := by
  unfold answering
  rw [Attempt.outcome_settle, Attempt.outcome_bind]
  cases ((steps request captures).run (database.backing endpoint.resource.entity)).outcome <;> rfl

theorem handle_for_offered (action : Action)
    (offered : endpoint.resource.options.isHidden action = false) :
    handleFor endpoint action = .succeed ⟨endpoint.resource, offered⟩ := by
  unfold handleFor Resource.handle?
  rw [dif_pos offered]

/-- Once the principal is known, a handler need only do what its operation does. -/
theorem principal_respond (operation : Operation) {backing : Backing}
    (offered : endpoint.resource.options.isHidden operation.action = false)
    (next : Principal -> Step (Response × Backing))
    (same : ∀ principal, (next principal).outcome =
      respond operation (operation.conduct endpoint.resource principal backing offered)) :
    (principal endpoint operation.action request >>= next).outcome =
      respond operation (operation.perform endpoint.resource endpoint.verifier
        (Bearer.credential request.headers) backing offered) := by
  unfold principal Operation.perform
  rw [Attempt.outcome_bind, Attempt.outcome_convert_error]
  cases (Gate.identify operation.action endpoint.resource.policy
      (Bearer.credential request.headers) endpoint.verifier).outcome with
  | done principal => exact same principal
  | failed error => rfl
  | crashed => rfl

/-- An operation of a handle is answered by responding to what it gives. -/
theorem operating_respond {Answer : Type} {operation : Operation}
    {attempt : Attempt ResourceError Answer} (encode : Answer -> Json × Backing)
    {next : Answer -> Step (Response × Backing)}
    (same : ∀ answer, (next answer).outcome = respond operation (.done (encode answer))) :
    (operating attempt >>= next).outcome =
      respond operation (attempt.outcome >>= fun answer => .done (encode answer)) := by
  unfold operating
  rw [Attempt.outcome_bind, Attempt.outcome_convert_error]
  cases attempt.outcome with
  | done answer => exact same answer
  | failed error => rfl
  | crashed => rfl

theorem find_all_served {wanted : ListRequest}
    (read : readListRequest request.query = .ok wanted)
    (offered : endpoint.resource.options.isHidden .find = false) :
    (answering endpoint (findAll endpoint) request captures database).outcome =
      served endpoint (Bearer.credential request.headers) database (.findAll wanted) offered := by
  rw [answering_outcome]
  unfold findAll served
  rw [Steps.run_doing, read]
  apply congrArg
  apply principal_respond (.findAll wanted) offered
  intro principal
  rw [handle_for_offered .find offered]
  exact operating_respond (fun page : Page Record => (page.toJson Record.toJson, _)) fun _ => rfl

theorem find_one_served {wanted : Int}
    (read : identifier captures = .succeed wanted)
    (offered : endpoint.resource.options.isHidden .find = false) :
    (answering endpoint (findOne endpoint) request captures database).outcome =
      served endpoint (Bearer.credential request.headers) database (.findOne wanted) offered := by
  rw [answering_outcome]
  unfold findOne served
  rw [Steps.run_doing, read]
  apply congrArg
  apply principal_respond (.findOne wanted) offered
  intro principal
  rw [handle_for_offered .find offered]
  exact operating_respond (fun record : Record => (record.toJson, _)) fun _ => rfl

theorem create_one_served {input : List (String × Json)}
    (read : content request = .succeed input)
    (offered : endpoint.resource.options.isHidden .create = false) :
    (answering endpoint (createOne endpoint) request captures database).outcome =
      served endpoint (Bearer.credential request.headers) database (.create input) offered := by
  rw [answering_outcome]
  unfold createOne served
  rw [Steps.run_doing, read]
  apply congrArg
  apply principal_respond (.create input) offered
  intro principal
  rw [handle_for_offered .create offered]
  exact operating_respond (fun created : Record × Backing => (created.1.toJson, created.2))
    fun _ => rfl

theorem update_one_served {wanted : Int} {patch : List (String × Json)}
    (named : identifier captures = .succeed wanted) (read : content request = .succeed patch)
    (offered : endpoint.resource.options.isHidden .update = false) :
    (answering endpoint (updateOne endpoint) request captures database).outcome =
      served endpoint (Bearer.credential request.headers) database (.update wanted patch)
        offered := by
  rw [answering_outcome]
  unfold updateOne served
  rw [Steps.run_doing, named, read]
  apply congrArg
  apply principal_respond (.update wanted patch) offered
  intro principal
  rw [handle_for_offered .update offered]
  exact operating_respond (fun updated : Record × Backing => (updated.1.toJson, updated.2))
    fun _ => rfl

theorem remove_served {wanted : Int}
    (read : identifier captures = .succeed wanted)
    (offered : endpoint.resource.options.isHidden .delete = false) :
    (answering endpoint (remove endpoint) request captures database).outcome =
      served endpoint (Bearer.credential request.headers) database (.remove wanted) offered := by
  rw [answering_outcome]
  unfold remove served
  rw [Steps.run_doing, read]
  apply congrArg
  apply principal_respond (.remove wanted) offered
  intro principal
  rw [handle_for_offered .delete offered]
  exact operating_respond (fun removed : Bool × Backing => (.bool removed.1, removed.2))
    fun _ => rfl

theorem remove_many_served {wanted : FilterRequest}
    (read : readFilterRequest request.query = .ok wanted)
    (offered : endpoint.resource.options.isHidden .delete = false) :
    (answering endpoint (removeMany endpoint) request captures database).outcome =
      served endpoint (Bearer.credential request.headers) database (.removeMany wanted)
        offered := by
  rw [answering_outcome]
  unfold removeMany served
  rw [Steps.run_doing, read]
  apply congrArg
  apply principal_respond (.removeMany wanted) offered
  intro principal
  rw [handle_for_offered .delete offered]
  apply operating_respond fun removed : Bool × Backing => (.bool removed.1, removed.2)
  intro answer
  obtain ⟨removed, backing⟩ := answer
  cases removed <;> rfl

end Handlers
end Rest
end GatedResources
