import GatedResources.Proofs.FailedRequests

/-!
# The stages of a request

A request goes through stages, one after the other: its arguments are read, the caller is
identified, passes the gate, and only then the store is asked. Over HTTP the path and the query
string are read before the caller is identified, and the content afterwards; for a schema all
arguments are read afterwards. The database is an argument of the last stage alone.
-/

namespace GatedResources

/-- Nothing follows a step that gives no value. -/
theorem bind_unread {ε α β γ : Type} {first : Attempt ε α}
    (unread : ∀ value, first.outcome ≠ .done value) {next : α -> Attempt ε β} (change : α -> γ)
    (later : γ -> Outcome ε β) :
    (first >>= next).outcome = (first.outcome.map change >>= later) := by
  rw [Attempt.outcome_bind]
  cases own : first.outcome with
  | done value => exact absurd own (unread value)
  | failed error => rfl
  | crashed => rfl

namespace Operation

def execute (resource : Resource) (backing : Backing) :
    Operation -> Outcome ResourceError (Json × Backing)
  | .findOne identifier => do
      match ← (storing (Store.findById resource.entity backing identifier)).outcome with
      | some record => return (record.toJson, backing)
      | none => .failed (.notFound resource.options.name identifier)
  | .findAll request => do
      let query := (resource.query request).value
      let page ← (storing (Store.findPage resource.entity backing query)).outcome
      return (page.toJson Record.toJson, backing)
  | .create input => do
      let (record, backing) ← (storing (Store.insert resource.entity backing input)).outcome
      return (record.toJson, backing)
  | .update identifier patch => do
      match ← (storing (Store.update resource.entity backing identifier patch)).outcome with
      | (some record, backing) => return (record.toJson, backing)
      | (none, _) => .failed (.notFound resource.options.name identifier)
  | .remove identifier => do
      let (affected, backing) ←
        (storing (Store.deleteById resource.entity backing identifier)).outcome
      return (.bool (decide (0 < affected)), backing)
  | .removeMany request =>
      let predicates := resource.filterPredicates request.filter
      if predicates.isEmpty then
        return (.bool false, backing)
      else do
        let (affected, backing) ←
          (storing (Store.deleteWhere resource.entity backing predicates)).outcome
        return (.bool (decide (0 < affected)), backing)

/-- What follows a gate follows the passing of it. -/
theorem after_gate {ε α β : Type} {performed rest : Outcome ε α} {gate : Outcome ε Unit}
    {encode : α -> Outcome ε β} {answer : Outcome ε β}
    (gated : performed = gate >>= fun _ => rest) (same : (rest >>= encode) = answer) :
    (performed >>= encode) = (gate >>= fun _ => answer) := by
  subst gated same
  cases gate <;> rfl

/-- An operation passes the gate and does nothing before. -/
theorem conduct_gated {resource : Resource} {principal : Principal} {backing : Backing}
    (operation : Operation) (offered : resource.options.isHidden operation.action = false) :
    conduct resource principal backing operation offered =
      ((resource.gate operation.action principal).outcome >>= fun _ =>
        operation.execute resource backing) := by
  cases operation with
  | findOne identifier =>
      refine after_gate (Attempt.outcome_bind _ _) ?_
      rw [Attempt.outcome_bind]
      unfold execute
      dsimp only
      cases (storing (Store.findById resource.entity backing identifier)).outcome with
      | done found => cases found <;> rfl
      | failed error => rfl
      | crashed => rfl
  | findAll request => exact after_gate (Attempt.outcome_bind _ _) rfl
  | create input =>
      refine after_gate (Handle.create_one_outcome ..) ?_
      rw [← Attempt.outcome_convert_error]
      rfl
  | update identifier patch =>
      refine after_gate (Handle.update_one_outcome ..) ?_
      rw [← Attempt.outcome_convert_error]
      unfold execute storing
      dsimp only
      cases ((Store.update resource.entity backing identifier patch).convertError
          ResourceError.ofStoreError).outcome with
      | done answer =>
          obtain ⟨found, left⟩ := answer
          cases found <;> rfl
      | failed error => rfl
      | crashed => rfl
  | remove identifier =>
      refine after_gate (Handle.remove_outcome ..) ?_
      rw [← Attempt.outcome_convert_error]
      unfold execute storing
      dsimp only
      cases ((Store.deleteById resource.entity backing identifier).convertError
          ResourceError.ofStoreError).outcome <;> rfl
  | removeMany request =>
      refine after_gate (Handle.remove_many_where_outcome ..) ?_
      rw [← Attempt.outcome_convert_error, List.append_nil]
      unfold execute storing
      simp only [List.isEmpty_iff]
      split
      · rfl
      · cases ((Store.deleteWhere resource.entity backing
            (resource.filterPredicates request.filter)).convertError
              ResourceError.ofStoreError).outcome <;> rfl

end Operation

namespace Rest

/-! ## Over HTTP -/

def arguments (request : Request) (captures : Captures) : RootOperation -> Outcome Problem Unit
  | .findAll => (queried (readListRequest request.query)).outcome.map fun _ => ()
  | .removeMany => (queried (readFilterRequest request.query)).outcome.map fun _ => ()
  | .findOne | .patch | .remove => (identifier captures).outcome.map fun _ => ()
  | .create => .done ()

def asked (request : Request) (captures : Captures) : RootOperation -> Outcome Problem Operation
  | .findAll => (queried (readListRequest request.query)).outcome.map .findAll
  | .removeMany => (queried (readFilterRequest request.query)).outcome.map .removeMany
  | .findOne => (identifier captures).outcome.map .findOne
  | .remove => (identifier captures).outcome.map .remove
  | .create => (content request).outcome.map .create
  | .patch => do
      let identifier ← (identifier captures).outcome
      (content request).outcome.map (.update identifier)

def staged (endpoint : Endpoint) (request : Request) (captures : Captures) (kind : RootOperation)
    (backing : Backing) : Outcome Problem (Response × Backing) := do
  arguments request captures kind
  let principal ← (principal endpoint kind.action request).outcome
  let operation ← asked request captures kind
  (operating (endpoint.resource.gate kind.action principal)).outcome
  respond operation (operation.execute endpoint.resource backing)

section Stages

variable {endpoint : Endpoint} {request : Request} {captures : Captures} {database : Database}
  {backing : Backing}

theorem asked_action {kind : RootOperation} {operation : Operation}
    (read : asked request captures kind = .done operation) : operation.action = kind.action := by
  cases kind with
  | patch =>
      obtain ⟨wanted, _, rest⟩ := Outcome.bind_eq_done.mp read
      obtain ⟨value, _, rfl⟩ := Outcome.map_eq_done.mp rest
      rfl
  | findAll | removeMany | findOne | remove | create =>
      obtain ⟨value, _, rfl⟩ := Outcome.map_eq_done.mp read
      rfl

/-- A request that asks for an operation has the arguments of the operation. -/
theorem asked_arguments {kind : RootOperation} {operation : Operation}
    (read : asked request captures kind = .done operation) :
    arguments request captures kind = .done () := by
  cases kind with
  | create => rfl
  | patch =>
      obtain ⟨wanted, named, _⟩ := Outcome.bind_eq_done.mp read
      exact Outcome.map_eq_done.mpr ⟨wanted, named, rfl⟩
  | findAll | removeMany | findOne | remove =>
      obtain ⟨wanted, named, _⟩ := Outcome.map_eq_done.mp read
      exact Outcome.map_eq_done.mpr ⟨wanted, named, rfl⟩

/-- The response to an operation that has to pass the gate first. -/
theorem respond_gated (operation : Operation) (gate : Attempt ResourceError Unit)
    (executed : Outcome ResourceError (Json × Backing)) :
    respond operation (gate.outcome >>= fun _ => executed) =
      ((operating gate).outcome >>= fun _ => respond operation executed) := by
  unfold operating
  rw [Attempt.outcome_convert_error]
  cases gate.outcome <;> rfl

theorem staged_performed {kind : RootOperation} {operation : Operation}
    (read : asked request captures kind = .done operation)
    (offered : endpoint.resource.options.isHidden operation.action = false) :
    staged endpoint request captures kind backing =
      respond operation (operation.perform endpoint.resource endpoint.verifier
        (Bearer.credential request.headers) backing offered) := by
  unfold staged principal Operation.perform
  rw [asked_arguments read, read, ← asked_action read, Attempt.outcome_convert_error,
    Outcome.done_bind]
  cases (Gate.identify operation.action endpoint.resource.policy
      (Bearer.credential request.headers) endpoint.verifier).outcome with
  | done principal =>
      rw [Outcome.map_error_done, Outcome.map_error_done, Outcome.done_bind, Outcome.done_bind,
        Outcome.done_bind, Operation.conduct_gated, respond_gated]
  | failed error => rfl
  | crashed => rfl

theorem staged_served {kind : RootOperation} {operation : Operation}
    (read : asked request captures kind = .done operation)
    (offered : endpoint.resource.options.isHidden operation.action = false) :
    concluded endpoint.resource.entity database
        (staged endpoint request captures kind (database.backing endpoint.resource.entity)) =
      served endpoint (Bearer.credential request.headers) database operation offered := by
  rw [staged_performed read offered]
  rfl

/-- A handler that begins by reading the arguments of its operation. -/
theorem reading_staged {α : Type} {kind : RootOperation} {stage : Step α}
    {make : α -> Operation} {next : α -> Steps Problem Response}
    (same : Autocommit.handling endpoint kind request captures = Steps.doing stage >>= next)
    (argued : arguments request captures kind = stage.outcome.map fun _ => ())
    (asks : asked request captures kind = stage.outcome.map make)
    (answered : ∀ value, stage.outcome = .done value →
      ∀ offered : endpoint.resource.options.isHidden (make value).action = false,
        (Autocommit.handler endpoint kind request captures database).outcome =
          served endpoint (Bearer.credential request.headers) database (make value) offered)
    (offered : endpoint.resource.options.isHidden kind.action = false) :
    (Autocommit.handler endpoint kind request captures database).outcome =
      concluded endpoint.resource.entity database
        (staged endpoint request captures kind (database.backing endpoint.resource.entity)) := by
  by_cases readable : ∃ value, stage.outcome = .done value
  · obtain ⟨value, read⟩ := readable
    have wanted : asked request captures kind = .done (make value) := by
      rw [asks, read]
      rfl
    have visible : endpoint.resource.options.isHidden (make value).action = false := by
      rw [asked_action wanted]
      exact offered
    rw [answered value read visible, staged_served wanted visible]
  · refine (answering_outcome _).trans (congrArg _ ?_)
    unfold staged
    rw [same, argued, Steps.run_doing]
    exact bind_unread (not_exists.mp readable) _ _

/-- Every handler answers what the stages of its operation end with. -/
theorem handler_staged (kind : RootOperation)
    (offered : endpoint.resource.options.isHidden kind.action = false) :
    (Autocommit.handler endpoint kind request captures database).outcome =
      concluded endpoint.resource.entity database
        (staged endpoint request captures kind (database.backing endpoint.resource.entity)) := by
  cases kind with
  | findAll =>
      exact reading_staged rfl rfl rfl
        (fun _ read visible => find_all_served (queried_eq_done read) visible) offered
  | findOne =>
      exact reading_staged rfl rfl rfl
        (fun _ read visible => find_one_served (identifier_eq_done read).1 visible) offered
  | remove =>
      exact reading_staged rfl rfl rfl
        (fun _ read visible => remove_served (identifier_eq_done read).1 visible) offered
  | removeMany =>
      exact reading_staged rfl rfl rfl
        (fun _ read visible => remove_many_served (queried_eq_done read) visible) offered
  | create =>
      -- The content is read after the caller is identified, so the principal comes in between.
      by_cases readable : ∃ input, (content request).outcome = .done input
      · obtain ⟨input, read⟩ := readable
        have asks : asked request captures .create = .done (.create input) := by
          unfold asked
          rw [read]
          rfl
        rw [staged_served asks offered]
        exact create_one_served (content_of_carries (content_eq_done read)) offered
      · refine (answering_outcome _).trans (congrArg _ ?_)
        change ((createOne endpoint request captures).run _).outcome = _
        unfold createOne
        rw [Steps.run_doing, Attempt.outcome_bind]
        refine congrArg _ (funext fun principal => ?_)
        exact bind_unread (not_exists.mp readable) _ _
  | patch =>
      by_cases named : ∃ wanted, (identifier captures).outcome = .done wanted
      · obtain ⟨wanted, named⟩ := named
        by_cases readable : ∃ patch, (content request).outcome = .done patch
        · obtain ⟨patch, read⟩ := readable
          have asks : asked request captures .patch = .done (.update wanted patch) := by
            unfold asked
            rw [named, read]
            rfl
          rw [staged_served asks offered]
          exact update_one_served (identifier_eq_done named).1
            (content_of_carries (content_eq_done read)) offered
        · refine (answering_outcome _).trans (congrArg _ ?_)
          change ((updateOne endpoint request captures).run _).outcome = _
          unfold updateOne staged arguments asked
          rw [Steps.run_doing, Attempt.outcome_bind, named, Outcome.done_bind, Steps.run_doing,
            Attempt.outcome_bind]
          refine congrArg _ (funext fun principal => ?_)
          exact bind_unread (not_exists.mp readable) _ _
      · exact (answering_outcome _).trans (congrArg _ (bind_unread (not_exists.mp named) _ _))

end Stages
end Rest

namespace Graph

/-! ## For a schema -/

def asked (arguments : Json) : RootOperation -> Outcome ResourceError Operation
  | .findAll => (readArguments ListRequest.shape arguments).outcome.map .findAll
  | .removeMany => (readArguments bulkShape arguments).outcome.map .removeMany
  | .findOne => (readArguments identifierShape arguments).outcome.map .findOne
  | .remove => (readArguments identifierShape arguments).outcome.map .remove
  | .create => (readArguments creationShape arguments).outcome.map .create
  | .patch => (readArguments patchShape arguments).outcome.map fun change =>
      .update change.identifier change.data

def identified (resource : Resource) (action : Action) (credential : Option String)
    (verifier : Verifier) : Outcome ResourceError Principal :=
  (Gate.identify action resource.policy credential verifier).outcome.mapError
    ResourceError.ofAccessError

def staged (resource : Resource) (kind : RootOperation) (arguments : Json)
    (credential : Option String) (verifier : Verifier) (backing : Backing) :
    Outcome ResourceError (Json × Backing) := do
  let principal ← identified resource kind.action credential verifier
  let operation ← asked arguments kind
  (resource.gate kind.action principal).outcome
  operation.execute resource backing

variable {resource : Resource} {arguments : Json} {credential : Option String}
  {verifier : Verifier} {backing : Backing}

theorem asked_eq_done {kind : RootOperation} {operation : Operation}
    (read : asked arguments kind = .done operation) : Reads arguments kind operation := by
  have mapped : ∀ {α : Type} {shape : Shape α} {make : α -> Operation},
      (readArguments shape arguments).outcome.map make = .done operation →
      ∃ value, readArguments shape arguments = .succeed value ∧ operation = make value := by
    intro α shape make same
    obtain ⟨value, own, rfl⟩ := Outcome.map_eq_done.mp same
    exact ⟨value, read_arguments_succeed own, rfl⟩
  cases kind with
  | findAll =>
      obtain ⟨value, own, rfl⟩ := mapped read
      exact .findAll own
  | findOne =>
      obtain ⟨value, own, rfl⟩ := mapped read
      exact .findOne own
  | create =>
      obtain ⟨value, own, rfl⟩ := mapped read
      exact .create own
  | patch =>
      obtain ⟨value, own, rfl⟩ := mapped read
      exact .patch own
  | remove =>
      obtain ⟨value, own, rfl⟩ := mapped read
      exact .remove own
  | removeMany =>
      obtain ⟨value, own, rfl⟩ := mapped read
      exact .removeMany own

theorem resolve_staged (kind : RootOperation)
    (offered : resource.options.isHidden kind.action = false) :
    (resolve resource kind arguments credential verifier backing).outcome =
      staged resource kind arguments credential verifier backing := by
  by_cases readable : ∃ operation, asked arguments kind = .done operation
  · obtain ⟨operation, read⟩ := readable
    have reads := asked_eq_done read
    rw [← reads.action_eq] at offered
    rw [resolve_reads reads offered]
    unfold Operation.perform staged identified
    rw [read, reads.action_eq]
    refine congrArg _ (funext fun principal => ?_)
    rw [Outcome.done_bind, Operation.conduct_gated, reads.action_eq]
  · have unread : ∀ {α : Type} {shape : Shape α} (make : α -> Operation),
        asked arguments kind = (readArguments shape arguments).outcome.map make →
        ∀ value, (readArguments shape arguments).outcome ≠ .done value := by
      intro α shape make same value own
      rw [own] at same
      exact readable ⟨make value, same⟩
    unfold resolve resolving staged identified
    rw [Steps.run_doing, Attempt.outcome_bind, Attempt.outcome_convert_error]
    refine congrArg _ (funext fun principal => ?_)
    cases kind with
    | findAll => exact bind_unread (unread .findAll rfl) _ _
    | findOne => exact bind_unread (unread .findOne rfl) _ _
    | create => exact bind_unread (unread .create rfl) _ _
    | patch => exact bind_unread (unread _ rfl) _ _
    | remove => exact bind_unread (unread .remove rfl) _ _
    | removeMany => exact bind_unread (unread .removeMany rfl) _ _

end Graph
end GatedResources
