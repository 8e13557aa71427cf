import GatedResources.Proofs.Autocommit
import GatedResources.Graph.Endpoint
import GatedResources.Proofs.GraphService
import GatedResources.Proofs.RestRoutes

/-!
# Failed requests change nothing

Requests are served in steps as well, over HTTP and for a schema. Here whatever the steps have left
is stored, also when the answer is a failure; it is what was there.
-/

namespace GatedResources

namespace Autocommit

/-! ## Requests over HTTP -/

section Http

variable {endpoint : Rest.Endpoint} {request : Request} {captures : Captures}
  {database : Database}

def handling (endpoint : Rest.Endpoint) :
    RootOperation -> Request -> Captures -> Steps Problem Response
  | .findAll => Rest.findAll endpoint
  | .findOne => Rest.findOne endpoint
  | .create => Rest.createOne endpoint
  | .patch => Rest.updateOne endpoint
  | .remove => Rest.remove endpoint
  | .removeMany => Rest.removeMany endpoint

def serve (endpoint : Rest.Endpoint) (request : Request) (captures : Captures)
    (operation : RootOperation) : Autocommit Problem Response :=
  ofSteps (handling endpoint operation request captures)

/-- Stores what the steps of an answer have left, however they ended. -/
def answered (endpoint : Rest.Endpoint) (database : Database)
    (steps : Autocommit Problem Response) : Outcome Empty (Response × Database) :=
  let (ended, left) := steps.run (database.backing endpoint.resource.entity)
  let kept := database.store endpoint.resource.entity left
  match ended with
  | .done response => .done (response, kept)
  | .failed problem => .done (problem.response, kept)
  | .crashed => .crashed

def handler (endpoint : Rest.Endpoint) (operation : RootOperation) : Handler :=
  Rest.answering endpoint (handling endpoint operation)

/-- A handler answers as steps do and stores what they have left; the steps that fail have left
what was there. -/
structure Serves (endpoint : Rest.Endpoint)
    (steps : Request -> Captures -> Autocommit Problem Response) (handler : Handler) : Prop where
  spares : ∀ request captures, (steps request captures).Spares
  outcome_eq : ∀ request captures database, (handler request captures database).outcome =
    answered endpoint database (steps request captures)

theorem answering_serves {steps : Request -> Captures -> Steps Problem Response}
    (whole : ∀ request captures, (steps request captures).IsWhole) :
    Serves endpoint (fun request captures => ofSteps (steps request captures))
      (Rest.answering endpoint steps) := by
  constructor
  · intro request captures
    exact (whole request captures).spares
  · intro request captures database
    rw [Rest.answering_outcome]
    unfold answered
    rw [whole]
    cases ((steps request captures).run (database.backing endpoint.resource.entity)).outcome with
    | done answer => rfl
    | failed problem =>
        dsimp only [ending]
        rw [Database.store_backing]
        rfl
    | crashed => rfl

theorem handling_whole (operation : RootOperation) (request : Request) (captures : Captures) :
    (handling endpoint operation request captures).IsWhole := by
  cases operation with
  | findAll =>
      change (Rest.findAll endpoint request captures).IsWhole
      exact .attempt fun _ => .attempt fun _ => .attempt fun _ => .read fun _ => .answer _
  | findOne =>
      change (Rest.findOne endpoint request captures).IsWhole
      exact .attempt fun _ => .attempt fun _ => .attempt fun _ => .read fun _ => .answer _
  | create =>
      change (Rest.createOne endpoint request captures).IsWhole
      refine .attempt fun principal => .attempt fun input => .attempt fun handle => ?_
      exact .call (create_one_whole handle principal input) fun _ _ _ _ => rfl
  | patch =>
      change (Rest.updateOne endpoint request captures).IsWhole
      refine .attempt fun identifier => .attempt fun principal => .attempt fun patch => ?_
      refine .attempt fun handle => ?_
      exact .call (update_one_whole handle principal identifier patch) fun _ _ _ _ => rfl
  | remove =>
      change (Rest.remove endpoint request captures).IsWhole
      refine .attempt fun identifier => .attempt fun principal => .attempt fun handle => ?_
      exact .call (remove_whole handle principal identifier) fun _ _ _ _ => rfl
  | removeMany =>
      change (Rest.removeMany endpoint request captures).IsWhole
      refine .attempt fun wanted => .attempt fun principal => .attempt fun handle => ?_
      refine .call (remove_many_where_whole handle principal wanted []) ?_
      intro backing removed left done
      cases removed with
      | true => rfl
      | false =>
          -- A removal of nothing is a problem that is noticed after the statement.
          exact Steps.closes_of_unchanged (.attempt fun _ => .answer _)
            (Handle.removed_nothing done)

theorem handler_serves (operation : RootOperation) :
    Serves endpoint (fun request captures => serve endpoint request captures operation)
      (handler endpoint operation) :=
  answering_serves (handling_whole operation)

def IsCautious (handler : Handler) : Prop :=
  ∀ request captures database response after,
    (handler request captures database).outcome = .done (response, after) →
      (200 ≤ response.status ∧ response.status < 300) ∨ after = database

def Succeeds (steps : Steps Problem Response) : Prop :=
  ∀ backing response left, (steps.run backing).outcome = .done (response, left) →
    response.status = 200 ∨ response.status = 201

theorem Succeeds.after {α : Type} {first : Steps Problem α} {next : α -> Steps Problem Response}
    (succeeds : ∀ value, Succeeds (next value)) : Succeeds (first >>= next) := by
  intro backing response left done
  rw [Steps.run_bind, Attempt.outcome_bind] at done
  obtain ⟨⟨value, between⟩, _, done⟩ := Outcome.bind_eq_done.mp done
  exact succeeds value between response left done

theorem succeeds_ok (value : Json) : Succeeds (pure (Response.ofJson 200 value)) := by
  intro backing response left done
  cases done
  exact .inl rfl

theorem answering_cautious {steps : Request -> Captures -> Steps Problem Response}
    (succeeds : ∀ request captures, Succeeds (steps request captures)) :
    IsCautious (Rest.answering endpoint steps) := by
  intro request captures database response after done
  rw [Rest.answering_outcome] at done
  cases ended :
      ((steps request captures).run (database.backing endpoint.resource.entity)).outcome with
  | done answer =>
      rw [ended] at done
      cases done
      have success := succeeds request captures _ _ _ ended
      exact .inl (by omega)
  | failed problem =>
      rw [ended] at done
      cases done
      exact .inr rfl
  | crashed =>
      rw [ended] at done
      cases done

theorem handling_succeeds (operation : RootOperation) (request : Request) (captures : Captures) :
    Succeeds (handling endpoint operation request captures) := by
  cases operation with
  | findAll | findOne | remove =>
      exact .after fun _ => .after fun _ => .after fun _ => .after fun _ => succeeds_ok _
  | create =>
      refine .after fun _ => .after fun _ => .after fun _ => .after fun _ => ?_
      intro backing response left done
      cases done
      exact .inr rfl
  | patch =>
      exact .after fun _ => .after fun _ => .after fun _ => .after fun _ => .after fun _ =>
        succeeds_ok _
  | removeMany =>
      refine .after fun _ => .after fun _ => .after fun _ => .after fun removed => ?_
      cases removed with
      | true => exact succeeds_ok _
      | false =>
          intro backing response left done
          cases done

theorem handler_cautious (operation : RootOperation) :
    IsCautious (handler endpoint operation) :=
  answering_cautious (handling_succeeds operation)

theorem collection_cautious {method : String} {held : Handler}
    (member : (method, held) ∈ Rest.collection endpoint) : IsCautious held := by
  unfold Rest.collection at member
  dsimp only at member
  rcases List.mem_append.mp member with member | removes
  · rcases List.mem_append.mp member with finds | creates
    · cases (Rest.offering_member finds).2
      exact handler_cautious .findAll
    · cases (Rest.offering_member creates).2
      exact handler_cautious .create
  · cases (Rest.offering_member removes).2
    exact handler_cautious .removeMany

theorem item_cautious {method : String} {held : Handler}
    (member : (method, held) ∈ Rest.item endpoint) : IsCautious held := by
  unfold Rest.item at member
  dsimp only at member
  rcases List.mem_append.mp member with member | removes
  · rcases List.mem_append.mp member with finds | updates
    · cases (Rest.offering_member finds).2
      exact handler_cautious .findOne
    · cases (Rest.offering_member updates).2
      exact handler_cautious .patch
  · cases (Rest.offering_member removes).2
    exact handler_cautious .remove

/-- What the router answers is a success or has left the database as it was. -/
theorem router_cautious {router : Router} {response : Response} {after : Database}
    (built : (Rest.router endpoint).outcome = .done router)
    (done : (router.handle request database).outcome = .done (response, after)) :
    (200 ≤ response.status ∧ response.status < 300) ∨ after = database := by
  obtain ⟨first, second, routes, isFirst, isSecond⟩ := Rest.router_routes built
  have cautious : ∀ {route : Route} {captures : Captures} {method : String} {held : Handler},
      router.find? request.path = some (route, captures) →
      route.methods.lookup method = some held → IsCautious held := by
    intro route captures method held sought found
    have entry := Rest.lookup_member found
    obtain ⟨member, _⟩ := Router.find_some sought
    rw [routes] at member
    rcases List.mem_append.mp member with inFirst | inSecond
    · rw [(Rest.is_route_methods isFirst inFirst).1] at entry
      exact collection_cautious entry
    · rw [(Rest.is_route_methods isSecond inSecond).1] at entry
      exact item_cautious entry
  unfold Router.handle at done
  split at done
  · cases done
    exact .inr rfl
  · next route captures sought =>
      split at done
      · next held found => exact cautious sought found _ _ _ _ _ done
      · split at done
        · next held isHead found =>
            rw [Attempt.outcome_bind] at done
            obtain ⟨⟨whole, left⟩, ended, finished⟩ := Outcome.bind_eq_done.mp done
            cases finished
            exact cautious sought found _ _ _ whole _ ended
        · cases done
          exact .inr rfl

end Http

/-! ## Requests to a schema -/

section Schemas

variable {resource : Resource} {verifier : Verifier} {credential : Option String}
  {database after : Database}

def resolve (resource : Resource) (operation : RootOperation) (arguments : Json)
    (credential : Option String) (verifier : Verifier) : Autocommit ResourceError Json :=
  ofSteps (Graph.resolving resource operation arguments credential verifier)

theorem resolve_whole (operation : RootOperation) (arguments : Json) :
    (resolve resource operation arguments credential verifier).Whole fun backing =>
      Graph.resolve resource operation arguments credential verifier backing := by
  change (Graph.resolving resource operation arguments credential verifier).IsWhole
  apply Steps.IsWhole.attempt
  intro principal
  cases operation with
  | findOne | findAll =>
      exact .attempt fun _ => .attempt fun _ => .read fun _ => .answer _
  | create =>
      refine .attempt fun input => .attempt fun handle => ?_
      change (handle.creating principal input >>= _).IsWhole
      exact .bind (create_one_whole handle principal input) fun _ _ _ _ => rfl
  | patch =>
      refine .attempt fun patch => .attempt fun handle => ?_
      change (handle.updating principal patch.identifier patch.data >>= _).IsWhole
      exact .bind (update_one_whole handle principal patch.identifier patch.data)
        fun _ _ _ _ => rfl
  | remove =>
      refine .attempt fun identifier => .attempt fun handle => ?_
      change (handle.removing principal identifier >>= _).IsWhole
      exact .bind (remove_whole handle principal identifier) fun _ _ _ _ => rfl
  | removeMany =>
      refine .attempt fun wanted => .attempt fun handle => ?_
      change (handle.removingMany principal wanted >>= _).IsWhole
      exact .bind (remove_many_where_whole handle principal wanted []) fun _ _ _ _ => rfl

def executed (entity : Entity) (database : Database) (field : String)
    (steps : Autocommit ResourceError Json) : Outcome Empty (Nat × GraphResponse × Database) :=
  let (ended, left) := steps.run (database.backing entity)
  let kept := database.store entity left
  match ended with
  | .done value => .done (200, .data field value, kept)
  | .failed error => .done (200, .failure (GraphError.ofResourceError error).value, kept)
  | .crashed => .crashed

theorem execute_outcome {schema : Schema} {request : GraphRequest} {entry : SchemaEntry}
    (sought : schema.find? request.type request.field = some entry) :
    (schema.execute verifier database request credential).outcome =
      executed entry.resource.entity database request.field
        (resolve entry.resource entry.field.operation request.arguments credential verifier) := by
  rw [Schema.execute_entry sought]
  unfold executed
  rw [resolve_whole]
  cases (Graph.resolve entry.resource entry.field.operation request.arguments credential verifier
      (database.backing entry.resource.entity)).outcome with
  | done answer => rfl
  | failed error =>
      dsimp only [ending]
      rw [Database.store_backing]
      rfl
  | crashed => rfl

theorem execute_failure {schema : Schema} {request : GraphRequest} {status : Nat}
    {error : GraphError}
    (done : (schema.execute verifier database request credential).outcome =
      .done (status, .failure error, after)) : after = database := by
  cases sought : schema.find? request.type request.field with
  | none =>
      unfold Schema.execute at done
      rw [sought, Attempt.outcome_bind] at done
      cases done
      rfl
  | some entry =>
      rw [Schema.execute_entry sought] at done
      cases ended : (Graph.resolve entry.resource entry.field.operation request.arguments credential
          verifier (database.backing entry.resource.entity)).outcome with
      | done answer =>
          rw [ended] at done
          cases done
      | failed own =>
          rw [ended] at done
          cases done
          rfl
      | crashed =>
          rw [ended] at done
          cases done

/-- A response of the endpoint that holds errors has left the database as it was. -/
theorem graph_handler_errors {schema : Schema} {request : Request} {captures : Captures}
    {response : Response} {members : List (String × Json)}
    (done : (Graph.handler schema verifier request captures database).outcome =
      .done (response, after)) (body : response.body = .json (.object members))
    (errors : members.lookup "errors" ≠ none) : after = database := by
  unfold Graph.handler at done
  split at done
  · split at done
    · next wanted read =>
        rw [Attempt.outcome_bind] at done
        obtain ⟨⟨status, answer, left⟩, ended, finished⟩ := Outcome.bind_eq_done.mp done
        cases finished
        cases answer with
        | data field value =>
            cases body
            exact absurd rfl errors
        | failure error => exact execute_failure ended
    · cases done
      rfl
  · cases done
    rfl

end Schemas

/-- What fails has changed nothing: an operation of the store, an operation of a resource, a
request over HTTP and a request to a schema, even where everything that their steps have left is
kept. -/
theorem failures_change_nothing :
    (∀ entity fields, (insert entity fields).Spares ∧
      (insert entity fields).Whole fun backing => Store.insert entity backing fields) ∧
    (∀ entity identifier patch, (update entity identifier patch).Spares ∧
      (update entity identifier patch).Whole fun backing =>
        Store.update entity backing identifier patch) ∧
    (∀ entity predicates, (deleteWhere entity predicates).Spares ∧
      (deleteWhere entity predicates).Whole fun backing =>
        Store.deleteWhere entity backing predicates) ∧
    (∀ entity identifier, (deleteById entity identifier).Spares ∧
      (deleteById entity identifier).Whole fun backing =>
        Store.deleteById entity backing identifier) ∧
    (∀ handle principal input, (createOne handle principal input).Spares ∧
      (createOne handle principal input).Whole fun backing =>
        handle.createOne principal backing input) ∧
    (∀ handle principal identifier patch, (updateOne handle principal identifier patch).Spares ∧
      (updateOne handle principal identifier patch).Whole fun backing =>
        handle.updateOne principal backing identifier patch) ∧
    (∀ handle principal identifier, (remove handle principal identifier).Spares ∧
      (remove handle principal identifier).Whole fun backing =>
        handle.remove principal backing identifier) ∧
    (∀ handle principal request extra, (removeManyWhere handle principal request extra).Spares ∧
      (removeManyWhere handle principal request extra).Whole fun backing =>
        handle.removeManyWhere principal backing request extra) ∧
    (∀ endpoint operation, Serves endpoint
      (fun request captures => serve endpoint request captures operation)
      (handler endpoint operation)) ∧
    (∀ endpoint router request database response after,
      (Rest.router endpoint).outcome = .done router →
      (router.handle request database).outcome = .done (response, after) →
      ¬(200 ≤ response.status ∧ response.status < 300) → after = database) ∧
    (∀ resource operation arguments credential verifier,
      (resolve resource operation arguments credential verifier).Spares) ∧
    (∀ (schema : Schema) verifier database (request : GraphRequest) credential entry,
      schema.find? request.type request.field = some entry →
      (schema.execute verifier database request credential).outcome =
        executed entry.resource.entity database request.field
          (resolve entry.resource entry.field.operation request.arguments credential verifier)) ∧
    (∀ schema verifier request captures database response members after,
      (Graph.handler schema verifier request captures database).outcome =
        .done (response, after) →
      response.body = .json (.object members) → members.lookup "errors" ≠ none →
      after = database) := by
  refine ⟨?_, ?_, ?_, ?_, ?_, ?_, ?_, ?_, ?_, ?_, ?_, ?_, ?_⟩
  · intro entity fields
    exact ⟨(insert_whole fields).spares, insert_whole fields⟩
  · intro entity identifier patch
    exact ⟨(update_whole identifier patch).spares, update_whole identifier patch⟩
  · intro entity predicates
    exact ⟨(delete_where_whole predicates).spares, delete_where_whole predicates⟩
  · intro entity identifier
    exact ⟨(delete_by_id_whole identifier).spares, delete_by_id_whole identifier⟩
  · intro handle principal input
    have whole := create_one_whole handle principal input
    exact ⟨whole.spares, whole⟩
  · intro handle principal identifier patch
    have whole := update_one_whole handle principal identifier patch
    exact ⟨whole.spares, whole⟩
  · intro handle principal identifier
    have whole := remove_whole handle principal identifier
    exact ⟨whole.spares, whole⟩
  · intro handle principal request extra
    have whole := remove_many_where_whole handle principal request extra
    exact ⟨whole.spares, whole⟩
  · intro endpoint operation
    exact handler_serves operation
  · intro endpoint router request database response after built done failure
    exact (router_cautious built done).resolve_left failure
  · intro resource operation arguments credential verifier
    exact (resolve_whole operation arguments).spares
  · intro schema verifier database request credential entry sought
    exact execute_outcome sought
  · intro schema verifier request captures database response members after done body errors
    exact graph_handler_errors done body errors

/-- A patch of a record that is not there is not found, and nothing has changed. -/
theorem missing_question_unchanged :
    let resource : Resource :=
      ⟨Entity.faqs, { ResourceOptions.named "faqs" with policy := ⟨Action.all, []⟩ }⟩
    let verifier : Verifier := fun _ => .failed .missingCredential
    let request : Request := ⟨"PATCH", "/faqs/7", none, [("content-type", "application/json")],
      "\x7b\"question\": \"Why?\"\x7d"⟩
    let record : Record := [("id", .integer 1), ("question", .text "How?"), ("answer", .text ""),
      ("status", .text "draft")]
    let database : Database := ⟨[("faqs", ⟨[record], 2⟩)]⟩
    ∃ router response after, (Rest.router ⟨resource, verifier⟩).outcome = .done router ∧
      (router.handle request database).outcome = .done (response, after) ∧
      response.status = 404 ∧ after = database := by
  intro resource verifier request record database
  have handled : ((Rest.router ⟨resource, verifier⟩).outcome >>= fun router =>
      (router.handle request database).outcome >>= fun answer => .done answer.1.status) =
        .done 404 := by
    decide +kernel
  obtain ⟨router, built, handled⟩ := Outcome.bind_eq_done.mp handled
  obtain ⟨⟨response, after⟩, done, status⟩ := Outcome.bind_eq_done.mp handled
  have missing : response.status = 404 := by
    simpa using status
  obtain ⟨_, _, _, _, _, _, _, _, _, overHttp, _⟩ := failures_change_nothing
  exact ⟨router, response, after, built, done, missing,
    overHttp _ _ _ _ _ _ built done (by omega)⟩

end Autocommit
end GatedResources
