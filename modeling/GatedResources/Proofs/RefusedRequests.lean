import GatedResources.Proofs.Destinations

/-!
# Refused callers learn nothing

The stages before the gate do not look at the database. So a caller who is not identified, or not
allowed to do what is asked, gets the same answer whatever the database holds, and leaves it alone.
-/

namespace GatedResources

/-- Nobody is identified for an action, or whoever is may not do it. -/
def Refused (resource : Resource) (verifier : Verifier) (credential : Option String)
    (action : Action) : Prop :=
  ∀ principal, (Gate.identify action resource.policy credential verifier).outcome =
      .done principal →
    (Gate.authorize action principal resource.policy).outcome ≠ .done ()

/-- Steps that end in one way, without a result, whatever the backing. -/
def Blind {ε α : Type} (steps : Backing -> Outcome ε α) : Prop :=
  (∃ error, ∀ backing, steps backing = .failed error) ∨ ∀ backing, steps backing = .crashed

section Steps

variable {ε α β : Type} {first : Outcome ε β} {rest : β -> Backing -> Outcome ε α}

theorem Blind.after (blind : ∀ value, first = .done value → Blind (rest value)) :
    Blind fun backing => first >>= fun value => rest value backing := by
  cases first with
  | done value => exact blind value rfl
  | failed error => exact .inl ⟨error, fun _ => rfl⟩
  | crashed => exact .inr fun _ => rfl

theorem Blind.stopped (stops : ∀ value, first ≠ .done value) :
    Blind fun backing => first >>= fun value => rest value backing :=
  .after fun value same => absurd same (stops value)

end Steps

section Gates

variable {resource : Resource} {verifier : Verifier} {credential : Option String} {action : Action}

theorem Refused.stopped (refused : Refused resource verifier credential action)
    {principal : Principal}
    (identified : (Gate.identify action resource.policy credential verifier).outcome =
      .done principal) (passed : Unit) :
    (resource.gate action principal).outcome ≠ .done passed := by
  unfold Resource.gate
  rw [Attempt.outcome_convert_error, ne_eq, Outcome.map_error_eq_done]
  exact refused principal identified

theorem Refused.rest_blind {endpoint : Rest.Endpoint} {request : Request} {captures : Captures}
    {kind : RootOperation}
    (refused : Refused endpoint.resource endpoint.verifier (Bearer.credential request.headers)
      kind.action) : Blind (Rest.staged endpoint request captures kind) := by
  unfold Rest.staged
  refine .after fun _ _ => .after fun principal known => .after fun operation _ => .stopped ?_
  intro passed opened
  unfold Rest.principal at known
  unfold Rest.operating at opened
  rw [Attempt.outcome_convert_error, Outcome.map_error_eq_done] at known opened
  exact refused.stopped known passed opened

theorem Refused.graph_blind {kind : RootOperation} {arguments : Json}
    (refused : Refused resource verifier credential kind.action) :
    Blind (Graph.staged resource kind arguments credential verifier) := by
  unfold Graph.staged
  refine .after fun principal known => .after fun operation _ => .stopped ?_
  unfold Graph.identified at known
  rw [Outcome.map_error_eq_done] at known
  exact refused.stopped known

end Gates

/-- Answers without a database that was looked at or changed. -/
def Unmoved {α : Type} (answers : Database -> Outcome Empty (α × Database)) : Prop :=
  ∃ ending : Outcome Empty α, ∀ database,
    answers database = ending.map fun answer => (answer, database)

theorem Blind.concluded_unmoved {steps : Backing -> Outcome Problem (Response × Backing)}
    (blind : Blind steps) (entity : Entity) :
    Unmoved fun database => Rest.concluded entity database (steps (database.backing entity)) := by
  rcases blind with ⟨problem, same⟩ | same
  · refine ⟨.done problem.response, fun database => ?_⟩
    dsimp only
    rw [same]
    rfl
  · refine ⟨.crashed, fun database => ?_⟩
    dsimp only
    rw [same]
    rfl

theorem Unmoved.changed {α β : Type} {answers : Database -> Outcome Empty (α × Database)}
    (unmoved : Unmoved answers) (change : α -> β) :
    Unmoved fun database => (answers database).map fun answer => (change answer.1, answer.2) := by
  obtain ⟨ending, same⟩ := unmoved
  refine ⟨ending.map change, fun database => ?_⟩
  dsimp only
  rw [same]
  cases ending <;> rfl

namespace Rest

/-- Over HTTP a caller is refused, when the action of the method is. -/
theorem refused_unmoved {endpoint : Endpoint} {router : Router} {request : Request}
    (built : (Rest.router endpoint).outcome = .done router)
    (refused : ∀ action, methodAction request.method = some action →
      Refused endpoint.resource endpoint.verifier (Bearer.credential request.headers) action) :
    Unmoved fun database => (router.handle request database).outcome := by
  have same : (fun database => (router.handle request database).outcome) = fun database =>
      (destination endpoint.resource request).answer endpoint request database :=
    funext (handle_destination built)
  rw [same]
  cases reached : destination endpoint.resource request with
  | nowhere => exact ⟨.done (Response.bare 404), fun _ => rfl⟩
  | refused allowed => exact ⟨.done { Response.bare 405 with allow := some allowed }, fun _ => rfl⟩
  | reached kind captures headOnly =>
      have blind : Blind (staged endpoint request captures kind) :=
        (refused kind.action (destination_offered reached).2).rest_blind
      exact (blind.concluded_unmoved endpoint.resource.entity).changed fun response =>
        if headOnly then response.head else response

end Rest

namespace Graph

def Refuses (resources : List Resource) (verifier : Verifier) (credential : Option String)
    (request : GraphRequest) : Prop :=
  ∀ owner ∈ resources, ∀ field ∈ owner.rootFields, field.type = request.type →
    field.name = request.field → Refused owner verifier credential field.operation.action

theorem refused_execute {resources : List Resource} {schema : Schema} {verifier : Verifier}
    {credential : Option String} {request : GraphRequest}
    (registered : (Schema.registerAll resources Schema.empty).outcome = .done schema)
    (refuses : Refuses resources verifier credential request) :
    ∃ ending : Outcome Empty (Nat × GraphResponse), ∀ database,
      (schema.execute verifier database request credential).outcome =
        ending.map fun answer => (answer.1, answer.2, database) := by
  have holds := Schema.holds_empty.register_all registered
  cases sought : schema.find? request.type request.field with
  | none =>
      refine ⟨.done (400, .failure (GraphError.unknownField request.type request.field)), ?_⟩
      intro database
      unfold Schema.execute
      rw [sought]
      rfl
  | some entry =>
      have member : entry ∈ schema.entries := List.mem_of_find?_eq_some sought
      obtain ⟨owner, own⟩ := holds.owned entry member
      have named : entry.field.type = request.type ∧ entry.field.name = request.field := by
        simpa using List.find?_some sought
      have refused := refuses entry.resource owner entry.field own named.1 named.2
      have offered := Resource.root_field_offered own
      have blind : Blind (staged entry.resource entry.field.operation request.arguments credential
          verifier) := refused.graph_blind
      rcases blind with ⟨error, same⟩ | same
      · refine ⟨.done (200, .failure (GraphError.ofResourceError error).value), fun database => ?_⟩
        rw [Schema.execute_entry sought, resolve_staged _ offered, same]
        rfl
      · refine ⟨.crashed, fun database => ?_⟩
        rw [Schema.execute_entry sought, resolve_staged _ offered, same]
        rfl

/-- The same through the endpoint, where the request is a text. -/
theorem refused_handler {resources : List Resource} {schema : Schema} {verifier : Verifier}
    {request : Request} {captures : Captures}
    (registered : (Schema.registerAll resources Schema.empty).outcome = .done schema)
    (refuses : ∀ wanted, GraphRequest.ofText request.body = .ok wanted →
      Refuses resources verifier (Bearer.credential request.headers) wanted) :
    Unmoved fun database => (handler schema verifier request captures database).outcome := by
  unfold handler
  split
  · split
    · next wanted read =>
        obtain ⟨ending, same⟩ := refused_execute registered (refuses wanted read)
        refine ⟨ending.map fun answer => Response.ofJson answer.1 answer.2.toJson, ?_⟩
        intro database
        dsimp only
        rw [Attempt.outcome_bind, same]
        cases ending <;> rfl
    · next fault read => exact ⟨.done (badRequest fault.message), fun _ => rfl⟩
  · exact ⟨.done (badRequest ContentType.expectedText), fun _ => rfl⟩

end Graph

/-- A refused caller learns nothing about the database, and changes nothing: every database gives
the same answer, and stays as it is. -/
theorem refused_learn_nothing (verifier : Verifier) :
    (∀ resource router request, (Rest.router ⟨resource, verifier⟩).outcome = .done router →
      (∀ action, Rest.methodAction request.method = some action →
        Refused resource verifier (Bearer.credential request.headers) action) →
      ∃ ending : Outcome Empty Response, ∀ database,
        (router.handle request database).outcome =
          ending.map fun response => (response, database)) ∧
    (∀ resources schema, (Schema.registerAll resources Schema.empty).outcome = .done schema →
      (∀ request credential, Graph.Refuses resources verifier credential request →
        ∃ ending : Outcome Empty (Nat × GraphResponse), ∀ database,
          (schema.execute verifier database request credential).outcome =
            ending.map fun answer => (answer.1, answer.2, database)) ∧
      (∀ request captures,
        (∀ wanted, GraphRequest.ofText request.body = .ok wanted →
          Graph.Refuses resources verifier (Bearer.credential request.headers) wanted) →
        ∃ ending : Outcome Empty Response, ∀ database,
          (Graph.handler schema verifier request captures database).outcome =
            ending.map fun response => (response, database))) := by
  constructor
  · intro resource router request built refused
    exact Rest.refused_unmoved built refused
  · intro resources schema registered
    constructor
    · intro request credential refuses
      exact Graph.refused_execute registered refuses
    · intro request captures refuses
      exact Graph.refused_handler registered refuses

/-- A guessed credential gets the same answer for a secret question as for no table at all. -/
theorem guess_learns_nothing :
    let verifier : Verifier := fun _ => .failed (.unauthorized "unknown token")
    let request : Request := ⟨"GET", "/faqs/1", none, [("authorization", "Bearer guess")], ""⟩
    let secret : Record := [("id", .integer 1), ("question", .text "Why?"), ("answer", .text ""),
      ("status", .text "draft")]
    let filled : Database := ⟨[("faqs", ⟨[secret], 2⟩)]⟩
    ∃ router response,
      (Rest.router ⟨⟨Entity.faqs, ResourceOptions.named "faqs"⟩, verifier⟩).outcome =
        .done router ∧
      (router.handle request Database.empty).outcome = .done (response, Database.empty) ∧
      (router.handle request filled).outcome = .done (response, filled) := by
  intro verifier request secret filled
  let refusal := (Problem.ofResourceError .unauthenticated).value.response
  have handled : ((Rest.router ⟨⟨Entity.faqs, ResourceOptions.named "faqs"⟩, verifier⟩).outcome >>=
      fun router => (router.handle request Database.empty).outcome) =
        .done (refusal, Database.empty) := by
    decide +kernel
  obtain ⟨router, built, answered⟩ := Outcome.bind_eq_done.mp handled
  have refused : ∀ action, Rest.methodAction request.method = some action →
      Refused ⟨Entity.faqs, ResourceOptions.named "faqs"⟩ verifier
        (Bearer.credential request.headers) action := by
    intro action _ principal identified
    rcases Gate.identify_eq_done.mp identified with ⟨isOpen, _⟩ | ⟨_, text, caller, _, known, _⟩
    · cases isOpen
    · cases known
  obtain ⟨ending, same⟩ := (refused_learn_nothing verifier).1 _ router request built refused
  have ended : ending = .done refusal := by
    have empty := (same Database.empty).symm.trans answered
    cases ending with
    | done response =>
        cases empty
        rfl
    | failed error => cases empty
    | crashed => cases empty
  subst ended
  exact ⟨router, refusal, built, answered, same filled⟩

end GatedResources
