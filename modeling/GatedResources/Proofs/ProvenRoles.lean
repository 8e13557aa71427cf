import GatedResources.Proofs.Destinations
import GatedResources.Proofs.GateDecision

/-!
# Credentials matter through the roles they prove

Two runs of a request are compared that differ in the credential and in the verifier alone. A
public action is done anonymously, so there is nothing to differ in; for any other action the two
callers pass the gate alike as soon as their scopes spell the same roles. No later stage looks at
the principal again.
-/

namespace GatedResources

/-- Two credentials, each for its verifier, that make no difference to an action: it is public, or
both stand for callers whose scopes spell the same roles. -/
def ProveAlike (resource : Resource) (action : Action) (verifier : Verifier)
    (credential : Option String) (otherVerifier : Verifier) (other : Option String) : Prop :=
  resource.policy.isPublic action = true ∨
    ∃ text caller otherText otherCaller, credential = some text ∧ verifier text = .done caller ∧
      other = some otherText ∧ otherVerifier otherText = .done otherCaller ∧
      ∀ role : Role, EqualIgnoringCase role.name caller.scope ↔
        EqualIgnoringCase role.name otherCaller.scope

structure Request.SameBesidesCredential (first second : Request) : Prop where
  method : first.method = second.method
  path : first.path = second.path
  query : first.query = second.query
  body : first.body = second.body
  headers : first.headers.filter (fun header => Role.foldCase header.1 != "authorization".toList) =
    second.headers.filter (fun header => Role.foldCase header.1 != "authorization".toList)

section Gates

variable {resource : Resource} {action : Action} {verifier otherVerifier : Verifier}
  {credential other : Option String}

theorem decide_alike {caller otherCaller : Caller} (policy : Policy)
    (alike : ∀ role : Role, EqualIgnoringCase role.name caller.scope ↔
      EqualIgnoringCase role.name otherCaller.scope) :
    Gate.decide action caller policy = Gate.decide action otherCaller policy := by
  have admits : ∀ role : Role,
      role.admitsScope caller.scope = role.admitsScope otherCaller.scope := by
    intro role
    rw [Bool.eq_iff_iff, Role.admits_scope_iff, Role.admits_scope_iff, alike]
  unfold Gate.decide
  simp only [admits]

theorem gate_alike {caller otherCaller : Caller}
    (alike : ∀ role : Role, EqualIgnoringCase role.name caller.scope ↔
      EqualIgnoringCase role.name otherCaller.scope) :
    (resource.gate action (.identified caller)).outcome =
      (resource.gate action (.identified otherCaller)).outcome := by
  unfold Resource.gate Gate.authorize
  rw [Attempt.outcome_convert_error, Attempt.outcome_convert_error]
  dsimp only
  rw [decide_alike resource.policy alike]
  cases resource.policy.isPublic action with
  | true => rfl
  | false => cases Gate.decide action otherCaller resource.policy <;> rfl

/-- Both credentials identify principals, whom the gate treats alike. -/
theorem ProveAlike.principals
    (alike : ProveAlike resource action verifier credential otherVerifier other) :
    ∃ principal otherPrincipal,
      (Gate.identify action resource.policy credential verifier).outcome = .done principal ∧
      (Gate.identify action resource.policy other otherVerifier).outcome = .done otherPrincipal ∧
      (resource.gate action principal).outcome =
        (resource.gate action otherPrincipal).outcome := by
  cases isOpen : resource.policy.isPublic action with
  | true =>
      exact ⟨.anonymous, .anonymous, Gate.identify_eq_done.mpr (.inl ⟨isOpen, rfl⟩),
        Gate.identify_eq_done.mpr (.inl ⟨isOpen, rfl⟩), rfl⟩
  | false =>
      rcases alike with opened | ⟨text, caller, otherText, otherCaller, shown, known, otherShown,
        otherKnown, alike⟩
      · rw [isOpen] at opened
        cases opened
      · exact ⟨.identified caller, .identified otherCaller,
          Gate.identify_eq_done.mpr (.inr ⟨isOpen, text, caller, shown, known, rfl⟩),
          Gate.identify_eq_done.mpr (.inr ⟨isOpen, otherText, otherCaller, otherShown, otherKnown,
            rfl⟩), gate_alike alike⟩

end Gates

namespace Headers

/-- Headers other than the one of the credential are found alike. -/
theorem first_same {headers others : Headers} {name : String}
    (same : headers.filter (fun header => Role.foldCase header.1 != "authorization".toList) =
      others.filter (fun header => Role.foldCase header.1 != "authorization".toList))
    (differs : Role.foldCase name ≠ "authorization".toList) :
    headers.first name = others.first name := by
  have kept : ∀ headers : Headers, headers.first name = Headers.first
      (headers.filter fun header => Role.foldCase header.1 != "authorization".toList) name := by
    intro headers
    unfold first
    rw [List.find?_filter]
    apply congrArg
    apply congrArg fun wanted => headers.find? wanted
    funext header
    unfold Role.foldCase at differs ⊢
    cases named : header.1.toList.map Char.toLower == name.toList.map Char.toLower with
    | false => simp
    | true =>
        have other := bne_iff_ne.mpr differs
        rw [← eq_of_beq named] at other
        simp only [other, and_self, decide_true]
  rw [kept headers, kept others, same]

end Headers

namespace Request.SameBesidesCredential

variable {request other : Request} (same : request.SameBesidesCredential other)

include same

theorem says_json : ContentType.saysJson request.headers = ContentType.saysJson other.headers := by
  unfold ContentType.saysJson
  rw [Headers.first_same same.headers (by decide)]

theorem content : Rest.content request = Rest.content other := by
  unfold Rest.content
  rw [same.says_json, same.body]

theorem arguments (captures : Captures) (kind : RootOperation) :
    Rest.arguments request captures kind = Rest.arguments other captures kind := by
  unfold Rest.arguments
  rw [same.query]

theorem asked (captures : Captures) (kind : RootOperation) :
    Rest.asked request captures kind = Rest.asked other captures kind := by
  unfold Rest.asked
  rw [same.query, same.content]

theorem destination (resource : Resource) :
    Rest.destination resource request = Rest.destination resource other := by
  unfold Rest.destination
  rw [same.path, same.method]

end Request.SameBesidesCredential

namespace Rest

variable {resource : Resource} {verifier otherVerifier : Verifier} {request other : Request}

theorem staged_alike (same : request.SameBesidesCredential other) {kind : RootOperation}
    (alike : ProveAlike resource kind.action verifier (Bearer.credential request.headers)
      otherVerifier (Bearer.credential other.headers)) (captures : Captures) (backing : Backing) :
    staged ⟨resource, verifier⟩ request captures kind backing =
      staged ⟨resource, otherVerifier⟩ other captures kind backing := by
  obtain ⟨principal, otherPrincipal, known, otherKnown, gates⟩ := alike.principals
  have identified : (Rest.principal ⟨resource, verifier⟩ kind.action request).outcome =
      .done principal := by
    unfold Rest.principal
    rw [Attempt.outcome_convert_error, known]
    rfl
  have otherIdentified : (Rest.principal ⟨resource, otherVerifier⟩ kind.action other).outcome =
      .done otherPrincipal := by
    unfold Rest.principal
    rw [Attempt.outcome_convert_error, otherKnown]
    rfl
  unfold staged operating
  rw [same.arguments, same.asked, identified, otherIdentified, Outcome.done_bind,
    Outcome.done_bind, Attempt.outcome_convert_error, Attempt.outcome_convert_error, gates]

/-- Over HTTP the credentials make no difference, when they make none to the action of the
method. -/
theorem handle_alike {router otherRouter : Router}
    (built : (Rest.router ⟨resource, verifier⟩).outcome = .done router)
    (otherBuilt : (Rest.router ⟨resource, otherVerifier⟩).outcome = .done otherRouter)
    (same : request.SameBesidesCredential other)
    (alike : ∀ action, methodAction request.method = some action →
      ProveAlike resource action verifier (Bearer.credential request.headers)
        otherVerifier (Bearer.credential other.headers)) (database : Database) :
    (router.handle request database).outcome = (otherRouter.handle other database).outcome := by
  rw [handle_destination built, handle_destination otherBuilt, same.destination]
  cases reached : destination resource other with
  | nowhere => rfl
  | refused allowed => rfl
  | reached kind captures headOnly =>
      rw [← same.destination] at reached
      have proven := alike kind.action (destination_offered reached).2
      unfold Destination.answer
      dsimp only
      rw [staged_alike same proven]

end Rest

namespace Graph

variable {resource : Resource} {verifier otherVerifier : Verifier}
  {credential other : Option String}

theorem staged_alike {kind : RootOperation}
    (alike : ProveAlike resource kind.action verifier credential otherVerifier other)
    (arguments : Json) (backing : Backing) :
    staged resource kind arguments credential verifier backing =
      staged resource kind arguments other otherVerifier backing := by
  obtain ⟨principal, otherPrincipal, known, otherKnown, gates⟩ := alike.principals
  unfold staged identified
  rw [known, otherKnown, Outcome.map_error_done, Outcome.map_error_done, Outcome.done_bind,
    Outcome.done_bind, gates]

def ProveAlike (resources : List Resource) (request : GraphRequest) (verifier : Verifier)
    (credential : Option String) (otherVerifier : Verifier) (other : Option String) : Prop :=
  ∀ owner ∈ resources, ∀ field ∈ owner.rootFields, field.type = request.type →
    field.name = request.field →
    GatedResources.ProveAlike owner field.operation.action verifier credential otherVerifier other

theorem execute_alike {resources : List Resource} {schema : Schema} {request : GraphRequest}
    (registered : (Schema.registerAll resources Schema.empty).outcome = .done schema)
    (alike : ProveAlike resources request verifier credential otherVerifier other)
    (database : Database) :
    (schema.execute verifier database request credential).outcome =
      (schema.execute otherVerifier database request other).outcome := by
  have holds := Schema.holds_empty.register_all registered
  cases sought : schema.find? request.type request.field with
  | none =>
      unfold Schema.execute
      rw [sought]
  | some entry =>
      obtain ⟨owner, own⟩ := holds.owned entry (List.mem_of_find?_eq_some sought)
      have named : entry.field.type = request.type ∧ entry.field.name = request.field := by
        simpa using List.find?_some sought
      have offered := Resource.root_field_offered own
      have proven := alike entry.resource owner entry.field own named.1 named.2
      rw [Schema.execute_entry sought, Schema.execute_entry sought, resolve_staged _ offered,
        resolve_staged _ offered, staged_alike proven]

theorem handler_alike {resources : List Resource} {schema : Schema} {request otherRequest : Request}
    (registered : (Schema.registerAll resources Schema.empty).outcome = .done schema)
    (same : request.SameBesidesCredential otherRequest)
    (alike : ∀ wanted, GraphRequest.ofText request.body = .ok wanted →
      ProveAlike resources wanted verifier (Bearer.credential request.headers)
        otherVerifier (Bearer.credential otherRequest.headers))
    (captures : Captures) (database : Database) :
    (handler schema verifier request captures database).outcome =
      (handler schema otherVerifier otherRequest captures database).outcome := by
  unfold handler
  rw [same.says_json, ← same.body]
  split
  · split
    · next wanted read =>
        rw [Attempt.outcome_bind, Attempt.outcome_bind,
          execute_alike registered (alike wanted read) database]
    · rfl
  · rfl

end Graph

/-- Credentials matter through the roles they prove: two requests that differ in the credential
only, for verifiers that may differ too, get the same answer and leave the same database, when the
action is public or both callers have the same roles. -/
theorem credentials_matter_by_role (verifier otherVerifier : Verifier) :
    (∀ resource router otherRouter request other database,
      (Rest.router ⟨resource, verifier⟩).outcome = .done router →
      (Rest.router ⟨resource, otherVerifier⟩).outcome = .done otherRouter →
      request.SameBesidesCredential other →
      (∀ action, Rest.methodAction request.method = some action →
        ProveAlike resource action verifier (Bearer.credential request.headers)
          otherVerifier (Bearer.credential other.headers)) →
      (router.handle request database).outcome = (otherRouter.handle other database).outcome) ∧
    (∀ resources schema, (Schema.registerAll resources Schema.empty).outcome = .done schema →
      (∀ request credential other database,
        Graph.ProveAlike resources request verifier credential otherVerifier other →
        (schema.execute verifier database request credential).outcome =
          (schema.execute otherVerifier database request other).outcome) ∧
      (∀ request other captures database, request.SameBesidesCredential other →
        (∀ wanted, GraphRequest.ofText request.body = .ok wanted →
          Graph.ProveAlike resources wanted verifier (Bearer.credential request.headers)
            otherVerifier (Bearer.credential other.headers)) →
        (Graph.handler schema verifier request captures database).outcome =
          (Graph.handler schema otherVerifier other captures database).outcome)) := by
  constructor
  · intro resource router otherRouter request other database built otherBuilt same alike
    exact Rest.handle_alike built otherBuilt same alike database
  · intro resources schema registered
    constructor
    · intro request credential other database alike
      exact Graph.execute_alike registered alike database
    · intro request other captures database same alike
      exact Graph.handler_alike registered same alike captures database

/-- Two administrators post a question with the same effect, however they are called and spelled. -/
theorem administrators_post_alike :
    let resource : Resource := ⟨Entity.faqs,
      { ResourceOptions.named "faqs" with policy := ⟨[], [⟨.create, [.admin]⟩]⟩ }⟩
    let verifier : Verifier := fun text =>
      .done (if text = "a" then ⟨"ada", "ADMIN"⟩ else ⟨"bob", "aDmIn"⟩)
    let posted (credential : String) : Request := ⟨"POST", "/faqs", none,
      [("content-type", "application/json"), ("authorization", credential)],
      "\x7b\"question\": \"Why?\"\x7d"⟩
    let database := Database.ofEntities [Entity.faqs]
    ∃ router response after, (Rest.router ⟨resource, verifier⟩).outcome = .done router ∧
      (router.handle (posted "Bearer a") database).outcome = .done (response, after) ∧
      (router.handle (posted "Bearer b") database).outcome = .done (response, after) ∧
      response.status = 201 := by
  intro resource verifier posted database
  let record : Record := [("id", .integer 1), ("question", .text "Why?"), ("answer", .text ""),
    ("status", .text "draft")]
  have handled : ((Rest.router ⟨resource, verifier⟩).outcome >>= fun router =>
      (router.handle (posted "Bearer a") database).outcome) =
        .done (Response.ofJson 201 record.toJson, ⟨[("faqs", ⟨[record], 2⟩)]⟩) := by
    decide +kernel
  obtain ⟨router, built, answered⟩ := Outcome.bind_eq_done.mp handled
  have same : (posted "Bearer a").SameBesidesCredential (posted "Bearer b") := by
    refine ⟨rfl, rfl, rfl, rfl, ?_⟩
    decide +kernel
  have alike : ∀ action, Rest.methodAction (posted "Bearer a").method = some action →
      ProveAlike resource action verifier (Bearer.credential (posted "Bearer a").headers)
        verifier (Bearer.credential (posted "Bearer b").headers) := by
    intro action _
    refine .inr ⟨"a", ⟨"ada", "ADMIN"⟩, "b", ⟨"bob", "aDmIn"⟩, ?_, rfl, ?_, rfl, ?_⟩
    · decide +kernel
    · decide +kernel
    · intro role
      rw [← Role.admits_scope_iff, ← Role.admits_scope_iff]
      cases role <;> decide +kernel
  have agrees := (credentials_matter_by_role verifier verifier).1 resource router router _ _
    database built built same alike
  exact ⟨router, _, _, built, answered, agrees.symm.trans answered, rfl⟩

end GatedResources
