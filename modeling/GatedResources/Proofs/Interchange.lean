import GatedResources.Proofs.GraphService
import GatedResources.Proofs.RestAnswers
import Mathlib.Data.List.Forall2

/-!
# The two ways of asking are interchangeable

The same operations, asked over HTTP or of a schema in any mixture, leave the same database and
get answers that say the same. Each message is compared with performing its operation; a run
follows from its messages by induction.
-/

namespace GatedResources

structure Call where
  operation : Operation
  credential : Option String

inductive Message where
  | rest (request : Request)
  | graph (request : GraphRequest) (credential : Option String)

inductive Answer where
  | rest (response : Response)
  | graph (status : Nat) (response : GraphResponse)

inductive Failure where
  | unauthenticated
  | forbidden
  | notFound
  | badInput
  | internal
deriving DecidableEq, Repr

namespace Failure

def ofError : ResourceError -> Failure
  | .unauthenticated => .unauthenticated
  | .denied _ => .forbidden
  | .notFound _ _ => .notFound
  | .validation _ _ => .badInput
  | .store _ => .internal
  | .internal _ => .internal

def ofStatus : Nat -> Option Failure
  | 401 => some .unauthenticated
  | 403 => some .forbidden
  | 404 => some .notFound
  | 400 => some .badInput
  | 500 => some .internal
  | _ => none

def ofCode : String -> Option Failure
  | "UNAUTHENTICATED" => some .unauthenticated
  | "FORBIDDEN" => some .forbidden
  | "NOT_FOUND" => some .notFound
  | "BAD_USER_INPUT" => some .badInput
  | "INTERNAL_SERVER_ERROR" => some .internal
  | _ => none

theorem code_of_error (error : ResourceError) :
    ofCode (GraphError.ofResourceError error).value.code = some (ofError error) := by
  cases error <;> rfl

end Failure

inductive Verdict where
  | value (value : Json)
  | failure (failure : Failure)
deriving DecidableEq

def Operation.isBulk : Operation -> Bool
  | .removeMany _ => true
  | _ => false

/-- What an answer to an operation says. Over HTTP a bulk removal of nothing is not found. -/
def Answer.verdict (operation : Operation) : Answer -> Option Verdict
  | .rest response =>
      match Failure.ofStatus response.status with
      | some .notFound =>
          if operation.isBulk then some (.value (.bool false)) else some (.failure .notFound)
      | some failure => some (.failure failure)
      | none =>
          match response.body with
          | .json value => some (.value value)
          | .empty | .text _ => none
  | .graph _ (.data _ value) => some (.value value)
  | .graph _ (.failure error) => (Failure.ofCode error.code).map Verdict.failure

/-- A resource with all actions offered, the router that was built for it, and a schema that it
was registered in. -/
structure Service where
  endpoint : Rest.Endpoint
  router : Router
  resources : List Resource
  schema : Schema
  visible : ∀ action, endpoint.resource.options.isHidden action = false
  routed : (Rest.router endpoint).outcome = .done router
  registered : (Schema.registerAll resources Schema.empty).outcome = .done schema
  member : endpoint.resource ∈ resources

namespace ResourceError

theorem of_access_error_found (error : AccessError) (name : String) (identifier : Int) :
    ofAccessError error ≠ .notFound name identifier := by
  cases error <;> simp [ofAccessError]

theorem of_store_error_found (error : StoreError) (name : String) (identifier : Int) :
    (ofStoreError error).value ≠ .notFound name identifier := by
  cases error <;> simp [ofStoreError]

end ResourceError

namespace Operation

variable {resource : Resource} {verifier : Verifier} {credential : Option String}
  {backing : Backing} {request : FilterRequest}
  {offered : resource.options.isHidden (Operation.removeMany request).action = false}

theorem perform_removed_nothing {after : Backing}
    (done : perform resource verifier credential backing (.removeMany request) offered =
      .done (.bool false, after)) : after = backing := by
  obtain ⟨principal, _, conducted⟩ := Outcome.bind_eq_done.mp done
  obtain ⟨⟨removed, left⟩, taken, finished⟩ := Outcome.bind_eq_done.mp conducted
  cases finished
  exact Handle.removed_nothing taken

theorem perform_bulk_failed {error : ResourceError}
    (failed : perform resource verifier credential backing (.removeMany request) offered =
      .failed error) (name : String) (identifier : Int) : error ≠ .notFound name identifier := by
  rcases Outcome.bind_eq_failed.mp failed with unknown | ⟨principal, _, conducted⟩
  · obtain ⟨own, _, same⟩ := Outcome.map_error_eq_failed.mp unknown
    exact same ▸ ResourceError.of_access_error_found own name identifier
  rcases Outcome.bind_eq_failed.mp conducted with removing | ⟨_, _, impossible⟩
  · unfold Handle.removeMany at removing
    rw [Handle.remove_many_where_outcome] at removing
    rcases Outcome.bind_eq_failed.mp removing with refused | ⟨_, _, removing⟩
    · unfold Resource.gate at refused
      rw [Attempt.outcome_convert_error] at refused
      obtain ⟨own, _, same⟩ := Outcome.map_error_eq_failed.mp refused
      exact same ▸ ResourceError.of_access_error_found own name identifier
    · split at removing
      · cases removing
      · rcases Outcome.bind_eq_failed.mp removing with stored | ⟨_, _, impossible⟩
        · obtain ⟨own, _, same⟩ := Outcome.map_error_eq_failed.mp stored
          exact same ▸ ResourceError.of_store_error_found own name identifier
        · cases impossible
  · cases impossible

end Operation

/-- An answer says what the verdict is, or there is neither. -/
def Tells (operation : Operation) (answer : Option Answer) (verdict : Option Verdict) : Prop :=
  answer.map (Answer.verdict operation) = verdict.map some

def told (calls : List Call) (answers : List (Option Answer)) : List (Option (Option Verdict)) :=
  List.zipWith (fun call answer => answer.map (Answer.verdict call.operation)) calls answers

namespace Service

variable {service : Service} {database : Database}

/-- A message asks for the operation of a call, with its credential. Over HTTP it asks for the
whole answer. -/
def Carries (service : Service) : Message -> Call -> Prop
  | .rest request, call => request.method ≠ "HEAD" ∧
      Bearer.credential request.headers = call.credential ∧
      Rest.Asks service.endpoint.resource.options.name request call.operation
  | .graph request credential, call => credential = call.credential ∧
      Graph.Asks service.endpoint.resource request call.operation

/-- Sends a message to a database. A crash gives no answer and leaves the database alone. -/
def send (service : Service) (database : Database) : Message -> Option Answer × Database
  | .rest request =>
      match (service.router.handle request database).outcome with
      | .done (response, after) => (some (.rest response), after)
      | .crashed => (none, database)
  | .graph request credential =>
      match
        (service.schema.execute service.endpoint.verifier database request credential).outcome with
      | .done (status, response, after) => (some (.graph status response), after)
      | .crashed => (none, database)

def perform (service : Service) (database : Database) (call : Call) : Option Verdict × Database :=
  let entity := service.endpoint.resource.entity
  match call.operation.perform service.endpoint.resource service.endpoint.verifier call.credential
      (database.backing entity) (service.visible call.operation.action) with
  | .done (value, backing) => (some (.value value), database.store entity backing)
  | .failed error => (some (.failure (Failure.ofError error)), database)
  | .crashed => (none, database)

def run (service : Service) : Database -> List Message -> List (Option Answer) × Database
  | database, [] => ([], database)
  | database, message :: rest =>
      let (answer, after) := service.send database message
      let (answers, last) := service.run after rest
      (answer :: answers, last)

def performAll (service : Service) : Database -> List Call -> List (Option Verdict) × Database
  | database, [] => ([], database)
  | database, call :: rest =>
      let (verdict, after) := service.perform database call
      let (verdicts, last) := service.performAll after rest
      (verdict :: verdicts, last)

theorem run_cons (message : Message) (rest : List Message) :
    service.run database (message :: rest) =
      ((service.send database message).1 ::
          (service.run (service.send database message).2 rest).1,
        (service.run (service.send database message).2 rest).2) := rfl

theorem perform_all_cons (call : Call) (rest : List Call) :
    service.performAll database (call :: rest) =
      ((service.perform database call).1 ::
          (service.performAll (service.perform database call).2 rest).1,
        (service.performAll (service.perform database call).2 rest).2) := rfl

theorem success_verdict {operation : Operation} {value : Json}
    (something : Rest.removedNothing operation value = false) :
    (Answer.rest (Response.ofJson (Rest.successStatus operation) value)).verdict operation =
      some (.value value) := by
  cases operation <;> rfl

theorem problem_verdict {operation : Operation} {error : ResourceError}
    (bulk : operation.isBulk = true → ∀ name identifier, error ≠ .notFound name identifier) :
    (Answer.rest (Problem.ofResourceError error).value.response).verdict operation =
      some (.failure (Failure.ofError error)) := by
  cases error with
  | notFound name identifier =>
      have single : operation.isBulk = false := by
        rw [Bool.eq_false_iff]
        intro isBulk
        exact bulk isBulk name identifier rfl
      show (if operation.isBulk then some (Verdict.value (.bool false))
        else some (Verdict.failure .notFound)) = _
      rw [single]
      rfl
  | unauthenticated | denied _ | validation _ _ | store _ | internal _ => rfl

theorem rest_follows (literal : Rest.IsLiteralName service.endpoint.resource.options.name)
    {request : Request} {call : Call} (carries : service.Carries (.rest request) call) :
    Tells call.operation (service.send database (.rest request)).1
        (service.perform database call).1 ∧
      (service.send database (.rest request)).2 = (service.perform database call).2 := by
  obtain ⟨operation, given⟩ := call
  obtain ⟨whole, credential, asks⟩ := carries
  dsimp only at credential asks
  have served : (service.router.handle request database).outcome =
      Rest.served service.endpoint given database operation (service.visible operation.action) := by
    rw [← credential]
    exact Rest.router_asked service.visible literal service.routed asks whole
  unfold send perform
  dsimp only
  rw [served]
  unfold Rest.served Tells
  cases performed : operation.perform service.endpoint.resource service.endpoint.verifier given
      (database.backing service.endpoint.resource.entity) (service.visible operation.action) with
  | done answer =>
      obtain ⟨value, backing⟩ := answer
      cases nothing : Rest.removedNothing operation value with
      | false =>
          simp only [Rest.respond, nothing, Rest.concluded]
          exact ⟨congrArg some (success_verdict nothing), rfl⟩
      | true =>
          simp only [Rest.respond, nothing, Rest.concluded]
          cases operation with
          | removeMany wanted =>
              have isFalse : value = .bool false := of_decide_eq_true nothing
              subst isFalse
              have same := Operation.perform_removed_nothing performed
              rw [same, Database.store_backing]
              exact ⟨rfl, rfl⟩
          | findOne _ | findAll _ | create _ | update _ _ | remove _ => cases nothing
  | failed error =>
      refine ⟨congrArg some (problem_verdict ?_), rfl⟩
      intro isBulk
      cases operation with
      | removeMany wanted => exact Operation.perform_bulk_failed performed
      | findOne _ | findAll _ | create _ | update _ _ | remove _ => cases isBulk
  | crashed => exact ⟨rfl, rfl⟩

theorem graph_follows {request : GraphRequest} {credential : Option String} {call : Call}
    (carries : service.Carries (.graph request credential) call) :
    Tells call.operation (service.send database (.graph request credential)).1
        (service.perform database call).1 ∧
      (service.send database (.graph request credential)).2 =
        (service.perform database call).2 := by
  obtain ⟨operation, given⟩ := call
  obtain ⟨same, asks⟩ := carries
  dsimp only at same asks
  subst same
  have holds := Schema.holds_empty.register_all service.registered
  have executed : (service.schema.execute service.endpoint.verifier database request
      credential).outcome = Graph.concluded service.endpoint.resource.entity database request.field
        (operation.perform service.endpoint.resource service.endpoint.verifier credential
          (database.backing service.endpoint.resource.entity)
          (service.visible operation.action)) :=
    holds.execute_asked service.member asks _
  unfold send perform
  dsimp only
  rw [executed]
  unfold Tells
  cases operation.perform service.endpoint.resource service.endpoint.verifier credential
      (database.backing service.endpoint.resource.entity) (service.visible operation.action) with
  | done answer => exact ⟨rfl, rfl⟩
  | failed error =>
      refine ⟨congrArg some ?_, rfl⟩
      show (Failure.ofCode (GraphError.ofResourceError error).value.code).map Verdict.failure = _
      rw [Failure.code_of_error]
      rfl
  | crashed => exact ⟨rfl, rfl⟩

theorem send_follows (literal : Rest.IsLiteralName service.endpoint.resource.options.name)
    {message : Message} {call : Call} (carries : service.Carries message call) :
    Tells call.operation (service.send database message).1 (service.perform database call).1 ∧
      (service.send database message).2 = (service.perform database call).2 := by
  cases message with
  | rest request => exact rest_follows literal carries
  | graph request credential => exact graph_follows carries

/-- A run of messages does what the calls do, one after the other. -/
theorem run_follows (literal : Rest.IsLiteralName service.endpoint.resource.options.name)
    {messages : List Message} {calls : List Call}
    (carries : List.Forall₂ service.Carries messages calls) (database : Database) :
    (service.run database messages).2 = (service.performAll database calls).2 ∧
      told calls (service.run database messages).1 =
        (service.performAll database calls).1.map (Option.map some) ∧
      (service.run database messages).1.length = calls.length := by
  induction carries generalizing database with
  | nil => exact ⟨rfl, rfl, rfl⟩
  | cons first _ claim =>
      obtain ⟨tells, same⟩ := send_follows literal first
      rw [run_cons, perform_all_cons, ← same]
      obtain ⟨last, others, length⟩ := claim (service.send database _).2
      refine ⟨last, ?_, ?_⟩
      · unfold told at others ⊢
        rw [List.zipWith_cons_cons, others, tells]
        rfl
      · rw [List.length_cons, List.length_cons, length]

/-- The two ways of asking are interchangeable: runs of messages for the same calls leave the same
database, and their answers say the same. -/
theorem bindings_interchangeable (service : Service)
    (literal : Rest.IsLiteralName service.endpoint.resource.options.name)
    {calls : List Call} {first second : List Message}
    (firstCarries : List.Forall₂ service.Carries first calls)
    (secondCarries : List.Forall₂ service.Carries second calls) (database : Database) :
    (service.run database first).2 = (service.run database second).2 ∧
      told calls (service.run database first).1 = told calls (service.run database second).1 ∧
      (∀ reading ∈ told calls (service.run database first).1, reading ≠ some none) ∧
      (service.run database first).1.length = calls.length ∧
      (service.run database second).1.length = calls.length := by
  obtain ⟨firstLast, firstTold, firstLength⟩ := run_follows literal firstCarries database
  obtain ⟨secondLast, secondTold, secondLength⟩ := run_follows literal secondCarries database
  refine ⟨firstLast.trans secondLast.symm, firstTold.trans secondTold.symm, ?_, firstLength,
    secondLength⟩
  intro reading member
  rw [firstTold] at member
  obtain ⟨verdict, _, same⟩ := List.mem_map.mp member
  rw [← same]
  cases verdict <;> simp

/-- A question that is created and found again is the same over HTTP and through a schema. -/
theorem question_interchangeable :
    let resource : Resource :=
      ⟨Entity.faqs, { ResourceOptions.named "faqs" with policy := ⟨Action.all, []⟩ }⟩
    let database := Database.ofEntities [Entity.faqs]
    let calls : List Call := [⟨.create [("question", .string "Why?")], none⟩, ⟨.findOne 1, none⟩]
    let first := [Message.rest ⟨"POST", "/faqs", none, [("content-type", "application/json")],
      "\x7b\"question\": \"Why?\"\x7d"⟩, Message.rest ⟨"GET", "/faqs/1", none, [], ""⟩]
    let second := [Message.graph ⟨.mutation, "faqs",
      .object [("input", .object [("question", .string "Why?")])]⟩ none,
      Message.graph ⟨.query, "faq", .object [("id", .integer 1)]⟩ none]
    ∃ service : Service, service.endpoint.resource = resource ∧
      Rest.IsLiteralName resource.options.name ∧
      List.Forall₂ service.Carries first calls ∧ List.Forall₂ service.Carries second calls ∧
      (service.run database first).2 = (service.run database second).2 ∧
      told calls (service.run database first).1 = told calls (service.run database second).1 := by
  intro resource database calls first second
  let verifier : Verifier := fun _ => .failed .missingCredential
  have literal : Rest.IsLiteralName resource.options.name := by
    refine ⟨[.symbol '/', .symbol 'f', .symbol 'a', .symbol 'q', .symbol 's'], by decide +kernel,
      ?_⟩
    simp [Pattern.IsLiteral]
  have routes : ((Rest.router ⟨resource, verifier⟩).outcome >>= fun _ => .done ()) =
      .done () := by
    decide +kernel
  obtain ⟨router, routed, _⟩ := Outcome.bind_eq_done.mp routes
  have fields : ((Schema.registerAll [resource] Schema.empty).outcome >>= fun _ => .done ()) =
      .done () := by
    decide +kernel
  obtain ⟨schema, registered, _⟩ := Outcome.bind_eq_done.mp fields
  let service : Service := ⟨⟨resource, verifier⟩, router, [resource], schema, fun _ => rfl, routed,
    registered, List.mem_cons_self⟩
  have collection : Rest.Fits (Rest.collectionPath "faqs") "/faqs" [] :=
    ⟨[.symbol '/', .symbol 'f', .symbol 'a', .symbol 'q', .symbol 's'], by decide +kernel,
      by decide +kernel⟩
  have item : Rest.Fits (Rest.itemPath "faqs") "/faqs/1" [(['i', 'd'], ['1'])] :=
    ⟨[.symbol '/', .symbol 'f', .symbol 'a', .symbol 'q', .symbol 's', .symbol '/',
      .segment ['i', 'd']], by decide +kernel, by decide +kernel⟩
  have firstCarries : List.Forall₂ service.Carries first calls := by
    refine .cons ⟨by decide, by decide +kernel, ?_⟩ (.cons ⟨by decide, rfl, ?_⟩ .nil)
    · exact .create collection rfl ⟨by decide +kernel, by decide +kernel⟩
    · exact .findOne item (.inl rfl)
        ⟨['i', 'd'], ['1'], ['1'], rfl, by decide +kernel, by decide +kernel⟩
  have created : Graph.Asks resource ⟨.mutation, "faqs",
      .object [("input", .object [("question", .string "Why?")])]⟩
      (.create [("question", .string "Why?")]) :=
    ⟨⟨.mutation, "faqs", .create⟩, by decide +kernel, rfl, rfl,
      .create (Graph.read_arguments_succeed (by decide +kernel))⟩
  have sought : Graph.Asks resource ⟨.query, "faq", .object [("id", .integer 1)]⟩
      (.findOne 1) :=
    ⟨⟨.query, "faq", .findOne⟩, by decide +kernel, rfl, rfl,
      .findOne (Graph.read_arguments_succeed (by decide +kernel))⟩
  have secondCarries : List.Forall₂ service.Carries second calls :=
    .cons ⟨rfl, created⟩ (.cons ⟨rfl, sought⟩ .nil)
  obtain ⟨sameDatabase, sameTold, _⟩ :=
    bindings_interchangeable service literal firstCarries secondCarries database
  exact ⟨service, rfl, literal, firstCarries, secondCarries, sameDatabase, sameTold⟩

/-- Without a literal name the ways of asking differ. Where the name of a resource is a path
parameter, the path of a record has two named parts and identifies no record. -/
theorem parameter_name_not_interchangeable :
    let resource : Resource :=
      ⟨Entity.faqs, { ResourceOptions.named "\x7bx\x7d" with policy := ⟨Action.all, []⟩ }⟩
    let record : Record := [("id", .integer 1), ("question", .text "Why?"), ("answer", .text ""),
      ("status", .text "draft")]
    let database : Database := ⟨[("faqs", ⟨[record], 2⟩)]⟩
    let call : Call := ⟨.findOne 1, none⟩
    let first := Message.rest ⟨"GET", "/a/1", none, [], ""⟩
    let second := Message.graph ⟨.query, "\x7bx", .object [("id", .integer 1)]⟩ none
    ∃ service : Service, service.endpoint.resource = resource ∧
      service.Carries first call ∧ service.Carries second call ∧
      told [call] (service.run database [first]).1 = [some (some (.failure .badInput))] ∧
      told [call] (service.run database [second]).1 = [some (some (.value record.toJson))] := by
  intro resource record database call first second
  let verifier : Verifier := fun _ => .failed .missingCredential
  have overHttp : ((Rest.router ⟨resource, verifier⟩).outcome >>= fun router =>
      (router.handle ⟨"GET", "/a/1", none, [], ""⟩ database).outcome) =
      .done ((Problem.badRequest ("id: Wrong number of path arguments for \x60Path\x60. " ++
        "Expected 1 but got 2. Note that multiple parameters must be extracted with a tuple " ++
        "\x60Path<(_, _)>\x60 or a struct \x60Path<YourParams>\x60")).response, database) := by
    decide +kernel
  obtain ⟨router, routed, handled⟩ := Outcome.bind_eq_done.mp overHttp
  have overSchema : (match (Schema.registerAll [resource] Schema.empty).outcome with
      | .done schema => (schema.execute verifier database
          ⟨.query, "\x7bx", .object [("id", .integer 1)]⟩ none).outcome
      | .failed _ => .crashed
      | .crashed => .crashed) = .done (200, .data "\x7bx" record.toJson, database) := by
    decide +kernel
  have path : Rest.Fits (Rest.itemPath "\x7bx\x7d") "/a/1" [(['x'], ['a']), (['i', 'd'], ['1'])] :=
    ⟨[.symbol '/', .segment ['x'], .symbol '/', .segment ['i', 'd']], by decide +kernel,
      by decide +kernel⟩
  have asksHttp : Rest.Asks "\x7bx\x7d" ⟨"GET", "/a/1", none, [], ""⟩ (.findOne 1) :=
    .findOne path (.inl rfl) ⟨['i', 'd'], ['1'], ['1'], rfl, by decide +kernel, by decide +kernel⟩
  have asksSchema : Graph.Asks resource ⟨.query, "\x7bx", .object [("id", .integer 1)]⟩
      (.findOne 1) :=
    ⟨⟨.query, "\x7bx", .findOne⟩, by decide +kernel, rfl, rfl,
      .findOne (Graph.read_arguments_succeed (by decide +kernel))⟩
  split at overSchema
  · next schema registered =>
      refine ⟨⟨⟨resource, verifier⟩, router, [resource], schema, fun _ => rfl, routed, registered,
        List.mem_cons_self⟩, rfl, ⟨by decide, rfl, asksHttp⟩, ⟨rfl, asksSchema⟩, ?_, ?_⟩
      · simp only [run_cons, first, send, handled]
        rfl
      · simp only [run_cons, second, send, overSchema]
        rfl
  · cases overSchema
  · cases overSchema

end Service

end GatedResources
