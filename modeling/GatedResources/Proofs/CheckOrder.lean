import GatedResources.Proofs.Destinations
import GatedResources.Proofs.GateDecision
import GatedResources.Proofs.StoreVerdicts

/-!
# The order of the checks

A request is checked in a fixed order, and the first check that fails says what is answered. Over
HTTP the path or the query string comes before the caller, and the content after; for a schema all
arguments come after the caller. Both ways end with the gate and with what the store has against
the operation. That the service itself is to blame is answered when the verifier was asked and
failed, or when the database refused a list or a bulk removal for its size, and never otherwise.
-/

namespace GatedResources

abbrev Check := Outcome Failure Unit

namespace Failure

def status : Failure -> Nat
  | .unauthenticated => 401
  | .forbidden => 403
  | .notFound => 404
  | .badInput => 400
  | .internal => 500

def code : Failure -> String
  | .unauthenticated => "UNAUTHENTICATED"
  | .forbidden => "FORBIDDEN"
  | .notFound => "NOT_FOUND"
  | .badInput => "BAD_USER_INPUT"
  | .internal => "INTERNAL_SERVER_ERROR"

theorem status_internal (failure : Failure) : failure.status = 500 ↔ failure = .internal := by
  cases failure <;> decide

theorem code_internal (failure : Failure) :
    failure.code = "INTERNAL_SERVER_ERROR" ↔ failure = .internal := by
  cases failure <;> decide

theorem problem_status (error : ResourceError) :
    (Problem.ofResourceError error).value.response.status = (ofError error).status := by
  cases error <;> rfl

theorem graph_code (error : ResourceError) :
    (GraphError.ofResourceError error).value.code = (ofError error).code := by
  cases error <;> rfl

end Failure

namespace Check

def of (fits : Bool) (failure : Failure) : Check :=
  if fits then .done () else .failed failure

def ofObjection : Option Failure -> Check
  | some failure => .failed failure
  | none => .done ()

def ofAsked {ε : Type} (asked : Outcome ε Operation) (checks : Operation -> List Check) :
    List Check :=
  match asked with
  | .done operation => checks operation
  | .failed _ => []
  | .crashed => []

/-- The first of the checks that does not pass; the later ones are not looked at. -/
def firstFailing : List Check -> Check
  | [] => .done ()
  | check :: rest => check >>= fun _ => firstFailing rest

def status (success : Nat) : Check -> Outcome Empty Nat
  | .done () => .done success
  | .failed failure => .done failure.status
  | .crashed => .crashed

def code : Check -> Outcome Empty (Option String)
  | .done () => .done none
  | .failed failure => .done (some failure.code)
  | .crashed => .crashed

def ofCaller (action : Action) (policy : Policy) (credential : Option String)
    (verifier : Verifier) : Check :=
  if policy.isPublic action then .done ()
  else
    match credential.map verifier with
    | none => .failed .unauthenticated
    | some (.done _) => .done ()
    | some (.failed (.internal _)) => .failed .internal
    | some (.failed .missingCredential) => .failed .unauthenticated
    | some (.failed (.unauthorized _)) => .failed .unauthenticated
    | some .crashed => .crashed

def ofPolicy (action : Action) (policy : Policy) (credential : Option String)
    (verifier : Verifier) : Check :=
  if policy.isPublic action then .done ()
  else
    match credential.map verifier with
    | some (.done caller) => of (decide (Gate.decide action caller policy = .allow)) .forbidden
    | _ => .done ()

theorem of_eq_done {fits : Bool} {failure : Failure} :
    of fits failure = .done () ↔ fits = true := by
  cases fits <;> simp [of]

theorem first_failing_cons {check : Check} {rest : List Check} {failure : Failure} :
    firstFailing (check :: rest) = .failed failure ↔
      check = .failed failure ∨ check = .done () ∧ firstFailing rest = .failed failure := by
  change (check >>= fun _ => firstFailing rest) = _ ↔ _
  cases check with
  | done passed => simp
  | failed own => simp
  | crashed => simp

/-- Only the first check decides whether the service is to blame, when no later one blames it. -/
theorem first_failing_internal {check : Check} {rest : List Check}
    (none : ∀ later ∈ rest, later ≠ .failed .internal) :
    firstFailing (check :: rest) = .failed .internal ↔ check = .failed .internal := by
  have never : firstFailing rest ≠ .failed .internal := by
    induction rest with
    | nil => exact nofun
    | cons first others claim =>
        rw [ne_eq, first_failing_cons, not_or, not_and]
        exact ⟨none first List.mem_cons_self,
          fun _ => claim fun later member => none later (List.mem_cons_of_mem _ member)⟩
  rw [first_failing_cons]
  exact ⟨fun either => either.resolve_right fun later => never later.2, .inl⟩

theorem of_internal {fits : Bool} {failure : Failure} (other : failure ≠ .internal) :
    of fits failure ≠ .failed .internal := by
  cases fits with
  | true => exact nofun
  | false =>
      intro same
      cases same
      exact other rfl

theorem of_caller_internal {action : Action} {policy : Policy} {credential : Option String}
    {verifier : Verifier} :
    ofCaller action policy credential verifier = .failed .internal ↔
      policy.isPublic action = false ∧ ∃ text reason, credential = some text ∧
        verifier text = .failed (.internal reason) := by
  unfold ofCaller
  cases policy.isPublic action with
  | true => simp
  | false =>
      cases credential with
      | none => simp
      | some text =>
          cases known : verifier text with
          | done caller => simp [known]
          | failed error => cases error <;> simp [known]
          | crashed => simp [known]

theorem of_objection_internal {objection : Option Failure} :
    ofObjection objection = .failed .internal ↔ objection = some .internal := by
  cases objection <;> simp [ofObjection]

/-- The later checks are looked at when the earlier ones pass. -/
theorem first_failing_append {earlier later : List Check} {failure : Failure} :
    firstFailing (earlier ++ later) = .failed failure ↔ firstFailing earlier = .failed failure ∨
      firstFailing earlier = .done () ∧ firstFailing later = .failed failure := by
  induction earlier with
  | nil => simp [firstFailing]
  | cons check rest claim =>
      rw [List.cons_append, first_failing_cons, first_failing_cons, claim]
      cases check with
      | done passed =>
          change _ ↔ _ ∨ firstFailing rest = .done () ∧ _
          simp
      | failed own =>
          have stops : firstFailing (.failed own :: rest) ≠ .done () := nofun
          simp [stops]
      | crashed =>
          have stops : firstFailing (.crashed :: rest) ≠ .done () := nofun
          simp [stops]

/-- The checks of an operation fail only if one is asked for. -/
theorem first_failing_asked {ε : Type} {asked : Outcome ε Operation}
    {checks : Operation -> List Check} {failure : Failure} :
    firstFailing (ofAsked asked checks) = .failed failure ↔
      ∃ operation, asked = .done operation ∧ firstFailing (checks operation) = .failed failure := by
  cases asked <;> simp [ofAsked, firstFailing]

theorem status_eq_internal {success : Nat} (other : success ≠ 500) {check : Check} :
    status success check = .done 500 ↔ check = .failed .internal := by
  cases check with
  | done passed => simp [status, other]
  | failed failure => simp [status, Failure.status_internal]
  | crashed => simp [status]

theorem code_eq_internal {check : Check} :
    code check = .done (some "INTERNAL_SERVER_ERROR") ↔ check = .failed .internal := by
  cases check with
  | done passed => simp [code]
  | failed failure => simp [code, Failure.code_internal]
  | crashed => simp [code]

theorem of_policy_internal {action : Action} {policy : Policy} {credential : Option String}
    {verifier : Verifier} : ofPolicy action policy credential verifier ≠ .failed .internal := by
  unfold ofPolicy
  split
  · exact nofun
  · split
    · exact of_internal nofun
    · exact nofun

end Check

/-- A stage ends as a check says: it goes on, or it fails with an error that tells the failure. -/
inductive Follows {ε α : Type} (tells : ε -> Failure -> Prop) : Outcome ε α -> Check -> Prop where
  | passed (value : α) : Follows tells (.done value) (.done ())
  | failed {error : ε} {failure : Failure} (told : tells error failure) :
      Follows tells (.failed error) (.failed failure)
  | crashed : Follows tells .crashed .crashed

namespace Follows

variable {ε δ α β : Type} {tells : ε -> Failure -> Prop}

/-- Stages end as the first failing check says, when each of them ends as its own check says once
the earlier ones have passed. -/
theorem after {first : Outcome ε β} {rest : β -> Outcome ε α} {check : Check} {checks : List Check}
    (begins : Follows tells first check)
    (continues : ∀ value, first = .done value →
      Follows tells (rest value) (Check.firstFailing checks)) :
    Follows tells (first >>= rest) (Check.firstFailing (check :: checks)) := by
  cases begins with
  | passed value => exact continues value rfl
  | failed told => exact .failed told
  | crashed => exact .crashed

theorem only {stage : Outcome ε α} {check : Check} (follows : Follows tells stage check) :
    Follows tells stage (Check.firstFailing [check]) := by
  cases follows with
  | passed value => exact .passed value
  | failed told => exact .failed told
  | crashed => exact .crashed

theorem map {stage : Outcome ε α} {check : Check} (follows : Follows tells stage check)
    (change : α -> β) : Follows tells (stage.map change) check := by
  cases follows with
  | passed value => exact .passed _
  | failed told => exact .failed told
  | crashed => exact .crashed

theorem convert {others : δ -> Failure -> Prop} {stage : Outcome ε α} {check : Check}
    (follows : Follows tells stage check) {change : ε -> δ}
    (keeps : ∀ error failure, tells error failure → others (change error) failure) :
    Follows others (stage.mapError change) check := by
  cases follows with
  | passed value => exact .passed value
  | failed told => exact .failed (keeps _ _ told)
  | crashed => exact .crashed

end Follows

def ResourceError.tells (error : ResourceError) (failure : Failure) : Prop :=
  Failure.ofError error = failure

def Problem.tells (problem : Problem) (failure : Failure) : Prop :=
  problem.response.status = failure.status

theorem ResourceError.problem_tells {error : ResourceError} {failure : Failure}
    (told : error.tells failure) : (Problem.ofResourceError error).value.tells failure := by
  unfold Problem.tells
  rw [Failure.problem_status, told]

/-! ## The caller, the gate and the store -/

section Stages

variable {resource : Resource} {action : Action} {credential : Option String} {verifier : Verifier}

theorem identity_follows :
    Follows (fun error => (ResourceError.ofAccessError error).tells)
      (Gate.identify action resource.policy credential verifier).outcome
      (Check.ofCaller action resource.policy credential verifier) := by
  unfold Check.ofCaller Gate.identify
  cases resource.policy.isPublic action with
  | true => exact .passed _
  | false =>
      rw [if_neg Bool.false_ne_true, if_neg Bool.false_ne_true]
      cases credential with
      | none => exact .failed rfl
      | some text =>
          dsimp only [Option.map_some]
          cases verifier text with
          | done caller => exact .passed _
          | failed error => cases error <;> exact .failed rfl
          | crashed => exact .crashed

theorem gate_follows {principal : Principal}
    (known : (Gate.identify action resource.policy credential verifier).outcome =
      .done principal) :
    Follows ResourceError.tells (resource.gate action principal).outcome
      (Check.ofPolicy action resource.policy credential verifier) := by
  have denied : (resource.gate action principal).outcome ≠ .done () →
      (resource.gate action principal).outcome =
        .failed (ResourceError.ofAccessError (Gate.refusal principal)) := by
    unfold Resource.gate
    rw [Attempt.outcome_convert_error, ne_eq, Outcome.map_error_eq_done]
    intro refused
    rw [Gate.authorize_refused refused]
    rfl
  unfold Check.ofPolicy
  rcases Gate.identify_eq_done.mp known with ⟨isOpen, _⟩ | ⟨closed, text, caller, given, own, same⟩
  · rw [Resource.gate_eq_done.mpr (.inl isOpen), isOpen]
    exact .passed ()
  · subst same
    rw [closed, given, Option.map_some, own, if_neg Bool.false_ne_true]
    by_cases allowed : Gate.decide action caller resource.policy = .allow
    · rw [Resource.gate_eq_done.mpr (.inr ⟨caller, rfl, allowed⟩)]
      dsimp only
      rw [decide_eq_true allowed]
      exact .passed ()
    · have refused : (resource.gate action (.identified caller)).outcome ≠ .done () := by
        rw [ne_eq, Resource.gate_eq_done]
        rintro (isOpen | ⟨other, same, allows⟩)
        · rw [closed] at isOpen
          cases isOpen
        · cases same
          exact allowed allows
      rw [denied refused]
      dsimp only
      rw [decide_eq_false allowed]
      exact .failed rfl

end Stages

def Rest.storeChecks (resource : Resource) (table : Table) (operation : Operation) : List Check :=
  [Check.ofObjection (operation.objection resource table),
    Check.of (!operation.removesNothing resource table) .notFound]

section Store

variable {resource : Resource} {table : Table} (regular : resource.IsRegular)
  (identified : table.IsIdentified) {operation : Operation} (within : operation.IsWithin resource)

include regular identified within

theorem execute_follows : Follows ResourceError.tells (operation.execute resource (some table))
    (Check.ofObjection (operation.objection resource table)) := by
  rcases Operation.execute_cases regular identified within with
    ⟨value, after, done, objected, _⟩ | ⟨error, failed, objected⟩
  · rw [done, objected]
    exact .passed _
  · rw [failed, objected]
    exact .failed rfl

/-- Over HTTP a bulk removal of nothing is a failure of its own, after the store. -/
theorem respond_follows : Follows Problem.tells
    (Rest.respond operation (operation.execute resource (some table)))
    (Check.firstFailing (Rest.storeChecks resource table operation)) := by
  unfold Rest.storeChecks
  rcases Operation.execute_cases regular identified within with
    ⟨value, after, done, objected, removed⟩ | ⟨error, failed, objected⟩
  · rw [done, objected, ← removed]
    unfold Rest.respond
    dsimp only
    cases Rest.removedNothing operation value with
    | true => exact .failed rfl
    | false => exact .passed _
  · rw [failed, objected]
    exact .failed (Failure.problem_status error)

end Store

def Action.successStatus : Action -> Nat
  | .create => 201
  | .find | .update | .delete => 200

namespace Rest

/-! ## Over HTTP -/

/-- The identifier of a path with one named part that is a number of 64 bits. -/
def pathIdentifier? : Captures -> Option Int
  | [(_, value)] => (Utf8.decode (Percent.decode value)).bind fun symbols =>
      (Integer.parseSigned 64 symbols).toOption
  | _ => none

def argumentsFit (request : Request) (captures : Captures) : RootOperation -> Bool
  | .findAll => (readListRequest request.query).isOk
  | .removeMany => (readFilterRequest request.query).isOk
  | .findOne | .patch | .remove => (pathIdentifier? captures).isSome
  | .create => true

def sendsObject (request : Request) : Bool :=
  ContentType.saysJson request.headers &&
    match Json.parse request.body with
    | some (.object _) => true
    | _ => false

def contentFits (request : Request) : RootOperation -> Bool
  | .create | .patch => sendsObject request
  | .findOne | .findAll | .remove | .removeMany => true

def callerChecks (endpoint : Endpoint) (request : Request) (captures : Captures)
    (kind : RootOperation) : List Check :=
  let policy := endpoint.resource.policy
  let credential := Bearer.credential request.headers
  [Check.of (argumentsFit request captures kind) .badInput,
    Check.ofCaller kind.action policy credential endpoint.verifier,
    Check.of (contentFits request kind) .badInput,
    Check.ofPolicy kind.action policy credential endpoint.verifier]

def checks (endpoint : Endpoint) (table : Table) (request : Request) (captures : Captures)
    (kind : RootOperation) : List Check :=
  callerChecks endpoint request captures kind ++
    Check.ofAsked (asked request captures kind) (storeChecks endpoint.resource table)

section Readers

variable {request : Request} {captures : Captures}

theorem queried_follows {α : Type} (result : Except QueryFault α) :
    Follows Problem.tells (queried result).outcome (Check.of result.isOk .badInput) := by
  cases result with
  | ok value => exact .passed value
  | error fault => exact .failed rfl

theorem identifier_follows (captures : Captures) :
    Follows Problem.tells (identifier captures).outcome
      (Check.of (pathIdentifier? captures).isSome .badInput) := by
  unfold identifier pathIdentifier? brokenName
  match captures with
  | [] => exact .failed rfl
  | [(name, value)] =>
      cases decoded : Utf8.decode (Percent.decode value) with
      | none =>
          simp only [List.find?_cons, decoded]
          exact .failed rfl
      | some symbols =>
          simp only [List.find?_cons, decoded]
          dsimp only [Option.isNone_some, List.find?_nil, Option.map_none, Option.bind_some]
          rw [decoded, Option.getD_some]
          cases Integer.parseSigned 64 symbols with
          | ok number => exact .passed number
          | error refusal => exact .failed rfl
  | first :: second :: rest =>
      dsimp only
      cases (first :: second :: rest).find? _ <;> exact .failed rfl

theorem content_follows (request : Request) :
    Follows Problem.tells (content request).outcome
      (Check.of (sendsObject request) .badInput) := by
  unfold content sendsObject
  cases ContentType.saysJson request.headers with
  | false => exact .failed rfl
  | true =>
      rw [if_pos rfl, Bool.true_and]
      cases Json.parse request.body with
      | none => exact .failed rfl
      | some value =>
          cases value with
          | object members => exact .passed members
          | null | bool _ | number _ | string _ | array _ => exact .failed rfl

theorem arguments_follow (kind : RootOperation) :
    Follows Problem.tells (arguments request captures kind)
      (Check.of (argumentsFit request captures kind) .badInput) := by
  cases kind with
  | findAll => exact (queried_follows _).map _
  | removeMany => exact (queried_follows _).map _
  | findOne | patch | remove => exact (identifier_follows captures).map _
  | create => exact .passed ()

/-- A request with arguments that can be read asks for an operation, if its content is one. -/
theorem asked_follows {kind : RootOperation}
    (fits : arguments request captures kind = .done ()) :
    Follows Problem.tells (asked request captures kind)
      (Check.of (contentFits request kind) .badInput) := by
  have mapped : ∀ {α : Type} {stage : Outcome Problem α} (make : α -> Operation),
      stage.map (fun _ => ()) = .done () →
      Follows Problem.tells (stage.map make) (Check.of true .badInput) := by
    intro α stage make done
    obtain ⟨value, rfl, _⟩ := Outcome.map_eq_done.mp done
    exact .passed (make value)
  cases kind with
  | findAll => exact mapped .findAll fits
  | findOne => exact mapped .findOne fits
  | remove => exact mapped .remove fits
  | removeMany => exact mapped .removeMany fits
  | create => exact (content_follows request).map Operation.create
  | patch =>
      unfold asked
      obtain ⟨wanted, named, _⟩ := Outcome.map_eq_done.mp fits
      rw [named]
      exact (content_follows request).map _

end Readers

section Order

variable {endpoint : Endpoint} {table : Table} {request : Request} {captures : Captures}
  {kind : RootOperation} (regular : endpoint.resource.IsRegular)
  (identified : table.IsIdentified)
  (within : ∀ operation, asked request captures kind = .done operation →
    operation.IsWithin endpoint.resource)

include regular identified within

theorem staged_follows : Follows Problem.tells
    (staged endpoint request captures kind (some table))
    (Check.firstFailing (checks endpoint table request captures kind)) := by
  unfold staged checks callerChecks
  refine (arguments_follow kind).after fun _ fits => ?_
  refine Follows.after ?_ fun principal known => ?_
  · unfold Rest.principal
    rw [Attempt.outcome_convert_error]
    exact identity_follows.convert fun _ _ => ResourceError.problem_tells
  refine (asked_follows fits).after fun operation read => ?_
  refine Follows.after ?_ fun _ passed => ?_
  · unfold Rest.principal at known
    unfold operating
    rw [Attempt.outcome_convert_error, Outcome.map_error_eq_done] at known
    rw [Attempt.outcome_convert_error]
    exact (gate_follows known).convert fun _ _ => ResourceError.problem_tells
  · rw [read]
    exact respond_follows regular identified (within operation read)

omit regular identified within in
/-- What is answered without a failure has the status of a success. -/
theorem staged_success {backing after : Backing} {response : Response}
    (done : staged endpoint request captures kind backing = .done (response, after)) :
    response.status = kind.action.successStatus := by
  unfold staged at done
  obtain ⟨_, _, done⟩ := Outcome.bind_eq_done.mp done
  obtain ⟨_, _, done⟩ := Outcome.bind_eq_done.mp done
  obtain ⟨operation, read, done⟩ := Outcome.bind_eq_done.mp done
  obtain ⟨_, _, done⟩ := Outcome.bind_eq_done.mp done
  have own : response.status = successStatus operation := by
    unfold respond at done
    split at done
    · split at done
      · cases done
      · cases done
        rfl
    · cases done
    · cases done
  rw [own, ← asked_action read]
  cases operation <;> rfl

theorem handle_status {router : Router} {database : Database} {headOnly : Bool}
    (built : (Rest.router endpoint).outcome = .done router)
    (reached : destination endpoint.resource request = .reached kind captures headOnly)
    (present : database.backing endpoint.resource.entity = some table) :
    ((router.handle request database).outcome.map fun answer => answer.1.status) =
      Check.status kind.action.successStatus
        (Check.firstFailing (checks endpoint table request captures kind)) := by
  have follows := staged_follows regular identified within
  rw [handle_destination built, reached]
  unfold Destination.answer
  dsimp only
  rw [present]
  generalize Check.firstFailing (checks endpoint table request captures kind) = check at follows
  cases ended : staged endpoint request captures kind (some table) with
  | done answer =>
      have success := staged_success ended
      rw [ended] at follows
      cases follows
      rw [← success]
      cases headOnly <;> rfl
  | failed problem =>
      rw [ended] at follows
      cases follows with
      | failed told =>
          unfold Check.status
          dsimp only
          rw [← told]
          cases headOnly <;> rfl
  | crashed =>
      rw [ended] at follows
      cases follows
      rfl

omit regular identified within in
theorem checks_internal (plain : endpoint.resource.HasPlainTransforms) :
    Check.firstFailing (checks endpoint table request captures kind) = .failed .internal ↔
      (argumentsFit request captures kind = true ∧
        endpoint.resource.policy.isPublic kind.action = false ∧
        ∃ text reason, Bearer.credential request.headers = some text ∧
          endpoint.verifier text = .failed (.internal reason)) ∨
      Check.firstFailing (callerChecks endpoint request captures kind) = .done () ∧
        ∃ operation, asked request captures kind = .done operation ∧
          operation.isDeclined endpoint.resource table = true := by
  have later : ∀ check ∈ [Check.of (contentFits request kind) .badInput,
      Check.ofPolicy kind.action endpoint.resource.policy (Bearer.credential request.headers)
        endpoint.verifier], check ≠ .failed .internal := by
    intro check member
    rcases List.mem_cons.mp member with rfl | member
    · exact Check.of_internal nofun
    · exact List.mem_singleton.mp member ▸ Check.of_policy_internal
  have blamed : Check.firstFailing (callerChecks endpoint request captures kind) =
      .failed .internal ↔ argumentsFit request captures kind = true ∧
        endpoint.resource.policy.isPublic kind.action = false ∧
        ∃ text reason, Bearer.credential request.headers = some text ∧
          endpoint.verifier text = .failed (.internal reason) := by
    unfold callerChecks
    rw [Check.first_failing_cons, Check.first_failing_internal later, Check.of_eq_done,
      Check.of_caller_internal]
    exact or_iff_right (Check.of_internal nofun)
  have declined : ∀ operation : Operation,
      Check.firstFailing (storeChecks endpoint.resource table operation) = .failed .internal ↔
        operation.isDeclined endpoint.resource table = true := by
    intro operation
    unfold storeChecks
    rw [Check.first_failing_internal, Check.of_objection_internal,
      Operation.objection_internal plain]
    intro check member
    exact List.mem_singleton.mp member ▸ Check.of_internal nofun
  unfold checks
  rw [Check.first_failing_append, blamed, Check.first_failing_asked]
  simp only [declined]

end Order

end Rest

namespace Graph

/-! ## For a schema -/

/-- The arguments of a root field have a shape; null stands for no arguments. -/
def fits {α : Type} (shape : Shape α) (arguments : Json) : Bool :=
  (shape.decode .request (if arguments.isNull then .object [] else arguments)).isOk

def argumentsFit (arguments : Json) : RootOperation -> Bool
  | .findAll => fits ListRequest.shape arguments
  | .removeMany => fits bulkShape arguments
  | .findOne | .remove => fits identifierShape arguments
  | .create => fits creationShape arguments
  | .patch => fits patchShape arguments

def callerChecks (resource : Resource) (verifier : Verifier) (credential : Option String)
    (arguments : Json) (kind : RootOperation) : List Check :=
  [Check.ofCaller kind.action resource.policy credential verifier,
    Check.of (argumentsFit arguments kind) .badInput,
    Check.ofPolicy kind.action resource.policy credential verifier]

def checks (resource : Resource) (table : Table) (verifier : Verifier)
    (credential : Option String) (arguments : Json) (kind : RootOperation) : List Check :=
  callerChecks resource verifier credential arguments kind ++
    Check.ofAsked (asked arguments kind) fun operation =>
      [Check.ofObjection (operation.objection resource table)]

section Order

variable {resource : Resource} {table : Table} {verifier : Verifier} {credential : Option String}
  {arguments : Json} {kind : RootOperation}

theorem read_arguments_follow {α : Type} (shape : Shape α) (arguments : Json) :
    Follows ResourceError.tells (readArguments shape arguments).outcome
      (Check.of (fits shape arguments) .badInput) := by
  unfold readArguments fits
  dsimp only
  cases shape.decode .request (if arguments.isNull then .object [] else arguments) with
  | ok value => exact .passed value
  | error fault => exact .failed rfl

theorem asked_follows (arguments : Json) (kind : RootOperation) :
    Follows ResourceError.tells (asked arguments kind)
      (Check.of (argumentsFit arguments kind) .badInput) := by
  cases kind with
  | findAll | findOne | create | patch | remove | removeMany =>
      exact (read_arguments_follow _ arguments).map _

theorem staged_follows (regular : resource.IsRegular) (identified : table.IsIdentified)
    (within : ∀ operation, asked arguments kind = .done operation → operation.IsWithin resource) :
    Follows ResourceError.tells (staged resource kind arguments credential verifier (some table))
      (Check.firstFailing (checks resource table verifier credential arguments kind)) := by
  unfold staged checks callerChecks
  refine Follows.after ?_ fun principal known => ?_
  · unfold Graph.identified
    exact identity_follows.convert fun _ _ told => told
  refine (asked_follows arguments kind).after fun operation read => ?_
  refine Follows.after ?_ fun _ passed => ?_
  · unfold Graph.identified at known
    rw [Outcome.map_error_eq_done] at known
    exact gate_follows known
  · rw [read]
    exact (execute_follows regular identified (within operation read)).only

theorem checks_internal (plain : resource.HasPlainTransforms) :
    Check.firstFailing (checks resource table verifier credential arguments kind) =
        .failed .internal ↔
      (resource.policy.isPublic kind.action = false ∧ ∃ text reason, credential = some text ∧
        verifier text = .failed (.internal reason)) ∨
      Check.firstFailing (callerChecks resource verifier credential arguments kind) = .done () ∧
        ∃ operation, asked arguments kind = .done operation ∧
          operation.isDeclined resource table = true := by
  have later : ∀ check ∈ [Check.of (argumentsFit arguments kind) .badInput,
      Check.ofPolicy kind.action resource.policy credential verifier],
      check ≠ .failed .internal := by
    intro check member
    rcases List.mem_cons.mp member with rfl | member
    · exact Check.of_internal nofun
    · exact List.mem_singleton.mp member ▸ Check.of_policy_internal
  have declined : ∀ operation : Operation,
      Check.firstFailing [Check.ofObjection (operation.objection resource table)] =
        .failed .internal ↔ operation.isDeclined resource table = true := by
    intro operation
    rw [Check.first_failing_internal (List.forall_mem_nil _), Check.of_objection_internal,
      Operation.objection_internal plain]
  unfold checks
  rw [Check.first_failing_append, Check.first_failing_asked]
  simp only [declined]
  unfold callerChecks
  rw [Check.first_failing_internal later, Check.of_caller_internal]

end Order

def code? : GraphResponse -> Option String
  | .data _ _ => none
  | .failure error => some error.code

theorem execute_code {schema : Schema} (verifier : Verifier) (credential : Option String)
    {request : GraphRequest} {database : Database} {entry : SchemaEntry} {table : Table}
    {resources : List Resource}
    (registered : (Schema.registerAll resources Schema.empty).outcome = .done schema)
    (sought : schema.find? request.type request.field = some entry)
    (regular : entry.resource.IsRegular) (identified : table.IsIdentified)
    (present : database.backing entry.resource.entity = some table)
    (within : ∀ operation, asked request.arguments entry.field.operation = .done operation →
      operation.IsWithin entry.resource) :
    ((schema.execute verifier database request credential).outcome.map fun answer =>
        code? answer.2.1) =
      Check.code (Check.firstFailing (checks entry.resource table verifier credential
        request.arguments entry.field.operation)) := by
  have holds := Schema.holds_empty.register_all registered
  have offered := Resource.root_field_offered
    (holds.owned entry (List.mem_of_find?_eq_some sought)).2
  have follows : Follows ResourceError.tells (staged entry.resource entry.field.operation
      request.arguments credential verifier (some table)) _ :=
    staged_follows regular identified within
  rw [Schema.execute_entry sought, resolve_staged _ offered, present]
  generalize Check.firstFailing (checks entry.resource table verifier credential
    request.arguments entry.field.operation) = check at follows
  cases ended : staged entry.resource entry.field.operation request.arguments credential verifier
    (some table) with
  | done answer =>
      rw [ended] at follows
      cases follows
      rfl
  | failed error =>
      rw [ended] at follows
      cases follows with
      | failed told =>
          unfold Check.code
          dsimp only
          rw [← told, ← Failure.graph_code]
          rfl
  | crashed =>
      rw [ended] at follows
      cases follows
      rfl

end Graph

/-- A schema is asked for the questions with a text of sixty thousand letters. -/
theorem long_filter_answered (verifier : Verifier) :
    let faqs : Resource :=
      ⟨Entity.faqs, { ResourceOptions.named "faqs" with policy := ⟨[.find], []⟩ }⟩
    let words := String.ofList (List.replicate 60000 'x')
    let wanted : Json := .object [("filter", .object [("question", .string words)])]
    let database : Database := ⟨[("faqs", ⟨[[("id", .integer 1), ("question", .text "a"),
      ("answer", .text ""), ("status", .text "draft")]], 2⟩)]⟩
    ∃ schema, (Schema.registerAll [faqs] Schema.empty).outcome = .done schema ∧
      ((schema.execute verifier database ⟨.query, "faqs", wanted⟩ none).outcome.map
        fun answer => Graph.code? answer.2.1) = .done (some "INTERNAL_SERVER_ERROR") := by
  intro faqs words wanted database
  let table : Table := ⟨[[("id", .integer 1), ("question", .text "a"), ("answer", .text ""),
    ("status", .text "draft")]], 2⟩
  let request : ListRequest :=
    ⟨some (.structured (.object [("question", .string words)])), none, none, none⟩
  have regular : faqs.IsRegular := by
    refine ⟨rfl, Entity.all_complete Entity.faqs List.mem_cons_self rfl, ?_⟩
    intro field transform impossible
    cases impossible
  have identified : table.IsIdentified := by
    intro record member
    cases List.mem_singleton.mp member
    exact ⟨1, rfl⟩
  have listed : ((Schema.registerAll [faqs] Schema.empty).outcome.map fun _ => ()) = .done () := by
    decide +kernel
  obtain ⟨schema, registered, _⟩ := Outcome.map_eq_done.mp listed
  have sought : schema.find? .query "faqs" = some ⟨⟨.query, "faqs", .findAll⟩, faqs⟩ :=
    (Schema.holds_empty.register_all registered).found faqs List.mem_cons_self
      ⟨.query, "faqs", .findAll⟩ (by decide +kernel)
  have asked : Graph.asked wanted .findAll = .done (.findAll request) := rfl
  have predicates : faqs.filterPredicates request.filter =
      [.like "question" ("%" ++ words ++ "%")] := rfl
  have long : Sql.greatestPattern < ("%" ++ words ++ "%").utf8ByteSize :=
    overlong_repeated (show 50000 < 60000 by decide)
  obtain ⟨order, query, _⟩ := faqs.query_value request
  rw [predicates] at query
  have isWithin : (faqs.query request).value.IsWithin := by
    rw [query]
    refine ⟨?_, nofun, nofun⟩
    intro predicate member
    cases List.mem_singleton.mp member
    exact nofun
  have declined : (Operation.findAll request).isDeclined faqs table = true :=
    Operation.declined_of_overlong predicates (by decide) long (List.cons_ne_nil _ _)
  have within : ∀ operation, Graph.asked wanted .findAll = .done operation →
      operation.IsWithin faqs := by
    intro operation own
    cases asked.symm.trans own
    exact isWithin
  refine ⟨schema, registered, ?_⟩
  rw [Graph.execute_code verifier none registered sought regular identified rfl within,
    Check.code_eq_internal, Graph.checks_internal regular.plain]
  exact .inr ⟨rfl, .findAll request, asked, declined⟩

end GatedResources
