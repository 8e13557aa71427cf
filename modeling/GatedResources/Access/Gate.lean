import GatedResources.Access.Caller
import GatedResources.Access.Policy
import GatedResources.Trace

/-!
# The gate

The gate answers two questions: who is asking, and may they do it. A public action asks
neither. An action without allowed roles is open to every identified caller.
-/

namespace GatedResources

inductive IdentityError where
  | missingCredential
  | unauthorized (reason : String)
  | internal (reason : String)
deriving DecidableEq, Repr

abbrev Verifier := String -> Outcome IdentityError Caller

inductive AccessError where
  | unauthenticated
  | denied (reason : String)
  | verifier (reason : String)
deriving DecidableEq, Repr

namespace IdentityError

def message : IdentityError -> String
  | .missingCredential => "missing credential"
  | .unauthorized reason => "unauthorized: " ++ reason
  | .internal reason => "internal error: " ++ reason

end IdentityError

namespace AccessError

def message : AccessError -> String
  | .unauthenticated => "unauthenticated"
  | .denied reason => "access denied: " ++ reason
  | .verifier reason => "identity verification unavailable: " ++ reason

/-- A verifier that does not work is not the caller's fault; everything else leaves the
caller unidentified. -/
def ofIdentityError : IdentityError -> Traced AccessError
  | .internal reason => do
      Traced.report .error "identity verifier failed" [("error", reason)]
      return .verifier reason
  | error => do
      Traced.report .debug "identity verification failed" [("error", error.message)]
      return .unauthenticated

end AccessError

inductive Decision where
  | allow
  | deny (reason : String)
deriving DecidableEq, Repr

namespace Gate

def insufficientScope : String := "insufficient scope"

def decide (action : Action) (caller : Caller) (policy : Policy) : Decision :=
  let allowed := policy.allowedRoles action
  if allowed.isEmpty || allowed.any fun role => role.admitsScope caller.scope then
    .allow
  else
    .deny insufficientScope

def authorize (action : Action) (principal : Principal) (policy : Policy) :
    Attempt AccessError Unit :=
  if policy.isPublic action then
    .succeed ()
  else
    match principal with
    | .anonymous => .fail .unauthenticated
    | .identified caller =>
        match decide action caller policy with
        | .allow => .succeed ()
        | .deny reason => do
            Attempt.report .debug "access denied" [
              ("kind", action.name), ("subject", caller.subject), ("scope", caller.scope),
              ("reason", reason)]
            Attempt.fail (.denied reason)

/-- Finds out who is asking. A public action is done anonymously, whatever the credential. -/
def identify (action : Action) (policy : Policy) (credential : Option String)
    (verifier : Verifier) : Attempt AccessError Principal :=
  if policy.isPublic action then
    .succeed .anonymous
  else
    let verified : Outcome IdentityError Caller :=
      match credential with
      | some credential => verifier credential
      | none => .failed .missingCredential
    (Attempt.ofOutcome (verified.map Principal.identified)).convertError AccessError.ofIdentityError

end Gate
end GatedResources
