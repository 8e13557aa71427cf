import GatedResources.Proofs.Outcome
import GatedResources.Resource.Operations

/-!
# Who gets past the gate

A principal passes for an action when the action is public or when it is an identified caller
whom the policy allows. Seen from a request, a caller is identified by a credential that the
verifier takes.
-/

namespace GatedResources
namespace Gate

theorem authorize_eq_done {action : Action} {principal : Principal} {policy : Policy} :
    (authorize action principal policy).outcome = .done () ↔
      policy.isPublic action = true ∨
        ∃ caller, principal = .identified caller ∧ decide action caller policy = .allow := by
  unfold authorize
  by_cases isOpen : policy.isPublic action = true
  · simp [isOpen]
  · cases principal with
    | anonymous => simp [isOpen]
    | identified caller =>
        cases decision : decide action caller policy with
        | allow => simp [isOpen, decision]
        | deny reason => simp [isOpen, decision]

/-- A public action is done anonymously; any other needs a credential that the verifier takes. -/
theorem identify_eq_done {action : Action} {policy : Policy} {credential : Option String}
    {verifier : Verifier} {principal : Principal} :
    (identify action policy credential verifier).outcome = .done principal ↔
      (policy.isPublic action = true ∧ principal = .anonymous) ∨
        (policy.isPublic action = false ∧ ∃ text caller, credential = some text ∧
          verifier text = .done caller ∧ principal = .identified caller) := by
  unfold identify
  by_cases isOpen : policy.isPublic action = true
  · simp [isOpen, eq_comm]
  · cases credential with
    | none => simp [isOpen, Outcome.map]
    | some text =>
        cases verified : verifier text with
        | done caller => simp [isOpen, verified, Outcome.map, eq_comm]
        | failed error => simp [isOpen, verified, Outcome.map]
        | crashed => simp [isOpen, verified, Outcome.map]

end Gate

/-- What a request needs before anything is done for it: the action is offered, and it is either
public or asked for by a caller whom the verifier knows and the policy allows. -/
structure Authorized (resource : Resource) (verifier : Verifier) (credential : Option String)
    (action : Action) : Prop where
  offered : resource.options.isHidden action = false
  permitted : resource.policy.isPublic action = true ∨
    ∃ text caller, credential = some text ∧ verifier text = .done caller ∧
      Gate.decide action caller resource.policy = .allow

namespace Resource

theorem gate_eq_done {resource : Resource} {action : Action} {principal : Principal} :
    (resource.gate action principal).outcome = .done () ↔
      resource.policy.isPublic action = true ∨
        ∃ caller, principal = .identified caller ∧
          Gate.decide action caller resource.policy = .allow := by
  unfold gate
  rw [Attempt.outcome_convert_error, Outcome.map_error_eq_done]
  exact Gate.authorize_eq_done

/-- A principal that was identified for an action and passes the gate for the same action comes
from an authorized request. The two steps must agree on the action. -/
theorem authorized_of_gate {resource : Resource} {verifier : Verifier}
    {credential : Option String} {action : Action} {principal : Principal}
    (offered : resource.options.isHidden action = false)
    (identified : (Gate.identify action resource.policy credential verifier).outcome =
      .done principal)
    (passed : (resource.gate action principal).outcome = .done ()) :
    Authorized resource verifier credential action := by
  refine ⟨offered, ?_⟩
  rcases gate_eq_done.mp passed with isOpen | ⟨caller, same, allowed⟩
  · exact .inl isOpen
  · rcases Gate.identify_eq_done.mp identified with
      ⟨isOpen, _⟩ | ⟨_, text, known, shown, verified, named⟩
    · exact .inl isOpen
    · have sameCaller : known = caller := by
        rw [named] at same
        exact Principal.identified.inj same
      subst sameCaller
      exact .inr ⟨text, known, shown, verified, allowed⟩

end Resource
end GatedResources
