import GatedResources.Proofs.Admission
import Mathlib.Data.List.Forall2
import Mathlib.Data.List.Sort

/-!
# Decisions of the gate

A policy is put together call by call. What the gate decides about an action depends on which
calls about that action were made, and on nothing else: not on their order, not on how often they
were made, not on calls about other actions.
-/

namespace GatedResources

/-- The same character, or the two cases of one ASCII letter. -/
def SameLetter (first second : Char) : Prop :=
  first = second ∨ (65 ≤ first.toNat ∧ first.toNat ≤ 90 ∧ second.toNat = first.toNat + 32) ∨
    (65 ≤ second.toNat ∧ second.toNat ≤ 90 ∧ first.toNat = second.toNat + 32)

def EqualIgnoringCase (first second : String) : Prop :=
  List.Forall₂ SameLetter first.toList second.toList

theorem lower_number (symbol : Char) :
    symbol.toLower.toNat =
      if 65 ≤ symbol.toNat ∧ symbol.toNat ≤ 90 then symbol.toNat + 32 else symbol.toNat := by
  unfold Char.toLower
  split
  · next capital =>
      have above : 65 ≤ symbol.toNat := capital.1
      have below : symbol.toNat ≤ 90 := capital.2
      rw [if_pos ⟨above, below⟩]
      show (symbol.val + 32).toNat = symbol.toNat + 32
      rw [UInt32.toNat_add]
      apply Nat.mod_eq_of_lt
      show symbol.toNat + 32 < 2 ^ 32
      omega
  · next other =>
      rw [if_neg]
      intro capital
      exact other capital

theorem lower_eq_iff {first second : Char} :
    first.toLower = second.toLower ↔ SameLetter first second := by
  rw [← Char.toNat_inj, lower_number, lower_number]
  unfold SameLetter
  rw [← Char.toNat_inj]
  split <;> split <;> omega

namespace Role

theorem mem_all (role : Role) : role ∈ all := by
  cases role <;> decide

theorem admits_scope_iff {role : Role} {scope : String} :
    role.admitsScope scope = true ↔ EqualIgnoringCase role.name scope := by
  unfold admitsScope foldCase EqualIgnoringCase
  rw [beq_iff_eq, ← List.forall₂_eq_eq_eq, List.forall₂_map_left_iff, List.forall₂_map_right_iff]
  simp only [lower_eq_iff]

/-- No text spells two roles. -/
theorem admits_one {first second : Role} {scope : String}
    (firstAdmits : first.admitsScope scope = true)
    (secondAdmits : second.admitsScope scope = true) : first = second := by
  unfold admitsScope at firstAdmits secondAdmits
  have folded : foldCase first.name = foldCase second.name :=
    (eq_of_beq firstAdmits).trans (eq_of_beq secondAdmits).symm
  have distinct : ∀ left ∈ all, ∀ right ∈ all, foldCase left.name = foldCase right.name →
      left = right := by
    decide +kernel
  exact distinct first (mem_all first) second (mem_all second) folded

theorem parse_eq_some_iff {role : Role} {scope : String} :
    parse scope = some role ↔ role.admitsScope scope = true := by
  constructor
  · intro parsed
    have admits := List.find?_some parsed
    exact admits
  · intro admits
    cases parsed : parse scope with
    | none =>
        have refused := List.find?_eq_none.mp parsed role (mem_all role)
        exact absurd admits refused
    | some found =>
        have foundAdmits := List.find?_some parsed
        rw [admits_one foundAdmits admits]

def Precedes (first second : Role) : Prop :=
  first.place < second.place

theorem eq_of_place {first second : Role} (same : first.place = second.place) : first = second := by
  cases first <;> cases second <;> first | rfl | exact absurd same (by decide)

theorem all_ascending : all.Pairwise Precedes := by
  unfold all Precedes
  decide

/-- Roles in strict order are told by which they are. -/
theorem eq_of_ascending {first second : List Role} (firstAscends : first.Pairwise Precedes)
    (secondAscends : second.Pairwise Precedes) (same : ∀ role, role ∈ first ↔ role ∈ second) :
    first = second := by
  have distinct : ∀ {roles : List Role}, roles.Pairwise Precedes → roles.Nodup :=
    fun ascends => ascends.imp fun before => fun equal => absurd (equal ▸ before) (Nat.lt_irrefl _)
  have permuted : first.Perm second :=
    (List.perm_ext_iff_of_nodup (distinct firstAscends) (distinct secondAscends)).mpr same
  apply permuted.eq_of_pairwise _ firstAscends secondAscends
  intro left right _ _ before after
  exact absurd before (Nat.lt_asymm after)

theorem insert_in_order_eq (role : Role) (roles : List Role) :
    role.insertInOrder roles =
      roles.orderedInsert (fun first second => first.place ≤ second.place) role := by
  induction roles with
  | nil => rfl
  | cons next rest claim =>
      unfold insertInOrder
      rw [claim, List.orderedInsert_cons]

theorem in_order_eq (roles : List Role) :
    inOrder roles = roles.insertionSort fun first second => first.place ≤ second.place := by
  unfold inOrder
  induction roles with
  | nil => rfl
  | cons role rest claim =>
      rw [List.foldr_cons, claim, insert_in_order_eq, List.insertionSort_cons]

theorem mem_in_order {roles : List Role} {role : Role} : role ∈ inOrder roles ↔ role ∈ roles := by
  rw [in_order_eq]
  exact (List.perm_insertionSort _ roles).mem_iff

theorem in_order_ascending (roles : List Role) :
    (inOrder roles).Pairwise fun first second => first.place ≤ second.place := by
  rw [in_order_eq]
  apply List.pairwise_insertionSort

theorem without_repeats_loop (role : Role) (roles kept : List Role) :
    List.eraseRepsBy.loop (· == ·) role roles kept =
      kept.reverse ++ List.eraseRepsBy.loop (· == ·) role roles [] := by
  induction roles generalizing role kept with
  | nil => simp [List.eraseRepsBy.loop]
  | cons next rest claim =>
      unfold List.eraseRepsBy.loop
      split
      · exact claim role kept
      · rw [claim next (role :: kept), claim next [role]]
        simp

theorem without_repeats_cons (role next : Role) (rest : List Role) :
    (role :: next :: rest).eraseReps =
      if role = next then (next :: rest).eraseReps else role :: (next :: rest).eraseReps := by
  change List.eraseRepsBy.loop (· == ·) role (next :: rest) [] = _
  rw [List.eraseRepsBy.loop]
  split
  · next same =>
      rw [if_pos (eq_of_beq same), eq_of_beq same]
      rfl
  · next differ =>
      rw [if_neg (by simpa using differ), without_repeats_loop]
      rfl

theorem mem_without_repeats {roles : List Role} {role : Role} :
    role ∈ roles.eraseReps ↔ role ∈ roles := by
  induction roles with
  | nil => rfl
  | cons first rest claim =>
      cases rest with
      | nil => rfl
      | cons second rest =>
          rw [without_repeats_cons]
          split
          · next same =>
              rw [claim, same]
              simp
          · exact (List.mem_cons.trans (or_congr_right claim)).trans List.mem_cons.symm

theorem ascending_without_repeats {roles : List Role}
    (ascends : roles.Pairwise fun first second => first.place ≤ second.place) :
    roles.eraseReps.Pairwise Precedes := by
  induction roles with
  | nil => exact .nil
  | cons first rest claim =>
      cases rest with
      | nil => exact List.pairwise_singleton _ _
      | cons second rest =>
          obtain ⟨least, later⟩ := List.pairwise_cons.mp ascends
          rw [without_repeats_cons]
          split
          · exact claim later
          · next differ =>
              refine List.pairwise_cons.mpr ⟨?_, claim later⟩
              intro role member
              have below : first.place < second.place :=
                Nat.lt_of_le_of_ne (least second List.mem_cons_self) (mt eq_of_place differ)
              -- The second role is the least of those that are left.
              rcases List.mem_cons.mp (mem_without_repeats.mp member) with same | behind
              · exact same ▸ below
              · exact Nat.lt_of_lt_of_le below ((List.pairwise_cons.mp later).1 role behind)

end Role

inductive PolicyCall where
  | opening (action : Action)
  | ruling (action : Action) (roles : List Role)
deriving DecidableEq

namespace PolicyCall

def action : PolicyCall -> Action
  | .opening action => action
  | .ruling action _ => action

def apply (policy : Policy) : PolicyCall -> Policy
  | .opening action => policy.openAction action
  | .ruling action roles => policy.addRule action roles

end PolicyCall

namespace Policy

def ofCalls (calls : List PolicyCall) : Policy :=
  calls.foldl PolicyCall.apply empty

theorem mem_open_action {policy : Policy} {opened action : Action} :
    action ∈ (policy.openAction opened).publicActions ↔
      action ∈ policy.publicActions ∨ action = opened := by
  unfold openAction
  split
  · next present =>
      constructor
      · intro member
        exact .inl member
      · rintro (member | same)
        · exact member
        · exact same ▸ present
  · simp

theorem foldl_public (calls : List PolicyCall) (policy : Policy) (action : Action) :
    action ∈ (calls.foldl PolicyCall.apply policy).publicActions ↔
      action ∈ policy.publicActions ∨ .opening action ∈ calls := by
  induction calls generalizing policy with
  | nil => simp
  | cons call rest claim =>
      rw [List.foldl_cons, claim]
      cases call with
      | opening opened =>
          rw [PolicyCall.apply, mem_open_action, List.mem_cons, or_assoc]
          simp
      | ruling ruled roles =>
          simp [PolicyCall.apply, addRule]

theorem foldl_rules (calls : List PolicyCall) (policy : Policy) (rule : RoleRule) :
    rule ∈ (calls.foldl PolicyCall.apply policy).rules ↔
      rule ∈ policy.rules ∨ .ruling rule.action rule.roles ∈ calls := by
  induction calls generalizing policy with
  | nil => simp
  | cons call rest claim =>
      rw [List.foldl_cons, claim]
      cases call with
      | opening opened =>
          have unchanged : (policy.openAction opened).rules = policy.rules := by
            unfold openAction
            split <;> rfl
          rw [PolicyCall.apply, unchanged]
          simp
      | ruling ruled roles =>
          have own : rule = ⟨ruled, roles⟩ ↔
              PolicyCall.ruling rule.action rule.roles = .ruling ruled roles := by
            obtain ⟨action, listed⟩ := rule
            simp
          simp [PolicyCall.apply, addRule, own, or_assoc]

theorem is_public_of_calls {calls : List PolicyCall} {action : Action} :
    (ofCalls calls).isPublic action = true ↔ .opening action ∈ calls := by
  unfold isPublic ofCalls
  rw [decide_eq_true_iff, foldl_public]
  simp [empty]

theorem allowed_roles_ascending (policy : Policy) (action : Action) :
    (policy.allowedRoles action).Pairwise Role.Precedes :=
  Role.ascending_without_repeats (Role.in_order_ascending _)

/-- The union of the roles that are named for an action, sorted and without repetitions, is the
selection of these roles among all. -/
theorem allowed_roles_eq (policy : Policy) (action : Action) :
    policy.allowedRoles action = Role.all.filter fun role =>
      policy.rules.any fun rule => rule.action == action && rule.roles.contains role := by
  apply Role.eq_of_ascending
  · exact allowed_roles_ascending policy action
  · exact Role.all_ascending.filter _
  · intro role
    unfold allowedRoles
    rw [Role.mem_without_repeats, Role.mem_in_order, List.mem_flatMap, List.mem_filter,
      List.any_eq_true]
    simp [Role.mem_all, and_assoc]

theorem mem_allowed_roles {policy : Policy} {action : Action} {role : Role} :
    role ∈ policy.allowedRoles action ↔
      ∃ rule ∈ policy.rules, rule.action = action ∧ role ∈ rule.roles := by
  rw [allowed_roles_eq, List.mem_filter, List.any_eq_true]
  simp [Role.mem_all]

/-- The roles for an action are those that some call about it lists. -/
theorem mem_allowed_of_calls {calls : List PolicyCall} {action : Action} {role : Role} :
    role ∈ (ofCalls calls).allowedRoles action ↔
      ∃ roles, .ruling action roles ∈ calls ∧ role ∈ roles := by
  rw [mem_allowed_roles]
  constructor
  · rintro ⟨rule, member, same, listed⟩
    subst same
    rcases (foldl_rules calls empty rule).mp member with impossible | called
    · cases impossible
    · exact ⟨rule.roles, called, listed⟩
  · rintro ⟨roles, called, listed⟩
    exact ⟨⟨action, roles⟩, (foldl_rules calls empty _).mpr (.inr called), rfl, listed⟩

end Policy

namespace Gate

/-- What lets a principal pass for an action: a call that opens it, or a caller whose scope is the
name of a listed role, or a caller where no role is listed at all. -/
def Granted (calls : List PolicyCall) (action : Action) (principal : Principal) : Prop :=
  .opening action ∈ calls ∨ ∃ caller, principal = .identified caller ∧
    ((∀ roles, .ruling action roles ∈ calls → roles = []) ∨
      ∃ roles, .ruling action roles ∈ calls ∧
        ∃ role ∈ roles, EqualIgnoringCase role.name caller.scope)

theorem decide_eq_allow {action : Action} {caller : Caller} {policy : Policy} :
    decide action caller policy = .allow ↔
      policy.allowedRoles action = [] ∨
        ∃ role ∈ policy.allowedRoles action, EqualIgnoringCase role.name caller.scope := by
  unfold decide
  simp only [← Role.admits_scope_iff]
  split
  · next passes =>
      simpa using passes
  · next refused =>
      simpa using refused

theorem no_roles_listed {calls : List PolicyCall} {action : Action} :
    (Policy.ofCalls calls).allowedRoles action = [] ↔
      ∀ roles, .ruling action roles ∈ calls → roles = [] := by
  rw [List.eq_nil_iff_forall_not_mem]
  constructor
  · intro none roles called
    apply List.eq_nil_iff_forall_not_mem.mpr
    intro role listed
    exact none role (Policy.mem_allowed_of_calls.mpr ⟨roles, called, listed⟩)
  · intro empty role allowed
    obtain ⟨roles, called, listed⟩ := Policy.mem_allowed_of_calls.mp allowed
    rw [empty roles called] at listed
    cases listed

theorem authorize_granted {calls : List PolicyCall} {action : Action} {principal : Principal} :
    (authorize action principal (Policy.ofCalls calls)).outcome = .done () ↔
      Granted calls action principal := by
  have listed (caller : Caller) :
      (∃ role ∈ (Policy.ofCalls calls).allowedRoles action,
        EqualIgnoringCase role.name caller.scope) ↔
      ∃ roles, .ruling action roles ∈ calls ∧
        ∃ role ∈ roles, EqualIgnoringCase role.name caller.scope := by
    constructor
    · rintro ⟨role, allowed, spelled⟩
      obtain ⟨roles, called, member⟩ := Policy.mem_allowed_of_calls.mp allowed
      exact ⟨roles, called, role, member, spelled⟩
    · rintro ⟨roles, called, role, member, spelled⟩
      exact ⟨role, Policy.mem_allowed_of_calls.mpr ⟨roles, called, member⟩, spelled⟩
  unfold Granted
  rw [authorize_eq_done, Policy.is_public_of_calls]
  simp only [decide_eq_allow, no_roles_listed, listed]

def refusal : Principal -> AccessError
  | .anonymous => .unauthenticated
  | .identified _ => .denied insufficientScope

theorem authorize_refused {action : Action} {principal : Principal} {policy : Policy}
    (refused : (authorize action principal policy).outcome ≠ .done ()) :
    (authorize action principal policy).outcome = .failed (refusal principal) := by
  unfold authorize at refused ⊢
  by_cases isOpen : policy.isPublic action = true
  · rw [if_pos isOpen] at refused
    exact absurd rfl refused
  · rw [if_neg isOpen] at refused ⊢
    cases principal with
    | anonymous => rfl
    | identified caller =>
        dsimp only at refused ⊢
        cases decision : decide action caller policy with
        | allow =>
            rw [decision] at refused
            exact absurd rfl refused
        | deny reason =>
            have only : reason = insufficientScope := by
              unfold decide at decision
              dsimp only at decision
              split at decision
              · cases decision
              · cases decision
                rfl
            rw [only]
            rfl

theorem authorize_ends (calls : List PolicyCall) (action : Action) (principal : Principal) :
    (Granted calls action principal ∧
        (authorize action principal (Policy.ofCalls calls)).outcome = .done ()) ∨
      (¬Granted calls action principal ∧
        (authorize action principal (Policy.ofCalls calls)).outcome =
          .failed (refusal principal)) := by
  by_cases granted : Granted calls action principal
  · exact .inl ⟨granted, authorize_granted.mpr granted⟩
  · exact .inr ⟨granted, authorize_refused (mt authorize_granted.mp granted)⟩

/-- Policies that agree on an action decide alike on it. -/
theorem authorize_congr {action : Action} {first second : Policy}
    (samePublic : first.isPublic action = second.isPublic action)
    (sameRoles : first.allowedRoles action = second.allowedRoles action) (principal : Principal) :
    authorize action principal first = authorize action principal second := by
  unfold authorize decide
  rw [samePublic, sameRoles]

theorem allowed_roles_congr {action : Action} {calls others : List PolicyCall}
    (same : ∀ call, call.action = action → (call ∈ others ↔ call ∈ calls)) :
    (Policy.ofCalls others).allowedRoles action = (Policy.ofCalls calls).allowedRoles action := by
  have members : ∀ role, role ∈ (Policy.ofCalls others).allowedRoles action ↔
      role ∈ (Policy.ofCalls calls).allowedRoles action := by
    intro role
    simp only [Policy.mem_allowed_of_calls]
    constructor
    · rintro ⟨roles, called, listed⟩
      exact ⟨roles, (same (.ruling action roles) rfl).mp called, listed⟩
    · rintro ⟨roles, called, listed⟩
      exact ⟨roles, (same (.ruling action roles) rfl).mpr called, listed⟩
  exact Role.eq_of_ascending (Policy.allowed_roles_ascending _ _)
    (Policy.allowed_roles_ascending _ _) members

/-- What the gate decides for a policy that any calls have put together. -/
theorem authorize_decides (calls : List PolicyCall) (action : Action) (principal : Principal) :
    ((authorize action principal (Policy.ofCalls calls)).outcome = .done () ↔
        Granted calls action principal) ∧
      ((authorize action principal (Policy.ofCalls calls)).outcome = .failed .unauthenticated ↔
        ¬Granted calls action principal ∧ principal = .anonymous) ∧
      ((authorize action principal (Policy.ofCalls calls)).outcome =
          .failed (.denied insufficientScope) ↔
        ¬Granted calls action principal ∧ ∃ caller, principal = .identified caller) ∧
      (∀ role scope, EqualIgnoringCase role.name scope ↔ Role.parse scope = some role) ∧
      ∀ others : List PolicyCall,
        (∀ call, call.action = action → (call ∈ others ↔ call ∈ calls)) →
          authorize action principal (Policy.ofCalls others) =
            authorize action principal (Policy.ofCalls calls) := by
  refine ⟨authorize_granted, ?_, ?_, ?_, ?_⟩
  · rcases authorize_ends calls action principal with ⟨granted, ended⟩ | ⟨refused, ended⟩
    · simp [ended, granted]
    · cases principal <;> simp [ended, refused, refusal]
  · rcases authorize_ends calls action principal with ⟨granted, ended⟩ | ⟨refused, ended⟩
    · simp [ended, granted]
    · cases principal <;> simp [ended, refused, refusal]
  · intro role scope
    rw [Role.parse_eq_some_iff, Role.admits_scope_iff]
  · intro others same
    apply authorize_congr _ (allowed_roles_congr same)
    rw [Bool.eq_iff_iff, Policy.is_public_of_calls, Policy.is_public_of_calls]
    exact same (.opening action) rfl

/-- Rules for updates in another order, one of them twice and without the calls about other
actions, let the same provider pass and turn the same client away. -/
theorem authorize_reordered :
    let calls := [.ruling .update [.admin], .ruling .find [], .opening .create,
      .ruling .update [.provider]]
    let others := [.ruling .update [.provider], .ruling .update [.admin],
      .ruling .update [.provider]]
    let provider := Principal.identified ⟨"pat", "pRoViDeR"⟩
    let client := Principal.identified ⟨"alice", "client"⟩
    (∀ call : PolicyCall, call.action = .update → (call ∈ others ↔ call ∈ calls)) ∧
      (authorize .update provider (Policy.ofCalls others)).outcome = .done () ∧
      (authorize .update client (Policy.ofCalls others)).outcome =
        .failed (.denied insufficientScope) := by
  intro calls others provider client
  have same : ∀ call : PolicyCall, call.action = .update → (call ∈ others ↔ call ∈ calls) := by
    intro call about
    constructor
    · intro member
      simp only [others, List.mem_cons, List.not_mem_nil, or_false] at member
      simp only [calls, List.mem_cons, List.not_mem_nil, or_false]
      tauto
    · intro member
      simp only [calls, List.mem_cons, List.not_mem_nil, or_false] at member
      rcases member with rfl | rfl | rfl | rfl
      · simp [others]
      · cases about
      · cases about
      · simp [others]
  obtain ⟨_, _, _, _, agrees⟩ := authorize_decides calls .update provider
  obtain ⟨_, _, _, _, agreesOnClient⟩ := authorize_decides calls .update client
  refine ⟨same, ?_, ?_⟩
  · rw [agrees others same]
    decide +kernel
  · rw [agreesOnClient others same]
    decide +kernel

end Gate
end GatedResources
