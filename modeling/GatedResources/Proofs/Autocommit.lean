import GatedResources.Proofs.Writes
import GatedResources.Resource.Operations

/-!
# Statements that are committed one by one

No operation runs in a transaction: each statement is executed as a whole or not at all, and what
it has changed stays changed when a later step fails. The steps of the operations are run here in
this way, so that a step that fails after a change would be seen. They turn out to be whole: one
that fails has changed nothing.
-/

namespace GatedResources

/-- Steps that put statements to the database: how they end, and the backing that they leave
however they end. -/
structure Autocommit (ε α : Type) where
  run : Backing -> Outcome ε α × Backing

namespace Autocommit

variable {ε δ α β : Type}

def step (attempt : Attempt ε α) : Autocommit ε α :=
  ⟨fun backing => (attempt.outcome, backing)⟩

def reading (ask : Backing -> Attempt ε α) : Autocommit ε α :=
  ⟨fun backing => ((ask backing).outcome, backing)⟩

/-- How something ends that is done as a whole or not at all. -/
def ending (backing : Backing) : Outcome ε (α × Backing) -> Outcome ε α × Backing
  | .done (value, after) => (.done value, after)
  | .failed error => (.failed error, backing)
  | .crashed => (.crashed, backing)

def writing (put : Backing -> Attempt ε (α × Backing)) : Autocommit ε α :=
  ⟨fun backing => ending backing (put backing).outcome⟩

/-- Goes on from what was left. A failure takes nothing back. -/
def proceed (next : α -> Autocommit ε β) : Outcome ε α × Backing -> Outcome ε β × Backing
  | (.done value, after) => (next value).run after
  | (.failed error, after) => (.failed error, after)
  | (.crashed, after) => (.crashed, after)

instance : Monad (Autocommit ε) where
  pure value := step (.succeed value)
  bind first next := ⟨fun backing => proceed next (first.run backing)⟩

def convertError (convert : ε -> Traced δ) (steps : Autocommit ε α) : Autocommit δ α :=
  ⟨fun backing => ((steps.run backing).1.mapError fun error => (convert error).value,
    (steps.run backing).2)⟩

/-- Runs the steps of an operation with every statement committed by itself. -/
def ofSteps : {ε α : Type} -> Steps ε α -> Autocommit ε α
  | _, _, .answer value => pure value
  | _, _, .attempt first next => step first >>= fun value => ofSteps (next value)
  | _, _, .read ask next => reading ask >>= fun value => ofSteps (next value)
  | _, _, .write put next => writing put >>= fun value => ofSteps (next value)
  | _, _, .call steps convert next =>
      (ofSteps steps).convertError convert >>= fun value => ofSteps (next value)

/-- The steps of an operation end as the operation does, and leave what it leaves or, where it
fails, what was there. -/
def Whole (steps : Autocommit ε α) (operation : Backing -> Attempt ε (α × Backing)) : Prop :=
  ∀ backing, steps.run backing = ending backing (operation backing).outcome

variable {steps : Autocommit ε α} {operation : Backing -> Attempt ε (α × Backing)}

def Spares (steps : Autocommit ε α) : Prop :=
  ∀ backing error, (steps.run backing).1 = .failed error → (steps.run backing).2 = backing

theorem Whole.spares (whole : steps.Whole operation) : steps.Spares := by
  intro backing error failed
  rw [whole backing] at failed ⊢
  cases ended : (operation backing).outcome with
  | done answer =>
      rw [ended] at failed
      cases failed
  | failed own => rfl
  | crashed => rfl

theorem run_bind (first : Autocommit ε α) (next : α -> Autocommit ε β) (backing : Backing) :
    (first >>= next).run backing = proceed next (first.run backing) :=
  rfl

theorem bind_assoc {γ : Type} (first : Autocommit ε α) (next : α -> Autocommit ε β)
    (last : β -> Autocommit ε γ) :
    (first >>= next) >>= last = first >>= fun value => next value >>= last := by
  apply congrArg Autocommit.mk
  funext backing
  rw [run_bind]
  obtain ⟨ended, after⟩ := first.run backing
  cases ended <;> rfl

theorem of_steps_bind (steps : Steps ε α) (next : α -> Steps ε β) :
    ofSteps (steps >>= next) = ofSteps steps >>= fun value => ofSteps (next value) := by
  change ofSteps (steps.andThen next) = _
  induction steps with
  | answer value => rfl
  | attempt first rest claim =>
      rw [ofSteps, bind_assoc]
      apply congrArg (_ >>= ·)
      funext value
      exact claim value next
  | read ask rest claim =>
      rw [ofSteps, bind_assoc]
      apply congrArg (_ >>= ·)
      funext value
      exact claim value next
  | write put rest claim =>
      rw [ofSteps, bind_assoc]
      apply congrArg (_ >>= ·)
      funext value
      exact claim value next
  | call steps convert rest _ claim =>
      rw [ofSteps, bind_assoc]
      apply congrArg (_ >>= ·)
      funext value
      exact claim value next

theorem run_map (steps : Autocommit ε α) (change : α -> β) (backing : Backing) :
    (steps >>= fun value => (pure (change value) : Autocommit ε β)).run backing =
      ((steps.run backing).1.map change, (steps.run backing).2) := by
  show proceed _ (steps.run backing) = _
  obtain ⟨ended, left⟩ := steps.run backing
  cases ended <;> rfl

end Autocommit

namespace Steps

open Autocommit

variable {ε δ α β : Type}

/-- Steps that come to the same whether they are run as a whole or statement by statement. -/
def IsWhole (steps : Steps ε α) : Prop :=
  (ofSteps steps).Whole steps.run

/-- What follows a change can be counted as a part of it: it leaves what was changed, or fails
where nothing was. -/
def Closes (before after : Backing) (rest : Steps ε α) : Prop :=
  (ofSteps rest).run after = ending before (rest.run after).outcome

theorem closes_of_unchanged {before after : Backing} {rest : Steps ε α} (whole : rest.IsWhole)
    (same : after = before) : rest.Closes before after := by
  subst same
  exact whole after

theorem IsWhole.answer (value : α) : (Steps.answer value : Steps ε α).IsWhole := by
  intro backing
  rfl

theorem IsWhole.attempt {first : Attempt ε β} {next : β -> Steps ε α}
    (whole : ∀ value, (next value).IsWhole) : (Steps.attempt first next).IsWhole := by
  intro backing
  rw [Steps.run, Attempt.outcome_bind]
  show proceed _ (first.outcome, backing) = _
  cases first.outcome with
  | done value => exact whole value backing
  | failed error => rfl
  | crashed => rfl

theorem IsWhole.read {ask : Backing -> Attempt ε β} {next : β -> Steps ε α}
    (whole : ∀ value, (next value).IsWhole) : (Steps.read ask next).IsWhole := by
  intro backing
  rw [Steps.run, Attempt.outcome_bind]
  show proceed _ ((ask backing).outcome, backing) = _
  cases (ask backing).outcome with
  | done value => exact whole value backing
  | failed error => rfl
  | crashed => rfl

theorem IsWhole.write {put : Backing -> Attempt ε (β × Backing)} {next : β -> Steps ε α}
    (closes : ∀ backing value after, (put backing).outcome = .done (value, after) →
      (next value).Closes backing after) : (Steps.write put next).IsWhole := by
  intro backing
  rw [Steps.run, Attempt.outcome_bind]
  show proceed _ (ending backing (put backing).outcome) = _
  cases ended : (put backing).outcome with
  | done written => exact closes backing written.1 written.2 ended
  | failed error => rfl
  | crashed => rfl

theorem IsWhole.call {steps : Steps δ β} {convert : δ -> Traced ε} {next : β -> Steps ε α}
    (whole : steps.IsWhole)
    (closes : ∀ backing value after, (steps.run backing).outcome = .done (value, after) →
      (next value).Closes backing after) : (Steps.call steps convert next).IsWhole := by
  intro backing
  rw [Steps.run, Attempt.outcome_bind, Attempt.outcome_convert_error]
  show proceed _ (((ofSteps steps).run backing).1.mapError fun error => (convert error).value,
    ((ofSteps steps).run backing).2) = _
  rw [whole backing]
  cases ended : (steps.run backing).outcome with
  | done called => exact closes backing called.1 called.2 ended
  | failed error => rfl
  | crashed => rfl

theorem IsWhole.bind {steps : Steps ε α} {next : α -> Steps ε β} (whole : steps.IsWhole)
    (closes : ∀ backing value after, (steps.run backing).outcome = .done (value, after) →
      (next value).Closes backing after) : (steps >>= next).IsWhole := by
  intro backing
  rw [of_steps_bind, Steps.run_bind, Attempt.outcome_bind]
  show proceed _ ((ofSteps steps).run backing) = _
  rw [whole backing]
  cases ended : (steps.run backing).outcome with
  | done left => exact closes backing left.1 left.2 ended
  | failed error => rfl
  | crashed => rfl

end Steps

namespace Autocommit

/-! ## Operations of the store -/

section Store

variable {entity : Entity}

def insert (entity : Entity) (fields : List (String × Json)) : Autocommit StoreError Record :=
  ofSteps (Store.inserting entity fields)

def update (entity : Entity) (identifier : Int) (patch : List (String × Json)) :
    Autocommit StoreError (Option Record) :=
  ofSteps (Store.updating entity identifier patch)

def deleteWhere (entity : Entity) (predicates : List Predicate) : Autocommit StoreError Nat :=
  ofSteps (Store.deletingWhere entity predicates)

def deleteById (entity : Entity) (identifier : Int) : Autocommit StoreError Nat :=
  ofSteps (Store.deletingById entity identifier)

theorem insert_whole (fields : List (String × Json)) :
    (insert entity fields).Whole fun backing => Store.insert entity backing fields := by
  change (Store.inserting entity fields).IsWhole
  exact .attempt fun _ => .attempt fun _ => .write fun _ _ _ _ => rfl

theorem update_whole (identifier : Int) (patch : List (String × Json)) :
    (update entity identifier patch).Whole fun backing =>
      Store.update entity backing identifier patch := by
  change (Store.updating entity identifier patch).IsWhole
  apply Steps.IsWhole.read
  intro found
  cases found with
  | none => exact .answer none
  | some existing =>
      apply Steps.IsWhole.attempt
      intro kept
      change Steps.IsWhole (if kept.isEmpty then _ else _)
      split
      · exact .answer (some existing)
      · exact .attempt fun _ => .write fun _ _ _ _ => rfl

theorem delete_where_whole (predicates : List Predicate) :
    (deleteWhere entity predicates).Whole fun backing =>
      Store.deleteWhere entity backing predicates := by
  change (Store.deletingWhere entity predicates).IsWhole
  unfold Store.deletingWhere
  split
  · exact .attempt fun _ => .answer 0
  · -- The report comes after the statement, and nothing in it can fail.
    exact .attempt fun _ => .write fun _ _ _ _ => rfl

theorem delete_by_id_whole (identifier : Int) :
    (deleteById entity identifier).Whole fun backing =>
      Store.deleteById entity backing identifier :=
  delete_where_whole _

end Store

/-! ## Operations of resources -/

section Handles

def createOne (handle : Handle .create) (principal : Principal) (input : List (String × Json)) :
    Autocommit ResourceError Record :=
  ofSteps (handle.creating principal input)

def updateOne (handle : Handle .update) (principal : Principal) (identifier : Int)
    (patch : List (String × Json)) : Autocommit ResourceError Record :=
  ofSteps (handle.updating principal identifier patch)

def remove (handle : Handle .delete) (principal : Principal) (identifier : Int) :
    Autocommit ResourceError Bool :=
  ofSteps (handle.removing principal identifier)

def removeManyWhere (handle : Handle .delete) (principal : Principal) (request : FilterRequest)
    (extra : List Predicate) : Autocommit ResourceError Bool :=
  ofSteps (handle.removingManyWhere principal request extra)

theorem create_one_whole (handle : Handle .create) (principal : Principal)
    (input : List (String × Json)) :
    (createOne handle principal input).Whole fun backing =>
      handle.createOne principal backing input := by
  change (handle.creating principal input).IsWhole
  exact .attempt fun _ => .call (insert_whole input) fun _ _ _ _ => rfl

/-- An update of no record fails after its statement, which has changed nothing. -/
theorem update_one_whole (handle : Handle .update) (principal : Principal) (identifier : Int)
    (patch : List (String × Json)) :
    (updateOne handle principal identifier patch).Whole fun backing =>
      handle.updateOne principal backing identifier patch := by
  change (handle.updating principal identifier patch).IsWhole
  refine .attempt fun _ => .call (update_whole identifier patch) ?_
  intro backing found after done
  cases found with
  | some record => rfl
  | none =>
      apply Steps.closes_of_unchanged (.attempt fun _ => .answer _)
      obtain ⟨_, _, unchanged⟩ | ⟨_, _, ⟨_, impossible, _⟩ | ⟨_, _, _, impossible, _⟩⟩ :=
        Store.update_eq_done done
      · exact unchanged
      · cases impossible
      · cases impossible

theorem remove_whole (handle : Handle .delete) (principal : Principal) (identifier : Int) :
    (remove handle principal identifier).Whole fun backing =>
      handle.remove principal backing identifier := by
  change (handle.removing principal identifier).IsWhole
  exact .attempt fun _ => .call (delete_by_id_whole identifier) fun _ _ _ _ => rfl

theorem remove_many_where_whole (handle : Handle .delete) (principal : Principal)
    (request : FilterRequest) (extra : List Predicate) :
    (removeManyWhere handle principal request extra).Whole fun backing =>
      handle.removeManyWhere principal backing request extra := by
  change (handle.removingManyWhere principal request extra).IsWhole
  refine .attempt fun _ => .attempt fun predicates => ?_
  change Steps.IsWhole (if predicates.isEmpty then _ else _)
  split
  · exact .attempt fun _ => .answer false
  · exact .call (delete_where_whole (predicates ++ extra)) fun _ _ _ _ => rfl

end Handles

end Autocommit
end GatedResources
