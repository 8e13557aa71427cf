import GatedResources.Store.Table

/-!
# Steps of an operation

An operation puts statements to the database one after the other, with other steps between them,
and runs in no transaction. Its steps are written down once. Here they are run as a whole, which
answers what is left or fails without a word about it.
-/

namespace GatedResources

theorem Attempt.bind_assoc {ε α β γ : Type} (attempt : Attempt ε α) (next : α -> Attempt ε β)
    (last : β -> Attempt ε γ) :
    (attempt >>= next) >>= last = attempt >>= fun value => next value >>= last := by
  change (attempt.andThen next).andThen last =
    attempt.andThen fun value => (next value).andThen last
  unfold andThen
  cases attempt.outcome with
  | done value =>
      dsimp only
      cases (next value).outcome <;> simp [List.append_assoc]
  | failed error => rfl
  | crashed => rfl

/-- Steps that fail with errors of one type or answer values of another. -/
inductive Steps : Type -> Type -> Type 1 where
  | answer {ε α : Type} (value : α) : Steps ε α
  /-- Goes on from something that puts no statement. -/
  | attempt {ε α β : Type} (first : Attempt ε β) (next : β -> Steps ε α) : Steps ε α
  /-- Goes on from a statement that reads. -/
  | read {ε α β : Type} (ask : Backing -> Attempt ε β) (next : β -> Steps ε α) : Steps ε α
  /-- Goes on from a statement that writes. -/
  | write {ε α β : Type} (put : Backing -> Attempt ε (β × Backing)) (next : β -> Steps ε α) :
      Steps ε α
  /-- Goes on from other steps, whose errors are told in another way. -/
  | call {ε δ α β : Type} (steps : Steps δ β) (convert : δ -> Traced ε) (next : β -> Steps ε α) :
      Steps ε α

namespace Steps

variable {ε δ α β : Type}

def doing (first : Attempt ε α) : Steps ε α :=
  .attempt first .answer

def reading (ask : Backing -> Attempt ε α) : Steps ε α :=
  .read ask .answer

def writing (put : Backing -> Attempt ε (α × Backing)) : Steps ε α :=
  .write put .answer

def calling (steps : Steps δ α) (convert : δ -> Traced ε) : Steps ε α :=
  .call steps convert .answer

def andThen : Steps ε α -> (α -> Steps ε β) -> Steps ε β
  | .answer value, next => next value
  | .attempt first rest, next => .attempt first fun value => (rest value).andThen next
  | .read ask rest, next => .read ask fun value => (rest value).andThen next
  | .write put rest, next => .write put fun value => (rest value).andThen next
  | .call steps convert rest, next => .call steps convert fun value => (rest value).andThen next

instance : Monad (Steps ε) where
  pure := .answer
  bind := andThen

/-- Runs steps as a whole. What a statement has left is lost when a later step fails. -/
def run : {ε α : Type} -> Steps ε α -> Backing -> Attempt ε (α × Backing)
  | _, _, .answer value, backing => pure (value, backing)
  | _, _, .attempt first next, backing => first >>= fun value => (next value).run backing
  | _, _, .read ask next, backing => ask backing >>= fun value => (next value).run backing
  | _, _, .write put next, backing => put backing >>= fun written => (next written.1).run written.2
  | _, _, .call steps convert next, backing =>
      (steps.run backing).convertError convert >>= fun called => (next called.1).run called.2

variable (backing : Backing)

@[simp] theorem run_answer (value : α) :
    (pure value : Steps ε α).run backing = pure (value, backing) :=
  rfl

@[simp] theorem run_doing (first : Attempt ε α) (next : α -> Steps ε β) :
    (doing first >>= next).run backing = first >>= fun value => (next value).run backing :=
  rfl

@[simp] theorem run_reading (ask : Backing -> Attempt ε α) (next : α -> Steps ε β) :
    (reading ask >>= next).run backing = ask backing >>= fun value => (next value).run backing :=
  rfl

@[simp] theorem run_writing (put : Backing -> Attempt ε (α × Backing)) (next : α -> Steps ε β) :
    (writing put >>= next).run backing =
      put backing >>= fun written => (next written.1).run written.2 :=
  rfl

@[simp] theorem run_calling (steps : Steps δ α) (convert : δ -> Traced ε) (next : α -> Steps ε β) :
    (calling steps convert >>= next).run backing =
      (steps.run backing).convertError convert >>= fun called => (next called.1).run called.2 :=
  rfl

@[simp] theorem outcome_writing (put : Backing -> Attempt ε (α × Backing)) :
    ((writing put).run backing).outcome = (put backing).outcome := by
  change ((put backing).andThen fun written => pure written).outcome = _
  unfold Attempt.andThen
  cases (put backing).outcome <;> rfl

/-- Steps that go on with other steps run one after the other. -/
theorem run_bind (steps : Steps ε α) (next : α -> Steps ε β) (backing : Backing) :
    (steps >>= next).run backing =
      steps.run backing >>= fun left => (next left.1).run left.2 := by
  change (steps.andThen next).run backing = _
  induction steps generalizing backing with
  | answer value => rfl
  | attempt first rest claim =>
      rw [run, Attempt.bind_assoc]
      apply congrArg (first >>= ·)
      funext value
      exact claim value next backing
  | read ask rest claim =>
      rw [run, Attempt.bind_assoc]
      apply congrArg (ask backing >>= ·)
      funext value
      exact claim value next backing
  | write put rest claim =>
      rw [run, Attempt.bind_assoc]
      apply congrArg (put backing >>= ·)
      funext written
      exact claim written.1 next written.2
  | call steps convert rest _ claim =>
      rw [run, Attempt.bind_assoc]
      apply congrArg (_ >>= ·)
      funext called
      exact claim called.1 next called.2

end Steps
end GatedResources
