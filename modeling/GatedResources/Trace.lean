/-!
# Results with events

Every operation of the library is a function of its arguments. What an operation reports
while it runs is part of its result, a list of events in the order they happened.
-/

namespace GatedResources

inductive Level where
  | debug
  | info
  | warn
  | error
deriving DecidableEq, Repr

structure Event where
  level : Level
  message : String
  fields : List (String × String)
deriving DecidableEq, Repr

structure Traced (α : Type) where
  value : α
  events : List Event

namespace Traced

variable {α β : Type}

def quiet (value : α) : Traced α :=
  ⟨value, []⟩

def report (level : Level) (message : String) (fields : List (String × String)) : Traced Unit :=
  ⟨(), [⟨level, message, fields⟩]⟩

/-- Continues with the value; the events follow each other. -/
def andThen (first : Traced α) (next : α -> Traced β) : Traced β :=
  let second := next first.value
  ⟨second.value, first.events ++ second.events⟩

instance : Monad Traced where
  pure := quiet
  bind := andThen

end Traced

/-- How an operation ends. A crash is the end of the operation without an answer of its
own; it happens where a statement cannot even be put to the store. -/
inductive Outcome (ε α : Type) where
  | done (value : α)
  | failed (error : ε)
  | crashed
deriving DecidableEq, Repr

namespace Outcome

variable {ε δ α β : Type}

def ofExcept : Except ε α -> Outcome ε α
  | .ok value => .done value
  | .error error => .failed error

def map (change : α -> β) : Outcome ε α -> Outcome ε β
  | .done value => .done (change value)
  | .failed error => .failed error
  | .crashed => .crashed

def andThen (first : Outcome ε α) (next : α -> Outcome ε β) : Outcome ε β :=
  match first with
  | .done value => next value
  | .failed error => .failed error
  | .crashed => .crashed

instance : Monad (Outcome ε) where
  pure := .done
  bind := andThen

end Outcome

structure Attempt (ε α : Type) where
  outcome : Outcome ε α
  events : List Event

namespace Attempt

variable {ε δ α β : Type}

def succeed (value : α) : Attempt ε α :=
  ⟨.done value, []⟩

def fail (error : ε) : Attempt ε α :=
  ⟨.failed error, []⟩

def ofOutcome (outcome : Outcome ε α) : Attempt ε α :=
  ⟨outcome, []⟩

def ofExcept (result : Except ε α) : Attempt ε α :=
  ⟨.ofExcept result, []⟩

def ofTraced (traced : Traced α) : Attempt ε α :=
  ⟨.done traced.value, traced.events⟩

def report (level : Level) (message : String) (fields : List (String × String)) : Attempt ε Unit :=
  ofTraced (Traced.report level message fields)

def andThen (first : Attempt ε α) (next : α -> Attempt ε β) : Attempt ε β :=
  match first.outcome with
  | .done value =>
      let second := next value
      ⟨second.outcome, first.events ++ second.events⟩
  | .failed error => ⟨.failed error, first.events⟩
  | .crashed => ⟨.crashed, first.events⟩

instance : Monad (Attempt ε) where
  pure := succeed
  bind := andThen

def convertError (convert : ε -> Traced δ) (attempt : Attempt ε α) : Attempt δ α :=
  match attempt.outcome with
  | .done value => ⟨.done value, attempt.events⟩
  | .failed error =>
      let converted := convert error
      ⟨.failed converted.value, attempt.events ++ converted.events⟩
  | .crashed => ⟨.crashed, attempt.events⟩

def settle (answer : ε -> Traced α) (attempt : Attempt ε α) : Attempt Empty α :=
  match attempt.outcome with
  | .done value => ⟨.done value, attempt.events⟩
  | .failed error =>
      let answered := answer error
      ⟨.done answered.value, attempt.events ++ answered.events⟩
  | .crashed => ⟨.crashed, attempt.events⟩

end Attempt
end GatedResources
