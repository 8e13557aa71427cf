import GatedResources.Trace
import Mathlib.Data.List.Forall2

/-!
# Outcomes without events

What an operation reports while it runs never decides how it ends. The lemmas below take the
outcome of a composed operation apart into the outcomes of its steps and leave the events out,
so that later modules reason about outcomes alone.
-/

namespace GatedResources

theorem except_bind_eq_ok {ε α β : Type} {first : Except ε α} {next : α -> Except ε β}
    {value : β} :
    (first >>= next) = .ok value ↔ ∃ middle, first = .ok middle ∧ next middle = .ok value := by
  cases first with
  | ok middle =>
      constructor
      · intro same
        exact ⟨middle, rfl, same⟩
      · rintro ⟨_, same, rest⟩
        cases same
        exact rest
  | error error =>
      constructor
      · intro same
        cases same
      · rintro ⟨_, same, _⟩
        cases same

theorem except_map_eq_ok {ε α β : Type} {first : Except ε α} {change : α -> β} {value : β}
    (made : first.map change = .ok value) :
    ∃ middle, first = .ok middle ∧ change middle = value := by
  cases first with
  | ok middle => exact ⟨middle, rfl, Except.ok.inj made⟩
  | error error => cases made

theorem except_map_mem {ε α β : Type} {change : α -> Except ε β} {values : List α}
    {results : List β} (all : values.mapM change = .ok results) {value : α}
    (member : value ∈ values) : ∃ result ∈ results, change value = .ok result := by
  induction values generalizing results with
  | nil => cases member
  | cons first rest claim =>
      rw [List.mapM_cons] at all
      obtain ⟨own, changed, all⟩ := except_bind_eq_ok.mp all
      obtain ⟨others, mapped, finished⟩ := except_bind_eq_ok.mp all
      cases finished
      rcases List.mem_cons.mp member with same | later
      · subst same
        exact ⟨own, List.mem_cons_self, changed⟩
      · obtain ⟨result, inside, made⟩ := claim mapped later
        exact ⟨result, List.mem_cons_of_mem _ inside, made⟩

/-- Values that are changed one by one stand in the order of what they were. -/
theorem except_map_related {ε α β : Type} {change : α -> Except ε β} {values : List α}
    {results : List β} (all : values.mapM change = .ok results) :
    List.Forall₂ (fun value result => change value = .ok result) values results := by
  induction values generalizing results with
  | nil =>
      cases all
      exact .nil
  | cons first rest claim =>
      rw [List.mapM_cons] at all
      obtain ⟨own, changed, all⟩ := except_bind_eq_ok.mp all
      obtain ⟨others, mapped, finished⟩ := except_bind_eq_ok.mp all
      cases finished
      exact .cons changed (claim mapped)

theorem except_map_ok {ε α β : Type} {change : α -> Except ε β} {values : List α}
    (all : ∀ value ∈ values, ∃ result, change value = .ok result) :
    ∃ results, values.mapM change = .ok results := by
  induction values with
  | nil => exact ⟨[], rfl⟩
  | cons first rest claim =>
      obtain ⟨own, changed⟩ := all first List.mem_cons_self
      obtain ⟨others, mapped⟩ := claim fun value member => all value (List.mem_cons_of_mem _ member)
      refine ⟨own :: others, ?_⟩
      rw [List.mapM_cons, changed, mapped]
      rfl

theorem except_bind_eq_error {ε α β : Type} {first : Except ε α} {next : α -> Except ε β}
    {error : ε} :
    (first >>= next) = .error error ↔
      first = .error error ∨ ∃ middle, first = .ok middle ∧ next middle = .error error := by
  cases first with
  | ok middle =>
      constructor
      · intro failed
        exact .inr ⟨middle, rfl, failed⟩
      · rintro (impossible | ⟨_, same, failed⟩)
        · cases impossible
        · cases same
          exact failed
  | error own =>
      constructor
      · intro same
        cases same
        exact .inl rfl
      · rintro (same | ⟨_, impossible, _⟩)
        · cases same
          rfl
        · cases impossible

theorem except_map_error {ε α β : Type} {change : α -> Except ε β} {values : List α} {error : ε}
    (failed : values.mapM change = .error error) :
    ∃ value ∈ values, change value = .error error := by
  induction values with
  | nil => cases failed
  | cons first rest claim =>
      rw [List.mapM_cons] at failed
      rcases except_bind_eq_error.mp failed with own | ⟨_, _, later⟩
      · exact ⟨first, List.mem_cons_self, own⟩
      · rcases except_bind_eq_error.mp later with among | ⟨_, _, impossible⟩
        · obtain ⟨value, inside, own⟩ := claim among
          exact ⟨value, List.mem_cons_of_mem _ inside, own⟩
        · cases impossible

namespace Outcome

variable {ε δ α β : Type}

def mapError (convert : ε -> δ) : Outcome ε α -> Outcome δ α
  | .done value => .done value
  | .failed error => .failed (convert error)
  | .crashed => .crashed

def recover (answer : ε -> α) : Outcome ε α -> Outcome Empty α
  | .done value => .done value
  | .failed error => .done (answer error)
  | .crashed => .crashed

@[simp] theorem pure_eq_done (value : α) : (pure value : Outcome ε α) = .done value := rfl

@[simp] theorem done_bind (value : α) (next : α -> Outcome ε β) :
    (Outcome.done value >>= next) = next value := rfl

@[simp] theorem failed_bind (error : ε) (next : α -> Outcome ε β) :
    (Outcome.failed error >>= next) = .failed error := rfl

@[simp] theorem crashed_bind (next : α -> Outcome ε β) :
    ((Outcome.crashed : Outcome ε α) >>= next) = .crashed := rfl

@[simp] theorem bind_done (outcome : Outcome ε α) : (outcome >>= .done) = outcome := by
  cases outcome <;> rfl

@[simp] theorem map_error_done (convert : ε -> δ) (value : α) :
    (Outcome.done value).mapError convert = .done value := rfl

@[simp] theorem map_error_failed (convert : ε -> δ) (error : ε) :
    (Outcome.failed error : Outcome ε α).mapError convert = .failed (convert error) := rfl

@[simp] theorem map_error_crashed (convert : ε -> δ) :
    (Outcome.crashed : Outcome ε α).mapError convert = .crashed := rfl

@[simp] theorem recover_done (answer : ε -> α) (value : α) :
    (Outcome.done value).recover answer = .done value := rfl

@[simp] theorem recover_failed (answer : ε -> α) (error : ε) :
    (Outcome.failed error).recover answer = .done (answer error) := rfl

@[simp] theorem recover_crashed (answer : ε -> α) :
    (Outcome.crashed : Outcome ε α).recover answer = .crashed := rfl

@[simp] theorem of_except_ok (value : α) :
    (ofExcept (.ok value) : Outcome ε α) = .done value := rfl

@[simp] theorem of_except_error (error : ε) :
    (ofExcept (.error error) : Outcome ε α) = .failed error := rfl

theorem bind_eq_done {first : Outcome ε α} {next : α -> Outcome ε β} {value : β} :
    (first >>= next) = .done value ↔
      ∃ middle, first = .done middle ∧ next middle = .done value := by
  cases first with
  | done middle => simp
  | failed error => simp
  | crashed => simp

theorem bind_eq_failed {first : Outcome ε α} {next : α -> Outcome ε β} {error : ε} :
    (first >>= next) = .failed error ↔
      first = .failed error ∨ ∃ middle, first = .done middle ∧ next middle = .failed error := by
  cases first with
  | done middle => simp
  | failed own => simp
  | crashed => simp

theorem bind_eq_crashed {first : Outcome ε α} {next : α -> Outcome ε β} :
    (first >>= next) = .crashed ↔
      first = .crashed ∨ ∃ middle, first = .done middle ∧ next middle = .crashed := by
  cases first with
  | done middle => simp
  | failed own => simp
  | crashed => simp

@[simp] theorem map_error_eq_crashed {convert : ε -> δ} {outcome : Outcome ε α} :
    outcome.mapError convert = .crashed ↔ outcome = .crashed := by
  cases outcome <;> simp

theorem map_error_eq_failed {convert : ε -> δ} {outcome : Outcome ε α} {error : δ} :
    outcome.mapError convert = .failed error ↔
      ∃ own, outcome = .failed own ∧ error = convert own := by
  cases outcome <;> simp [eq_comm]

@[simp] theorem map_error_eq_done {convert : ε -> δ} {outcome : Outcome ε α} {value : α} :
    outcome.mapError convert = .done value ↔ outcome = .done value := by
  cases outcome <;> simp

theorem map_eq_done {change : α -> β} {outcome : Outcome ε α} {result : β} :
    outcome.map change = .done result ↔ ∃ value, outcome = .done value ∧ change value = result := by
  cases outcome <;> simp [map]

theorem of_except_eq_done {result : Except ε α} {value : α} :
    ofExcept result = .done value ↔ result = .ok value := by
  cases result <;> simp

theorem of_except_not_crashed (result : Except ε α) : ofExcept result ≠ .crashed := by
  cases result <;> exact nofun

end Outcome

namespace Traced

variable {α β : Type}

@[simp] theorem value_pure (value : α) : (pure value : Traced α).value = value := rfl

@[simp] theorem value_bind (first : Traced α) (next : α -> Traced β) :
    (first >>= next).value = (next first.value).value := rfl

@[simp] theorem value_quiet (value : α) : (quiet value).value = value := rfl

end Traced

namespace Attempt

variable {ε δ α β : Type}

@[simp] theorem outcome_pure (value : α) : (pure value : Attempt ε α).outcome = .done value := rfl

@[simp] theorem outcome_succeed (value : α) :
    (succeed value : Attempt ε α).outcome = .done value := rfl

@[simp] theorem outcome_fail (error : ε) :
    (fail error : Attempt ε α).outcome = .failed error := rfl

@[simp] theorem outcome_of_outcome (outcome : Outcome ε α) :
    (ofOutcome outcome).outcome = outcome := rfl

@[simp] theorem outcome_of_except (result : Except ε α) :
    (ofExcept result).outcome = .ofExcept result := rfl

@[simp] theorem outcome_of_traced (traced : Traced α) :
    (ofTraced traced : Attempt ε α).outcome = .done traced.value := rfl

@[simp] theorem outcome_report (level : Level) (message : String)
    (fields : List (String × String)) :
    (report level message fields : Attempt ε Unit).outcome = .done () := rfl

@[simp] theorem outcome_bind (first : Attempt ε α) (next : α -> Attempt ε β) :
    (first >>= next).outcome = first.outcome >>= fun value => (next value).outcome := by
  show (first.andThen next).outcome = _
  unfold andThen
  cases first.outcome <;> rfl

@[simp] theorem outcome_convert_error (convert : ε -> Traced δ) (attempt : Attempt ε α) :
    (attempt.convertError convert).outcome =
      attempt.outcome.mapError fun error => (convert error).value := by
  unfold convertError
  cases attempt.outcome <;> rfl

@[simp] theorem outcome_settle (answer : ε -> Traced α) (attempt : Attempt ε α) :
    (attempt.settle answer).outcome =
      attempt.outcome.recover fun error => (answer error).value := by
  unfold settle
  cases attempt.outcome <;> rfl

end Attempt
end GatedResources
