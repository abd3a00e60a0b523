import Stencil.Proofs.Lookup.Notification

set_option autoImplicit false

/-!
The bound on nested lookups matters only where it is reached. A lookup that comes to an end within
one bound comes to the same end within every greater one.
-/

namespace Stencil

namespace Run

variable {α β : Type} {run run' : Run α} {next next' : α → Run β}

/-- Where the first run does not end for want of room, the second one does the same. -/
def Extends (run run' : Run α) : Prop :=
  ∀ session, (run.execute session).1 ≠ .error .exhausted →
    run'.execute session = run.execute session

theorem extends_self (run : Run α) : Extends run run := fun _ _ => rfl

theorem Extends.bind (first : Extends run run')
    (others : ∀ value, Extends (next value) (next' value)) :
    Extends (run >>= next) (run' >>= next') := by
  intro session ended
  have same := first session
  rw [execute_bind] at ended ⊢
  rw [execute_bind]
  rcases executed : run.execute session with ⟨interrupt | value, later⟩
  · rw [executed] at ended same
    rw [same (by
      rintro ⟨⟩
      exact ended rfl)]
  · rw [executed] at ended same
    rw [same (by simp)]
    exact others value later ended

theorem Extends.attempt (extended : Extends run run') : Extends run.attempt run'.attempt := by
  intro session ended
  have endedToo : (run.execute session).1 ≠ .error .exhausted := by
    rcases attempt_outcome run session with
      ⟨result, later, _, executed⟩ | ⟨interrupt, later, _, attempted, executed⟩
    · rw [executed]
      cases result <;> simp [Except.mapError]
    · rw [attempted] at ended
      rw [executed]
      simpa using ended
  rw [execute_attempt, execute_attempt, extended session endedToo]

end Run

namespace Lookup

variable {behaviour : Behaviour} {nested nested' : Lookup}

theorem perform_extends
    (wider : ∀ scope path, Run.Extends (nested scope path) (nested' scope path))
    (reaction : Reaction) (event : Event) :
    Run.Extends (perform nested reaction event) (perform nested' reaction event) := by
  induction reaction generalizing event with
  | done => exact Run.extends_self _
  | substitute value next inductionHypothesis => exact inductionHypothesis _
  | handle flag next inductionHypothesis => exact inductionHypothesis _
  | raise fault => exact Run.extends_self _
  | lookup scope path next inductionHypothesis =>
      apply (wider scope path).attempt.bind
      intro result
      exact (Run.extends_self _).bind fun _ => inductionHypothesis result event
  | edit family change next inductionHypothesis =>
      exact (Run.extends_self _).bind fun _ => inductionHypothesis event
  | log record next inductionHypothesis =>
      exact (Run.extends_self _).bind fun _ => inductionHypothesis event
  | remember next inductionHypothesis =>
      exact (Run.extends_self _).bind fun session => inductionHypothesis session.memory event
  | keep value next inductionHypothesis =>
      exact (Run.extends_self _).bind fun _ => inductionHypothesis event

theorem notify_extends
    (wider : ∀ scope path, Run.Extends (nested scope path) (nested' scope path))
    (handlers : List Handler) (event : Event) :
    Run.Extends (notify behaviour nested handlers event)
      (notify behaviour nested' handlers event) := by
  induction handlers generalizing event with
  | nil => exact Run.extends_self _
  | cons handler rest inductionHypothesis =>
      have called : Run.Extends (call behaviour nested event handler)
          (call behaviour nested' event handler) :=
        (Run.extends_self _).bind fun _ => perform_extends wider _ event
      exact called.bind inductionHypothesis

theorem through_extends
    (wider : ∀ scope path, Run.Extends (nested scope path) (nested' scope path))
    (scope : Scope) (path : String) :
    Run.Extends (through behaviour nested scope path) (through behaviour nested' scope path) := by
  apply (Run.extends_self (Run.ofExcept (scope.find path))).bind
  intro reach session
  exact (notify_extends wider _ _).bind (fun _ => Run.extends_self _) session

theorem bounded_extends_succ (bound : Nat) (scope : Scope) (path : String) :
    Run.Extends (bounded behaviour bound scope path) (bounded behaviour (bound + 1) scope path) := by
  induction bound generalizing scope path with
  | zero =>
      intro session ended
      exact absurd rfl ended
  | succ bound inductionHypothesis => exact through_extends inductionHypothesis scope path

/-- More room for nested lookups changes nothing where there was enough. -/
theorem bounded_extends {bound wider : Nat} (le : bound ≤ wider) (scope : Scope) (path : String) :
    Run.Extends (bounded behaviour bound scope path) (bounded behaviour wider scope path) := by
  induction le with
  | refl => exact Run.extends_self _
  | step _ inductionHypothesis =>
      intro session ended
      have same := inductionHypothesis session ended
      rw [bounded_extends_succ _ scope path session (by rwa [same]), same]

end Lookup
end Stencil
