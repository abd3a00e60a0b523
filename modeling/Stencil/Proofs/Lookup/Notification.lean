import Stencil.Lookup.Notify
import Stencil.Proofs.Lookup.Simulation

set_option autoImplicit false

/-!
Notifying handlers, whatever they do. The event that comes out is one for the same key and the same
end of the search, so only a search that misses something can be answered by nothing.
-/

namespace Stencil

namespace Event

/-- What no handler changes: the key and what the search came to. -/
def origin : Event → String × Reach
  | .found key value _ => (key, .found value)
  | .missing key member _ _ => (key, .missing member)

@[simp]
theorem origin_ofReach (key : String) (reach : Reach) :
    (ofReach key reach).origin = (key, reach) := by
  cases reach <;> rfl

@[simp]
theorem origin_withSubstitute (value : Value) (event : Event) :
    (event.withSubstitute value).origin = event.origin := by
  cases event <;> rfl

@[simp]
theorem origin_withHandled (flag : Bool) (event : Event) :
    (event.withHandled flag).origin = event.origin := by
  cases event <;> rfl

/-- Only a key that was missing is answered by nothing. -/
theorem exists_missing_of_outcome_eq_none {event : Event} {key : String} {reach : Reach}
    (same : event.origin = (key, reach)) (unanswered : event.outcome = none) :
    ∃ member, reach = .missing member := by
  cases event with
  | found _ value substitute => cases unanswered
  | missing _ member handled substitute =>
      cases same
      exact ⟨member, rfl⟩

end Event

namespace Run

variable {α β : Type}

/-- Every result of the run has the property, if there is one. -/
def Yields (property : α → Prop) (run : Run α) : Prop :=
  ∀ session value later, run.execute session = (.ok value, later) → property value

theorem yields_pure {property : α → Prop} {value : α} (holds : property value) :
    Yields property (pure value) := by
  rintro session _ later ⟨⟩
  exact holds

theorem yields_throw {property : α → Prop} (interrupt : Interrupt) :
    Yields property (throw interrupt) := by
  rintro session value later ⟨⟩

theorem Yields.bind {property : α → Prop} {property' : β → Prop} {run : Run α} {next : α → Run β}
    (first : Yields property run)
    (others : ∀ value, property value → Yields property' (next value)) :
    Yields property' (run >>= next) := by
  intro session value later executed
  rw [execute_bind] at executed
  rcases executedFirst : run.execute session with ⟨interrupt | middle, visited⟩
  · simp [executedFirst] at executed
  · rw [executedFirst] at executed
    exact others middle (first session middle visited executedFirst) visited value later executed

theorem yields_any (run : Run α) : Yields (fun _ => True) run := fun _ _ _ _ => trivial

end Run

namespace Lookup

variable {behaviour : Behaviour} {nested : Lookup}

theorem perform_yields_origin (reaction : Reaction) (event : Event) :
    (perform nested reaction event).Yields fun left => left.origin = event.origin := by
  induction reaction generalizing event with
  | done => exact Run.yields_pure rfl
  | substitute value next inductionHypothesis =>
      have := inductionHypothesis (event.withSubstitute value)
      rwa [Event.origin_withSubstitute] at this
  | handle flag next inductionHypothesis =>
      have := inductionHypothesis (event.withHandled flag)
      rwa [Event.origin_withHandled] at this
  | raise fault => exact Run.yields_throw _
  | lookup scope path next inductionHypothesis =>
      refine (Run.yields_any _).bind fun result _ => (Run.yields_any _).bind fun _ _ => ?_
      exact inductionHypothesis result event
  | edit family change next inductionHypothesis =>
      exact (Run.yields_any _).bind fun _ _ => inductionHypothesis event
  | log record next inductionHypothesis =>
      exact (Run.yields_any _).bind fun _ _ => inductionHypothesis event
  | remember next inductionHypothesis =>
      exact (Run.yields_any _).bind fun session _ => inductionHypothesis session.memory event
  | keep value next inductionHypothesis =>
      exact (Run.yields_any _).bind fun _ _ => inductionHypothesis event

theorem notify_yields_origin (handlers : List Handler) (event : Event) :
    (notify behaviour nested handlers event).Yields fun left => left.origin = event.origin := by
  induction handlers generalizing event with
  | nil => exact Run.yields_pure rfl
  | cons handler rest inductionHypothesis =>
      have called : (call behaviour nested event handler).Yields fun left =>
          left.origin = event.origin :=
        (Run.yields_any _).bind fun _ _ => perform_yields_origin _ event
      refine called.bind ?_
      intro left sameOrigin
      rw [← sameOrigin]
      exact inductionHypothesis left

theorem notify_append (first second : List Handler) (event : Event) :
    notify behaviour nested (first ++ second) event =
      notify behaviour nested first event >>= notify behaviour nested second := by
  induction first generalizing event with
  | nil => simp [notify]
  | cons handler rest inductionHypothesis => simp [notify, inductionHypothesis]

/-- The search of a lookup, with the event that it leads to. -/
theorem execute_through (scope : Scope) (path : String) (session : Session) :
    (through behaviour nested scope path).execute session =
      match scope.find path with
      | .error fault => (.error (.fault fault), session)
      | .ok reach =>
          (Event.outcome <$> notify behaviour nested
            ((session.lists scope.family).of (.ofReach path reach)) (.ofReach path reach)).execute
              session := by
  cases found : scope.find path with
  | error fault => simp only [through, found, Run.execute_bind, Run.execute_ofExcept]; rfl
  | ok reach =>
      simp only [← bind_pure_comp, through, found, Run.execute_bind, Run.execute_ofExcept]
      rfl

/-- A lookup that a render makes, with what is left for the lookups of its handlers. -/
theorem standard_eq (behaviour : Behaviour) :
    standard behaviour = through behaviour (bounded behaviour (nestingLimit - 1)) := rfl

/-- A lookup answers nothing only if its search misses a member. -/
theorem exists_missing_of_through_eq_none {scope : Scope} {path : String}
    {session later : Session}
    (executed : (through behaviour nested scope path).execute session = (.ok none, later)) :
    ∃ member, scope.find path = .ok (.missing member) := by
  rw [execute_through] at executed
  cases found : scope.find path with
  | error fault => simp [found] at executed
  | ok reach =>
      simp only [found, Run.execute_map] at executed
      rcases notified : (notify behaviour nested ((session.lists scope.family).of
        (.ofReach path reach)) (.ofReach path reach)).execute session with ⟨interrupt | left, after⟩
      · simp [notified, Except.map] at executed
      · simp only [notified, Except.map, Prod.mk.injEq, Except.ok.injEq] at executed
        have sameOrigin := notify_yields_origin _ _ session left after notified
        rw [Event.origin_ofReach] at sameOrigin
        obtain ⟨member, rfl⟩ := Event.exists_missing_of_outcome_eq_none sameOrigin executed.1
        exact ⟨member, rfl⟩

end Lookup
end Stencil
