import Stencil.Proofs.Lookup.Addition

set_option autoImplicit false

/-!
What handlers are called for. If they look no key up themselves, then all that a lookup calls them
for is its own key, whatever they do to the event and to the lists and whatever they keep.
-/

namespace Stencil

/-- No step looks up a key. -/
def Reaction.AsksNothing : Reaction → Prop
  | done | raise _ => True
  | substitute _ next | handle _ next | edit _ _ next | log _ next | keep _ next =>
      next.AsksNothing
  | remember next => ∀ kept, (next kept).AsksNothing
  | lookup .. => False

def Behaviour.AsksNothing (behaviour : Behaviour) : Prop :=
  ∀ name event, (behaviour name event).AsksNothing

variable {behaviour : Behaviour}

theorem Handler.reaction_asksNothing (asksNothing : behaviour.AsksNothing) (handler : Handler)
    (event : Event) : (handler.reaction behaviour event).AsksNothing := by
  cases handler with
  | named name => exact asksNothing name event
  | strict =>
      rw [Handler.reaction]
      unfold Handler.strictReaction
      split <;> trivial
  | report id => trivial
  | logging missingLevel => cases event <;> trivial

/-- The entry tells of a handler called for the key, or of a record kept. -/
def Entry.IsFor (key : String) : Entry → Prop
  | called _ event => event.key = key
  | logged _ => True
  | answered .. | wrote _ | cleared _ => False

theorem Event.key_eq_of_origin {event left : Event} (same : left.origin = event.origin) :
    left.key = event.key := by
  have key_eq (other : Event) : other.key = other.origin.1 := by cases other <;> rfl
  rw [key_eq, key_eq, same]

theorem Event.key_ofReach (key : String) (reach : Reach) : (ofReach key reach).key = key := by
  cases reach <;> rfl

namespace Lookup

variable {nested : Lookup} {key : String}

theorem perform_addsFor {reaction : Reaction} (asksNothing : reaction.AsksNothing)
    (event : Event) : Run.Adds (Entry.IsFor key) (perform nested reaction event) := by
  induction reaction generalizing event with
  | done => exact Run.adds_pure event
  | substitute value next inductionHypothesis => exact inductionHypothesis asksNothing _
  | handle flag next inductionHypothesis => exact inductionHypothesis asksNothing _
  | raise fault => exact Run.adds_throw _
  | lookup => exact asksNothing.elim
  | edit family change next inductionHypothesis =>
      have edited : Run.Adds (Entry.IsFor key)
          (modify fun session => session.changeHandlers family change) :=
        Run.adds_of_same_newest fun _ => rfl
      exact edited.bind fun _ => inductionHypothesis asksNothing event
  | log record next inductionHypothesis =>
      have noted : Run.Adds (Entry.IsFor key) (Run.record (.logged record)) :=
        Run.adds_record trivial
      exact noted.bind fun _ => inductionHypothesis asksNothing event
  | remember next inductionHypothesis =>
      exact Run.adds_get fun session =>
        inductionHypothesis session.memory (asksNothing session.memory) event
  | keep value next inductionHypothesis =>
      have kept : Run.Adds (Entry.IsFor key) (modify fun session => session.keeping value) :=
        Run.adds_of_same_newest fun _ => rfl
      exact kept.bind fun _ => inductionHypothesis asksNothing event

theorem notify_addsFor (asksNothing : behaviour.AsksNothing) (handlers : List Handler)
    {event : Event} (isFor : event.key = key) :
    Run.Adds (Entry.IsFor key) (notify behaviour nested handlers event) := by
  induction handlers generalizing event with
  | nil => exact Run.adds_pure event
  | cons handler rest inductionHypothesis =>
      have noted : Run.Adds (Entry.IsFor key) (Run.record (.called handler event)) :=
        Run.adds_record isFor
      have called : Run.Adds (Entry.IsFor key) (call behaviour nested event handler) :=
        noted.bind fun _ => perform_addsFor (handler.reaction_asksNothing asksNothing event) event
      -- The event that is handed on is for the same key.
      have kept : (call behaviour nested event handler).Yields fun left => left.key = key :=
        (Run.yields_any _).bind fun _ _ session left later executed =>
          (Event.key_eq_of_origin
            (perform_yields_origin _ event session left later executed)).trans isFor
      exact called.bind_of_yields kept fun left => inductionHypothesis

theorem standard_addsFor (asksNothing : behaviour.AsksNothing) (scope : Scope) (path : String) :
    Run.Adds (Entry.IsFor path) (standard behaviour scope path) := by
  rw [standard_eq]
  apply (Run.adds_ofExcept (scope.find path)).bind
  intro reach
  apply Run.adds_get
  intro session
  exact (notify_addsFor asksNothing _ (Event.key_ofReach path reach)).bind fun _ => Run.adds_pure _

end Lookup
end Stencil
