import Stencil.Lookup.Notify
import Stencil.Proofs.Lookup.Matching

set_option autoImplicit false

/-!
Handlers that keep to a circle: they look up keys and change lists only in families of the circle,
where none but handlers of the circle are ever listed. Two lookups in different families, with the
same data and the same handlers of the circle, do the same in all sessions that a circle cannot tell
apart.
-/

namespace Stencil

/-- Handlers, and the families of scopes in which they may act. -/
structure Circle where
  families : Nat → Prop
  handlers : Handler → Prop

namespace Circle

variable {circle : Circle} {lists : HandlerLists}

def everyone : Circle := ⟨fun _ => True, fun _ => True⟩

def Holds (circle : Circle) (lists : HandlerLists) : Prop :=
  (∀ handler ∈ lists.found, circle.handlers handler) ∧
    ∀ handler ∈ lists.missing, circle.handlers handler

def Allows (circle : Circle) : HandlerChange → Prop
  | .addFound handler | .addMissing handler => circle.handlers handler
  | .removeFound _ | .removeMissing _ => True

theorem everyone_holds (lists : HandlerLists) : everyone.Holds lists :=
  ⟨fun _ _ => trivial, fun _ _ => trivial⟩

theorem everyone_allows (change : HandlerChange) : everyone.Allows change := by
  cases change <;> trivial

theorem Holds.of (holds : circle.Holds lists) (event : Event) :
    ∀ handler ∈ lists.of event, circle.handlers handler := by
  cases event with
  | found key value substitute => exact holds.1
  | missing key member handled substitute => exact holds.2

theorem Holds.change (holds : circle.Holds lists) {change : HandlerChange}
    (allowed : circle.Allows change) : circle.Holds (lists.change change) := by
  have ⟨found, missing⟩ := holds
  cases change with
  | addFound handler =>
      exact ⟨List.forall_mem_append.mpr ⟨found, List.forall_mem_singleton.mpr allowed⟩, missing⟩
  | addMissing handler =>
      exact ⟨found, List.forall_mem_append.mpr ⟨missing, List.forall_mem_singleton.mpr allowed⟩⟩
  | removeFound handler =>
      exact ⟨fun other member => found other (List.mem_of_mem_erase member), missing⟩
  | removeMissing handler =>
      exact ⟨found, fun other member => missing other (List.mem_of_mem_erase member)⟩

end Circle

/-- All keys are looked up, and all lists changed, within the circle. -/
def Reaction.KeepsTo (circle : Circle) : Reaction → Prop
  | done | raise _ => True
  | substitute _ next | handle _ next | log _ next | keep _ next => next.KeepsTo circle
  | lookup scope _ next => circle.families scope.family ∧ ∀ result, (next result).KeepsTo circle
  | edit family change next =>
      circle.families family ∧ circle.Allows change ∧ next.KeepsTo circle
  | remember next => ∀ kept, (next kept).KeepsTo circle

/-- The handlers of the circle keep to it, whatever event they are given. -/
def Circle.IsClosed (circle : Circle) (behaviour : Behaviour) : Prop :=
  ∀ handler, circle.handlers handler → ∀ event, (handler.reaction behaviour event).KeepsTo circle

theorem Reaction.keepsTo_everyone (reaction : Reaction) : reaction.KeepsTo .everyone := by
  induction reaction with
  | done | raise fault => trivial
  | substitute value next inductionHypothesis | handle flag next inductionHypothesis
  | log record next inductionHypothesis | remember next inductionHypothesis
  | keep value next inductionHypothesis => exact inductionHypothesis
  | lookup scope path next inductionHypothesis => exact ⟨trivial, inductionHypothesis⟩
  | edit family change next inductionHypothesis =>
      exact ⟨trivial, Circle.everyone_allows change, inductionHypothesis⟩

theorem Circle.everyone_isClosed (behaviour : Behaviour) : everyone.IsClosed behaviour :=
  fun handler _ event => (handler.reaction behaviour event).keepsTo_everyone

/-- Sessions that no handler of the circle can tell apart. Some families stand for each other, those
of the circle for themselves, and such families have the same handlers, all of the circle. What
handlers have kept is the same. -/
structure Circle.Respects (circle : Circle) (pairs : Nat → Nat → Prop)
    (related : Session → Session → Prop) : Prop where
  inner : ∀ family, circle.families family → pairs family family
  lists : ∀ session session', related session session' → ∀ family family', pairs family family' →
    session'.lists family' = session.lists family ∧ circle.Holds (session.lists family)
  record : ∀ entry, Run.Matches related Eq (Run.record entry) (Run.record entry)
  edit : ∀ session session', related session session' → ∀ family change, circle.families family →
    circle.Allows change →
    related (session.changeHandlers family change) (session'.changeHandlers family change)
  memory : ∀ session session', related session session' → session'.memory = session.memory
  keep : ∀ value session session', related session session' →
    related (session.keeping value) (session'.keeping value)

namespace Lookup

variable {behaviour : Behaviour} {nested nested' : Lookup} {circle : Circle}
  {pairs : Nat → Nat → Prop} {related : Session → Session → Prop}

theorem perform_matches_within (respected : circle.Respects pairs related)
    (others : ∀ scope path, circle.families scope.family →
      Run.Matches related Eq (nested scope path) (nested' scope path))
    {reaction : Reaction} (keeps : reaction.KeepsTo circle) (event : Event) :
    Run.Matches related Eq (perform nested reaction event) (perform nested' reaction event) := by
  induction reaction generalizing event with
  | done => exact Run.matches_pure rfl
  | substitute value next inductionHypothesis => exact inductionHypothesis keeps _
  | handle flag next inductionHypothesis => exact inductionHypothesis keeps _
  | raise fault => exact Run.matches_throw _
  | lookup scope path next inductionHypothesis =>
      apply (others scope path keeps.1).attempt.bind
      intro result result' agree
      rw [← agree.eq]
      exact (respected.record _).bind fun _ _ _ => inductionHypothesis result (keeps.2 result) event
  | edit family change next inductionHypothesis =>
      have ⟨inner, allowed, rest⟩ := keeps
      have edited : Run.Matches related Eq
          (modify fun session => session.changeHandlers family change : Run Unit)
          (modify fun session => session.changeHandlers family change) :=
        fun session session' holds =>
          ⟨.ok rfl, respected.edit session session' holds family change inner allowed⟩
      exact edited.bind fun _ _ _ => inductionHypothesis rest event
  | log record next inductionHypothesis =>
      exact (respected.record _).bind fun _ _ _ => inductionHypothesis keeps event
  | remember next inductionHypothesis =>
      apply Run.matches_get
      intro session session' holds
      rw [respected.memory session session' holds]
      exact inductionHypothesis session.memory (keeps session.memory) event
  | keep value next inductionHypothesis =>
      have kept : Run.Matches related Eq
          (modify fun session => session.keeping value : Run Unit)
          (modify fun session => session.keeping value) :=
        fun session session' holds => ⟨.ok rfl, respected.keep value session session' holds⟩
      exact kept.bind fun _ _ _ => inductionHypothesis keeps event

theorem notify_matches_within (closed : circle.IsClosed behaviour)
    (respected : circle.Respects pairs related)
    (others : ∀ scope path, circle.families scope.family →
      Run.Matches related Eq (nested scope path) (nested' scope path))
    {handlers : List Handler} (inside : ∀ handler ∈ handlers, circle.handlers handler)
    (event : Event) :
    Run.Matches related Eq (notify behaviour nested handlers event)
      (notify behaviour nested' handlers event) := by
  induction handlers generalizing event with
  | nil => exact Run.matches_pure rfl
  | cons handler rest inductionHypothesis =>
      have ⟨first, later⟩ := List.forall_mem_cons.mp inside
      have called : Run.Matches related Eq (call behaviour nested event handler)
          (call behaviour nested' event handler) :=
        (respected.record _).bind fun _ _ _ =>
          perform_matches_within respected others (closed handler first event) event
      apply called.bind
      rintro left _ rfl
      exact inductionHypothesis later left

/-- A lookup does the same in a family that stands for its own. -/
theorem bounded_matches_within (closed : circle.IsClosed behaviour)
    (respected : circle.Respects pairs related) (bound : Nat) {scope : Scope} {family : Nat}
    (paired : pairs scope.family family) (path : String) :
    Run.Matches related Eq (bounded behaviour bound scope path)
      (bounded behaviour bound { scope with family } path) := by
  induction bound generalizing scope family path with
  | zero => exact Run.matches_throw _
  | succ bound inductionHypothesis =>
      -- The search does not depend on the family.
      apply (Run.matches_ofExcept (Agree.of_eq (rfl : scope.find path = _))).bind
      rintro reach _ rfl
      apply Run.matches_get
      intro session session' holds
      have ⟨sameLists, inside⟩ := respected.lists session session' holds _ _ paired
      rw [sameLists]
      have others : ∀ inner path, circle.families (Scope.family inner) →
          Run.Matches related Eq (bounded behaviour bound inner path)
            (bounded behaviour bound inner path) :=
        fun inner path isInner => inductionHypothesis (respected.inner _ isInner) path
      apply (notify_matches_within closed respected others (inside.of _) _).bind
      rintro final _ rfl
      exact Run.matches_pure rfl

/-- If handlers cannot tell sessions apart, wherever they act, then neither can lookups. -/
theorem bounded_matches_of_everyone (respected : Circle.everyone.Respects Eq related) (bound : Nat)
    (scope : Scope) (path : String) :
    Run.Matches related Eq (bounded behaviour bound scope path)
      (bounded behaviour bound scope path) :=
  bounded_matches_within (Circle.everyone_isClosed behaviour) respected bound rfl path

end Lookup
end Stencil
