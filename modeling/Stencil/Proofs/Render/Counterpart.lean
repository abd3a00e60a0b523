import Stencil.Proofs.Lookup.Circle
import Stencil.Proofs.Lookup.Plain
import Stencil.Proofs.Render.Matching

set_option autoImplicit false

/-!
The same handlers on another host. A host is a family of scopes that the handlers of a circle have
nothing to do with. If all handlers listed belong to the circle, then it makes no difference to a
render for which host they are listed.
-/

namespace Stencil

/-- Families that stand for each other: one host for the other, and those of the circle for
themselves. -/
inductive Circle.Pairs (circle : Circle) (host host' : Nat) : Nat → Nat → Prop where
  | host : Pairs circle host host' host host'
  | inner {family} : circle.families family → Pairs circle host host' family family

/-- Sessions with the same past and the same memory, in which all text is taken. The handlers that
one host has in the first, the other host has in the second. -/
structure Session.Counterpart (circle : Circle) (host host' : Nat) (session session' : Session) :
    Prop where
  spent : session'.spent = session.spent
  newest : session'.newest = session.newest
  sink : session.sink = .unlimited
  sink' : session'.sink = .unlimited
  memory : session'.memory = session.memory
  lists : ∀ family family', circle.Pairs host host' family family' →
    session'.lists family' = session.lists family ∧ circle.Holds (session.lists family)

variable {circle : Circle} {host host' : Nat}

namespace Session

namespace Counterpart

variable {session session' : Session}

theorem add (counterpart : Counterpart circle host host' session session') (entries : List Entry) :
    Counterpart circle host host' (session.add entries) (session'.add entries) :=
  { counterpart with newest := congrArg (entries ++ ·) counterpart.newest }

theorem spending (counterpart : Counterpart circle host host' session session')
    (stream : Option Nat) :
    Counterpart circle host host' (session.spending stream) (session'.spending stream) := by
  cases stream with
  | none => exact counterpart
  | some id => exact { counterpart with spent := congrArg (List.insert id) counterpart.spent }

/-- A change within the circle leaves the hosts alone. -/
theorem change (counterpart : Counterpart circle host host' session session')
    (outside : ¬circle.families host) (outside' : ¬circle.families host') {family : Nat}
    {change : HandlerChange} (inner : circle.families family) (allowed : circle.Allows change) :
    Counterpart circle host host' (session.changeHandlers family change)
      (session'.changeHandlers family change) where
  spent := counterpart.spent
  newest := counterpart.newest
  sink := counterpart.sink
  sink' := counterpart.sink'
  memory := counterpart.memory
  lists other other' paired := by
    have ⟨same, holds⟩ := counterpart.lists other other' paired
    rw [changeHandlers, changeHandlers]
    cases paired with
    | host =>
        have apart : host ≠ family := fun own => outside (own ▸ inner)
        have apart' : host' ≠ family := fun own => outside' (own ▸ inner)
        rw [lists_withLists_of_ne apart, lists_withLists_of_ne apart']
        exact ⟨same, holds⟩
    | inner =>
        by_cases own : other = family
        · subst own
          rw [lists_withLists, lists_withLists, same]
          exact ⟨rfl, holds.change allowed⟩
        · rw [lists_withLists_of_ne own, lists_withLists_of_ne own]
          exact ⟨same, holds⟩

end Counterpart

end Session

theorem Circle.respects_counterpart (outside : ¬circle.families host)
    (outside' : ¬circle.families host') :
    circle.Respects (circle.Pairs host host') (Session.Counterpart circle host host') where
  inner _ := .inner
  lists _ _ counterpart := counterpart.lists
  record entry _ _ counterpart := ⟨.ok rfl, counterpart.add [entry]⟩
  edit _ _ counterpart _ _ := counterpart.change outside outside'
  memory _ _ counterpart := counterpart.memory
  keep _ _ _ counterpart := { counterpart with memory := rfl }

namespace Render

variable {kit : Kit} {behaviour : Behaviour} {context : Context}

theorem emit_matches_counterpart (chunk : String) :
    Run.Matches (Session.Counterpart circle host host') Eq (Run.emit chunk) (Run.emit chunk) := by
  intro session session' counterpart
  rw [Run.execute_emit_of_unlimited counterpart.sink, Run.execute_emit_of_unlimited counterpart.sink']
  exact ⟨.ok rfl, counterpart.add _⟩

theorem sameSpent_of_counterpart (session session' : Session)
    (counterpart : Session.Counterpart circle host host' session session') :
    session'.spent = session.spent := counterpart.spent

theorem spend_matches_counterpart (stream : Option Nat) :
    Run.Matches (Session.Counterpart circle host host') Eq (Run.spend stream)
      (Run.spend stream) := by
  intro session session' counterpart
  rw [Run.execute_spend, Run.execute_spend]
  exact ⟨.ok rfl, counterpart.spending stream⟩

theorem setting_matches_counterpart (closed : circle.IsClosed behaviour)
    (outside : ¬circle.families host) (outside' : ¬circle.families host') :
    (setting kit behaviour context).Matches (setting kit behaviour context) .any
      (fun scope scope' => scope.family = host ∧ scope' = { scope with family := host' }) Eq
      (Session.Counterpart circle host host') where
  child := by
    rintro scope _ value _ ⟨own, rfl⟩ rfl
    exact ⟨own, rfl⟩
  lookup := by
    rintro scope _ path ⟨own, rfl⟩ _
    have paired : circle.Pairs host host' scope.family host' := own ▸ .host
    apply (Lookup.bounded_matches_within closed (Circle.respects_counterpart outside outside')
      Lookup.nestingLimit paired path).imp
    rintro found _ rfl
    exact optionRel_refl (fun _ => rfl) found
  elements := by
    rintro value _ rfl
    exact Run.matches_elements? sameSpent_of_counterpart spend_matches_counterpart
      (Value.passedAlike_self fun _ _ _ _ _ _ => rfl)
  condition := by
    rintro value _ rfl
    have passed : value.PassedAlike Eq value := Value.passedAlike_self fun _ _ _ _ _ _ => rfl
    exact Run.matches_condition sameSpent_of_counterpart spend_matches_counterpart passed
  text := by
    rintro escape value _ rfl
    rfl
  emit := emit_matches_counterpart
  custom := by
    rintro label scope _ ⟨own, rfl⟩ _
    exact Kit.custom_matches emit_matches_counterpart rfl

/-- A render on one host is the same as on the other. -/
theorem write_matches_counterpart (closed : circle.IsClosed behaviour)
    (outside : ¬circle.families host) (outside' : ¬circle.families host') (node : Node)
    {scope : Scope} (own : scope.family = host) :
    Run.Matches (Session.Counterpart circle host host') Eq
      (write (setting kit behaviour context) node scope)
      (write (setting kit behaviour context) node { scope with family := host' }) := by
  apply write_matches (setting_matches_counterpart closed outside outside') _ _ node
    (Usage.any_covers node) ⟨own, rfl⟩ rfl
  · intro record session session' counterpart
    exact ⟨.ok rfl, counterpart.add [.logged record]⟩
  · intro before before' after after' counterpart counterpart'
    rw [chunkCount, chunkCount, chunkCount, chunkCount, counterpart.newest, counterpart'.newest]

end Render
end Stencil
