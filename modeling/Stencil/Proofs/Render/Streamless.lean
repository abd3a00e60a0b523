import Stencil.Proofs.Lookup.Streamless
import Stencil.Proofs.Render.Exposure

set_option autoImplicit false

/-!
Rendering data without streams. It uses nothing up, so where nobody listens and all text is taken it
leaves the session as it was, but for the trace.
-/

namespace Stencil

/-- The session has the handlers, the used-up streams and the memory given, and takes all text. -/
structure Session.Undrained (lists : Nat → HandlerLists) (spent : List Nat) (memory : Value)
    (session : Session) : Prop where
  lists : session.lists = lists
  spent : session.spent = spent
  memory : session.memory = memory
  sink : session.sink = .unlimited

/-- Such sessions differ in the trace only. -/
theorem Session.Undrained.eq_onto {lists : Nat → HandlerLists} {spent : List Nat} {memory : Value}
    {session : Session} (undrained : session.Undrained lists spent memory) :
    session = (⟨spent, lists, [], .unlimited, memory⟩ : Session).onto session.newest := by
  obtain ⟨ownSpent, ownLists, newest, sink, ownMemory⟩ := session
  obtain ⟨rfl, rfl, rfl, rfl⟩ := undrained
  rfl

namespace Render

variable {kit : Kit} {behaviour : Behaviour} {context : Context} {lists : Nat → HandlerLists}
  {spent : List Nat} {memory : Value}

theorem emit_matches_undrained (chunk : String) :
    Run.Matches (Run.Same (Session.Undrained lists spent memory)) Eq (Run.emit chunk)
      (Run.emit chunk) := by
  rintro _ session ⟨rfl, holds⟩
  rw [Run.execute_emit_of_unlimited holds.sink]
  exact ⟨.ok rfl, rfl, holds.lists, holds.spent, holds.memory, holds.sink⟩

theorem setting_matches_streamless {family : Nat} (unheard : lists family = .empty) :
    (setting kit behaviour context).Matches (setting kit behaviour context) .any
      (fun scope scope' => scope.Alike Value.SameStreamless scope' ∧ scope.family = family ∧
        scope.settings.registry = .standard)
      Value.SameStreamless (Run.Same (Session.Undrained lists spent memory)) where
  child scope scope' value value' := by
    rintro ⟨likeness, ofFamily, registry⟩ same
    exact ⟨likeness.child same, ofFamily, registry⟩
  lookup scope scope' path := by
    rintro ⟨likeness, ofFamily, registry⟩ _
    apply Lookup.standard_matches
    · intro session holds
      rw [Session.Unheard, Session.Unheard, likeness.family, ofFamily, holds.lists]
      exact ⟨unheard, unheard⟩
    · exact likeness.find_agree (registry ▸ Registry.standard_respects_sameStreamless) path
  elements _ _ same := Run.matches_elements?_of_streamless same
  condition _ _ same := Run.matches_condition_of_streamless same
  text := by
    rintro escape _ value ⟨rfl, _⟩
    rfl
  emit := emit_matches_undrained
  custom label scope scope' := by
    rintro ⟨likeness, _⟩ _
    exact Kit.custom_matches emit_matches_undrained
      (congrArg _ (likeness.chain_eq fun _ _ same => same.1))

/-- Where there are no streams, a render ends in the same way and adds the same to the trace,
whatever was noted before. -/
theorem exists_execute_generate {family : Nat} (unheard : lists family = .empty) (node : Node)
    {scope : Scope} (streamless : scope.Alike Value.SameStreamless scope ∧ scope.family = family ∧
      scope.settings.registry = .standard) :
    ∃ outcome entries, ∀ started, Session.Undrained lists spent memory started →
      (node.generate (setting kit behaviour context) scope).execute started =
        (outcome, started.add entries) := by
  -- One run shows it for all: the others start with older entries under the trace.
  let fresh : Session := ⟨spent, lists, [], .unlimited, memory⟩
  have matched : Run.Matches (Run.Same (Session.Undrained lists spent memory)) Eq
      (node.generate (setting kit behaviour context) scope)
      (node.generate (setting kit behaviour context) scope) :=
    Node.generate_matches (setting_matches_streamless unheard) node scope scope
      (Usage.any_covers node) streamless
  have ⟨_, _, undrained⟩ := matched fresh fresh ⟨rfl, rfl, rfl, rfl, rfl⟩
  rcases executed : (node.generate (setting kit behaviour context) scope).execute fresh with
    ⟨outcome, later⟩
  rw [executed] at undrained
  refine ⟨outcome, later.newest, fun started same => ?_⟩
  have onto : (node.generate (setting kit behaviour context) scope).execute
      (fresh.onto started.newest) = (outcome, later.onto started.newest) := by
    rw [execute_generate_onto, executed]
  have reached : later = fresh.onto later.newest := undrained.eq_onto
  rw [same.eq_onto, onto, reached]
  rfl

end Render
end Stencil
