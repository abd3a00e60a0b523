import Stencil.Proofs.Lookup.Circle
import Stencil.Proofs.Lookup.Plain

set_option autoImplicit false

/-!
The trace is written and never read. From a session with older entries under its trace, a lookup
does what it does without them, whatever its handlers do, and leaves them where they are.
-/

namespace Stencil

namespace Session

/-- The session with older entries under its trace. -/
def onto (session : Session) (older : List Entry) : Session :=
  { session with newest := session.newest ++ older }

/-- The session before anything was noted. -/
def untold (session : Session) : Session := { session with newest := [] }

theorem add_onto (session : Session) (older entries : List Entry) :
    (session.onto older).add entries = (session.add entries).onto older := by
  simp [add, onto]

/-- The second session is the first one with older entries under its trace. -/
def IsOnto (older : List Entry) (session session' : Session) : Prop :=
  session' = session.onto older

end Session

namespace Run

variable {older : List Entry}

theorem record_simulates_onto (entry : Entry) :
    Simulates (Session.IsOnto older) (record entry) (record entry) := by
  rintro session _ rfl
  exact ⟨rfl, rfl⟩

theorem spend_simulates_onto (stream : Option Nat) :
    Simulates (Session.IsOnto older) (spend stream) (spend stream) := by
  rintro session _ rfl
  cases stream <;> exact ⟨rfl, rfl⟩

theorem emit_simulates_onto (chunk : String) :
    Simulates (Session.IsOnto older) (emit chunk) (emit chunk) := by
  apply simulates_emit
  · rintro session _ rfl
    rfl
  · exact record_simulates_onto
  · rintro sink session _ rfl
    rfl

/-- A run that does not read the trace carries older entries along. -/
theorem Simulates.execute_onto {α : Type} {run : Run α}
    (simulated : Simulates (Session.IsOnto older) run run) (session : Session) :
    run.execute (session.onto older) =
      ((run.execute session).1, (run.execute session).2.onto older) := by
  have ⟨sameOutcome, later⟩ := simulated session (session.onto older) rfl
  exact Prod.ext sameOutcome.symm later

end Run

theorem Circle.everyone_respects_isOnto (older : List Entry) :
    everyone.Respects Eq (Session.IsOnto older) where
  inner _ _ := rfl
  lists := by
    rintro session _ rfl family _ rfl
    exact ⟨rfl, everyone_holds _⟩
  record entry := Run.simulates_iff_matches.mp (Run.record_simulates_onto entry)
  edit := by
    rintro session _ rfl family change _ _
    rfl
  memory := by
    rintro session _ rfl
    rfl
  keep := by
    rintro value session _ rfl
    rfl

theorem Lookup.bounded_simulates_onto {behaviour : Behaviour} {older : List Entry} (bound : Nat)
    (scope : Scope) (path : String) :
    Run.Simulates (Session.IsOnto older) (bounded behaviour bound scope path)
      (bounded behaviour bound scope path) :=
  Run.simulates_iff_matches.mpr
    (bounded_matches_of_everyone (Circle.everyone_respects_isOnto older) bound scope path)

end Stencil
