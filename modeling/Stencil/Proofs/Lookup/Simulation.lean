import Stencil.Proofs.Lookup.Matching

set_option autoImplicit false

/-!
Two runs compared from related sessions: they have the same outcome and leave related sessions,
which is to match with the same results. A run that keeps a property is the case of one run
compared with itself.
-/

namespace Stencil.Run

variable {α β : Type} {related : Session → Session → Prop} {property : Session → Prop}
  {run run' : Run α} {next next' : α → Run β}

/-- From related sessions the runs have the same outcome, and the sessions after them are related
again. -/
def Simulates (related : Session → Session → Prop) (run run' : Run α) : Prop :=
  ∀ session session', related session session' →
    (run.execute session).1 = (run'.execute session').1 ∧
      related (run.execute session).2 (run'.execute session').2

/-- To simulate is to match with the same results. -/
theorem simulates_iff_matches : Simulates related run run' ↔ Matches related Eq run run' := by
  constructor
  · intro simulated session session' holds
    have ⟨sameOutcome, later⟩ := simulated session session' holds
    exact ⟨.of_eq sameOutcome, later⟩
  · intro matched session session' holds
    have ⟨agree, later⟩ := matched session session' holds
    exact ⟨agree.eq, later⟩

theorem simulates_pure (value : α) : Simulates related (pure value) (pure value) :=
  simulates_iff_matches.mpr (matches_pure rfl)

theorem simulates_ofExcept (result : Except Fault α) :
    Simulates related (ofExcept result) (ofExcept result) :=
  simulates_iff_matches.mpr (matches_ofExcept (.of_eq rfl))

theorem Simulates.bind (first : Simulates related run run')
    (others : ∀ value, Simulates related (next value) (next' value)) :
    Simulates related (run >>= next) (run' >>= next') := by
  rw [simulates_iff_matches] at first ⊢
  apply first.bind
  rintro value _ rfl
  exact simulates_iff_matches.mp (others value)

theorem simulates_get {next next' : Session → Run β}
    (others : ∀ session session', related session session' →
      Simulates related (next session) (next' session')) :
    Simulates related (get >>= next) (get >>= next') :=
  fun session session' holds => others session session' holds session session' holds

theorem simulates_forM {Item : Type} {items : List Item} {visit visit' : Item → Run Unit}
    (each : ∀ item ∈ items, Simulates related (visit item) (visit' item)) :
    Simulates related (items.forM visit) (items.forM visit') := by
  have sameItems : List.Forall₂ (fun item item' => item' = item ∧ item ∈ items) items items :=
    List.forall₂_same.mpr fun item member => ⟨rfl, member⟩
  rw [simulates_iff_matches]
  apply matches_forM sameItems
  rintro _ item ⟨rfl, member⟩
  exact simulates_iff_matches.mp (each item member)

/-- Writing goes by the sink, and leaves an entry in the trace and what is left of the sink. -/
theorem simulates_emit
    (sameSink : ∀ session session', related session session' → session'.sink = session.sink)
    (record : ∀ entry, Simulates related (record entry) (record entry))
    (resink : ∀ sink session session', related session session' →
      related { session with sink } { session' with sink }) (chunk : String) :
    Simulates related (emit chunk) (emit chunk) :=
  simulates_iff_matches.mpr
    (matches_emit sameSink (simulates_iff_matches.mp (record (.wrote chunk))) resink)

/-- Whatever holds of the session before the run holds of the session after it. -/
def Keeps (property : Session → Prop) (run : Run α) : Prop :=
  ∀ session, property session → property (run.execute session).2

/-- The relation of a session to itself, if it has a property. -/
def Same (property : Session → Prop) (session session' : Session) : Prop :=
  session' = session ∧ property session

/-- A run matches itself, whatever it does. -/
theorem matches_self {alike : α → α → Prop} (reflexive : ∀ value, alike value value)
    (run : Run α) : Matches (Same fun _ => True) alike run run := by
  rintro _ session ⟨rfl, _⟩
  exact ⟨.refl reflexive _, rfl, trivial⟩

/-- Runs that match in the same session do the same there. -/
theorem Matches.execute_eq (matched : Matches (Same property) Eq run run') {session : Session}
    (holds : property session) : run'.execute session = run.execute session := by
  obtain ⟨agree, sameSession, _⟩ := matched session session ⟨rfl, holds⟩
  exact Prod.ext agree.eq.symm sameSession

theorem keeps_iff_simulates :
    Keeps property run ↔ Simulates (Same property) run run := by
  constructor
  · rintro kept session _ ⟨same, holds⟩
    rw [same]
    exact ⟨rfl, rfl, kept session holds⟩
  · intro simulated session holds
    exact (simulated session session ⟨rfl, holds⟩).2.2

theorem keeps_pure (value : α) : Keeps property (pure value) := fun _ holds => holds

theorem Keeps.bind (first : Keeps property run) (others : ∀ value, Keeps property (next value)) :
    Keeps property (run >>= next) := by
  rw [keeps_iff_simulates] at first ⊢
  exact first.bind fun value => keeps_iff_simulates.mp (others value)

theorem keeps_forM {Item : Type} {items : List Item} {visit : Item → Run Unit}
    (each : ∀ item ∈ items, Keeps property (visit item)) : Keeps property (items.forM visit) := by
  rw [keeps_iff_simulates]
  exact simulates_forM fun item member => keeps_iff_simulates.mp (each item member)

theorem keeps_spend_lists (lists : Nat → HandlerLists) (stream : Option Nat) :
    Keeps (fun session => session.lists = lists) (spend stream) := by
  intro session holds
  rw [execute_spend, Session.lists_spending]
  exact holds

theorem keeps_emit_lists (lists : Nat → HandlerLists) (chunk : String) :
    Keeps (fun session => session.lists = lists) (emit chunk) := by
  rw [keeps_iff_simulates]
  apply simulates_emit
  · rintro session _ ⟨same, _⟩
    rw [same]
  · intro entry
    exact keeps_iff_simulates.mp fun _ holds => holds
  · rintro sink session _ ⟨same, holds⟩
    rw [same]
    exact ⟨rfl, holds⟩

end Stencil.Run
