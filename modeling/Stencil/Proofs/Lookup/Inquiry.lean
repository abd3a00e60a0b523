import Stencil.Proofs.Lookup.Execution
import Stencil.Lookup.Notify

set_option autoImplicit false

/-!
The lookups of a run, in the order in which it makes them, and the same run stopped at the first of
them that is answered by nothing.
-/

namespace Stencil

/-- The member that the search misses, empty if it misses none. -/
def Scope.missingMember (scope : Scope) (path : String) : String :=
  match scope.find path with
  | .ok (.missing member) => member
  | _ => ""

/-- A lookup that a run makes: where, for what, and in which session. -/
structure Inquiry where
  scope : Scope
  path : String
  session : Session

namespace Inquiry

def answer (lookup : Lookup) (inquiry : Inquiry) : Except Interrupt (Option Value) × Session :=
  (lookup inquiry.scope inquiry.path).execute inquiry.session

/-- Whether the lookup came to its end and had nothing to answer with. -/
def isMissed (lookup : Lookup) (inquiry : Inquiry) : Bool :=
  match (inquiry.answer lookup).1 with
  | .ok none => true
  | _ => false

def refusal (inquiry : Inquiry) : Interrupt :=
  .fault (.keyMissing inquiry.path (inquiry.scope.missingMember inquiry.path))

theorem isMissed_iff {lookup : Lookup} {inquiry : Inquiry} :
    inquiry.isMissed lookup = true ↔ (inquiry.answer lookup).1 = .ok none := by
  rw [isMissed]
  split
  · next unanswered => simp [unanswered]
  · next other => simp only [Bool.false_eq_true, false_iff]; exact other

/-- The lookups of what comes after a run, if it comes to an end. -/
def after {α : Type} (run : Run α) (session : Session) (next : α → Session → List Inquiry) :
    List Inquiry :=
  match run.execute session with
  | (.ok value, later) => next value later
  | (.error _, _) => []

theorem append_after_nil {α : Type} (inquiries : Session → List Inquiry) (run : Run α) :
    (fun session => inquiries session ++ after run session fun _ _ => []) = inquiries := by
  funext session
  rw [after]
  split <;> exact List.append_nil _

/-- The lookups of visits to scopes, one after the other. -/
def each (visit : Scope → Run Unit) (inquiries : Scope → Session → List Inquiry) :
    List Scope → Session → List Inquiry
  | [], _ => []
  | scope :: others, session =>
      inquiries scope session ++
        after (visit scope) session fun _ later => each visit inquiries others later

section Members

variable {α : Type} {property : Inquiry → Prop}

theorem forall_mem_after {run : Run α} {next : α → Session → List Inquiry} {session : Session}
    (later : ∀ value session', run.execute session = (.ok value, session') →
      ∀ inquiry ∈ next value session', property inquiry) :
    ∀ inquiry ∈ after run session next, property inquiry := by
  intro inquiry member
  rw [after] at member
  rcases executed : run.execute session with ⟨interrupt | value, session'⟩
  · simp [executed] at member
  · rw [executed] at member
    exact later value session' executed inquiry member

theorem forall_mem_each {visit : Scope → Run Unit} {inquiries : Scope → Session → List Inquiry}
    {scopes : List Scope}
    (visits : ∀ scope ∈ scopes, ∀ session, ∀ inquiry ∈ inquiries scope session, property inquiry)
    (session : Session) : ∀ inquiry ∈ each visit inquiries scopes session, property inquiry := by
  induction scopes generalizing session with
  | nil => exact List.forall_mem_nil _
  | cons scope others inductionHypothesis =>
      have ⟨first, rest⟩ := List.forall_mem_cons.mp visits
      exact List.forall_mem_append.mpr ⟨first session,
        forall_mem_after fun _ later _ => inductionHypothesis rest later⟩

end Members

end Inquiry

/-- Refuses to go on where the lookup has nothing to answer with. -/
def Lookup.stopping (lookup : Lookup) : Lookup := fun scope path => do
  match ← lookup scope path with
  | some value => return some value
  | none => throw (.fault (.keyMissing path (scope.missingMember path)))

namespace Run

variable {α β : Type} {lookup : Lookup} {run stopped : Run α} {next next' : α → Run β}

/-- The second run is the first one, stopped at the first of its lookups that is missed. -/
def StopsAt (lookup : Lookup) (inquiries : Session → List Inquiry) (run stopped : Run α) : Prop :=
  ∀ session, stopped.execute session =
    match (inquiries session).find? (·.isMissed lookup) with
    | none => run.execute session
    | some inquiry => (.error inquiry.refusal, (inquiry.answer lookup).2)

theorem stopsAt_self (run : Run α) : StopsAt lookup (fun _ => []) run run := fun _ => rfl

theorem stopsAt_lookup (scope : Scope) (path : String) :
    StopsAt lookup (fun session => [⟨scope, path, session⟩]) (lookup scope path)
      (lookup.stopping scope path) := by
  intro session
  rw [Lookup.stopping, execute_bind]
  simp only [List.find?_singleton, Inquiry.isMissed, Inquiry.answer]
  rcases executed : (lookup scope path).execute session with ⟨interrupt | _ | value, later⟩
  · rfl
  · simp only [if_true, executed]
    rfl
  · rfl

theorem StopsAt.bind {inquiries : Session → List Inquiry}
    {others : α → Session → List Inquiry} (first : StopsAt lookup inquiries run stopped)
    (rest : ∀ value, StopsAt lookup (others value) (next value) (next' value)) :
    StopsAt lookup (fun session => inquiries session ++ Inquiry.after run session others)
      (run >>= next) (stopped >>= next') := by
  intro session
  rw [execute_bind, first session, List.find?_append]
  cases (inquiries session).find? (·.isMissed lookup) with
  | some inquiry => rfl
  | none =>
      rw [Option.none_or, Inquiry.after, execute_bind]
      rcases run.execute session with ⟨interrupt | value, later⟩
      · rfl
      · exact rest value later

theorem stopsAt_after (run : Run α) {others : α → Session → List Inquiry}
    (rest : ∀ value, StopsAt lookup (others value) (next value) (next' value)) :
    StopsAt lookup (fun session => Inquiry.after run session others) (run >>= next)
      (run >>= next') :=
  (stopsAt_self run).bind rest

theorem StopsAt.bind_self {inquiries : Session → List Inquiry}
    (first : StopsAt lookup inquiries run stopped) (next : α → Run β) :
    StopsAt lookup inquiries (run >>= next) (stopped >>= next) := by
  rw [← Inquiry.append_after_nil inquiries run]
  exact first.bind fun value => stopsAt_self (next value)

theorem stopsAt_forM {visit visit' : Scope → Run Unit}
    {inquiries : Scope → Session → List Inquiry}
    (each : ∀ scope, StopsAt lookup (inquiries scope) (visit scope) (visit' scope))
    (scopes : List Scope) :
    StopsAt lookup (Inquiry.each visit inquiries scopes) (scopes.forM visit)
      (scopes.forM visit') := by
  induction scopes with
  | nil => exact stopsAt_self _
  | cons scope others inductionHypothesis => exact (each scope).bind fun _ => inductionHypothesis

end Run
end Stencil
