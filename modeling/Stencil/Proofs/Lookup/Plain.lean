import Stencil.Proofs.Lookup.Notification

set_option autoImplicit false

/-!
Plain handlers substitute, take charge, raise, write log records and use their memory; they neither
look up keys nor change handler lists. What a list of them makes of an event, and what it leaves in
the trace and in memory, goes by what is in memory and is else the same in every session. Where no
handler listens, a lookup is a search and leaves the session alone.
-/

namespace Stencil

namespace Session

def add (session : Session) (entries : List Entry) : Session :=
  { session with newest := entries ++ session.newest }

@[simp]
theorem add_add (session : Session) (earlier later : List Entry) :
    (session.add earlier).add later = session.add (later ++ earlier) := by
  simp [add]

theorem since_add (session : Session) (entries : List Entry) :
    (session.add entries).since session = entries.reverse := by
  simp [since, add]

end Session

namespace Run

variable {α β : Type}

theorem execute_emit_of_unlimited {session : Session} (unlimited : session.sink = .unlimited)
    (chunk : String) :
    (emit chunk).execute session = (.ok (), session.add [.wrote chunk]) := by
  rw [emit, execute_bind, execute_get]
  simp only [unlimited]
  rfl

/-- A run that adds notes to the trace, keeps something in memory and does nothing else. What it
adds, what it keeps and how it ends depend on nothing but the memory. -/
def Notes (run : Run α) : Prop :=
  ∀ memory, ∃ outcome entries kept, ∀ session, session.memory = memory →
    run.execute session = (outcome, (session.add entries).keeping kept)

theorem notes_pure (value : α) : Notes (pure value) :=
  fun memory => ⟨.ok value, [], memory, by rintro session rfl; rfl⟩

theorem notes_throw (interrupt : Interrupt) : Notes (throw interrupt : Run α) :=
  fun memory => ⟨.error interrupt, [], memory, by rintro session rfl; rfl⟩

theorem notes_record (entry : Entry) : Notes (record entry) :=
  fun memory => ⟨.ok (), [entry], memory, by rintro session rfl; rfl⟩

theorem notes_keep (value : Value) :
    Notes (modify fun session => session.keeping value : Run Unit) :=
  fun _ => ⟨.ok (), [], value, fun _ _ => rfl⟩

theorem notes_remember {next : Value → Run β} (others : ∀ kept, (next kept).Notes) :
    Notes (get >>= fun session => next session.memory) := by
  intro memory
  obtain ⟨outcome, entries, kept, executed⟩ := others memory memory
  refine ⟨outcome, entries, kept, fun session same => ?_⟩
  rw [execute_bind_ok (execute_get session), same]
  exact executed session same

theorem Notes.bind {run : Run α} {next : α → Run β} (first : run.Notes)
    (others : ∀ value, (next value).Notes) : (run >>= next).Notes := by
  intro memory
  obtain ⟨outcome, entries, kept, executed⟩ := first memory
  cases outcome with
  | error interrupt =>
      exact ⟨.error interrupt, entries, kept,
        fun session same => execute_bind_error (executed session same)⟩
  | ok value =>
      obtain ⟨ending, later, left, continued⟩ := others value kept
      refine ⟨ending, later ++ entries, left, fun session same => ?_⟩
      rw [execute_bind_ok (executed session same), continued _ rfl, ← Session.add_add]
      rfl

end Run

namespace Reaction

/-- No step looks up a key or changes a list of handlers. -/
def IsPlain : Reaction → Prop
  | done | raise _ => True
  | substitute _ next | handle _ next | log _ next | keep _ next => next.IsPlain
  | remember next => ∀ kept, (next kept).IsPlain
  | lookup .. | edit .. => False

end Reaction

def Handler.IsPlain (behaviour : Behaviour) (handler : Handler) : Prop :=
  ∀ event, (handler.reaction behaviour event).IsPlain

def HandlerLists.ArePlain (behaviour : Behaviour) (lists : HandlerLists) : Prop :=
  (∀ handler ∈ lists.found, handler.IsPlain behaviour) ∧
    ∀ handler ∈ lists.missing, handler.IsPlain behaviour

theorem HandlerLists.ArePlain.of {behaviour : Behaviour} {lists : HandlerLists}
    (plain : lists.ArePlain behaviour) (event : Event) :
    ∀ handler ∈ lists.of event, handler.IsPlain behaviour := by
  cases event with
  | found key value substitute => exact plain.1
  | missing key member handled substitute => exact plain.2

namespace Lookup

variable {behaviour : Behaviour} {nested : Lookup}

theorem perform_notes {reaction : Reaction} (plain : reaction.IsPlain) (event : Event) :
    (perform nested reaction event).Notes := by
  induction reaction generalizing event with
  | done => exact Run.notes_pure event
  | substitute value next inductionHypothesis => exact inductionHypothesis plain _
  | handle flag next inductionHypothesis => exact inductionHypothesis plain _
  | raise fault => exact Run.notes_throw _
  | lookup => exact plain.elim
  | edit => exact plain.elim
  | log record next inductionHypothesis =>
      exact Run.Notes.bind (Run.notes_record _) fun _ => inductionHypothesis plain event
  | remember next inductionHypothesis =>
      exact Run.notes_remember fun kept => inductionHypothesis kept (plain kept) event
  | keep value next inductionHypothesis =>
      exact Run.Notes.bind (Run.notes_keep value) fun _ => inductionHypothesis plain event

theorem call_notes {handler : Handler} (plain : handler.IsPlain behaviour) (event : Event) :
    (call behaviour nested event handler).Notes :=
  Run.Notes.bind (Run.notes_record _) fun _ => perform_notes (plain event) event

theorem notify_notes {handlers : List Handler}
    (plain : ∀ handler ∈ handlers, handler.IsPlain behaviour) (event : Event) :
    (notify behaviour nested handlers event).Notes := by
  induction handlers generalizing event with
  | nil => exact Run.notes_pure event
  | cons handler rest inductionHypothesis =>
      have ⟨first, others⟩ := List.forall_mem_cons.mp plain
      exact Run.Notes.bind (call_notes first event) (inductionHypothesis others)

end Lookup

/-- Nobody listens to the scopes of the family. -/
def Session.Unheard (session : Session) (family : Nat) : Prop := session.lists family = .empty

namespace Lookup

variable {behaviour : Behaviour}

/-- A lookup that nobody hears is a search, and leaves no trace. -/
theorem execute_standard_of_unheard {scope : Scope} {session : Session}
    (unheard : session.Unheard scope.family) (path : String) :
    (standard behaviour scope path).execute session =
      (((scope.find path).map Reach.value?).mapError .fault, session) := by
  rw [standard_eq, execute_through]
  cases found : scope.find path with
  | error fault => rfl
  | ok reach =>
      have silent : (session.lists scope.family).of (.ofReach path reach) = [] := by
        rw [unheard]
        cases reach <;> rfl
      simp only [silent, notify]
      cases reach <;> rfl

end Lookup
end Stencil
