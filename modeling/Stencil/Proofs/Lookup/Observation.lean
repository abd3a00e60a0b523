import Stencil.Proofs.Lookup.Effect
import Stencil.Render.Engine

set_option autoImplicit false

/-!
Handlers that only watch: one that keeps a report, and one that keeps a log. They leave the event as
they find it, so wherever one of them is inserted among plain handlers, these make the same of every
event. All that is more in the trace is what the observer notes.
-/

namespace Stencil

/-- Ready-made handlers that watch and take no part. -/
def Handler.IsObserver : Handler → Prop
  | report _ | logging _ => True
  | named _ | strict => False

/-- The event that a handler is called for, if the entry is such a call. -/
def Entry.event? (handler : Handler) : Entry → Option Event
  | called other event => if other = handler then some event else none
  | _ => none

def eventsOf (handler : Handler) (trace : List Entry) : List Event :=
  trace.filterMap (Entry.event? handler)

/-- The second trace is the first one with notes of an observer in between. Both are newest
first. -/
inductive Noted (behaviour : Behaviour) (observer : Handler) : List Entry → List Entry → Prop where
  | nil : Noted behaviour observer [] []
  | same (entry : Entry) {trace watched : List Entry} :
      Noted behaviour observer trace watched →
      Noted behaviour observer (entry :: trace) (entry :: watched)
  | noted (event : Event) {trace watched : List Entry} :
      Noted behaviour observer trace watched →
      Noted behaviour observer trace (observer.notes behaviour event ++ watched)

namespace Noted

variable {behaviour : Behaviour} {observer : Handler} {trace watched : List Entry}

theorem append (noted : Noted behaviour observer trace watched) (entries : List Entry) :
    Noted behaviour observer (entries ++ trace) (entries ++ watched) := by
  induction entries with
  | nil => exact noted
  | cons entry rest inductionHypothesis => exact inductionHypothesis.same entry

theorem refl (trace : List Entry) : Noted behaviour observer trace trace := by
  have noted := (nil : Noted behaviour observer [] []).append trace
  rwa [List.append_nil] at noted

/-- What is read off a trace entry by entry is the same, if nothing is read off the notes. -/
theorem filterMap_eq {α : Type} {read : Entry → Option α}
    (unread : ∀ event, ∀ entry ∈ observer.notes behaviour event, read entry = none)
    (noted : Noted behaviour observer trace watched) :
    watched.filterMap read = trace.filterMap read := by
  induction noted with
  | nil => rfl
  | same entry _ inductionHypothesis =>
      rw [List.filterMap_cons, List.filterMap_cons, inductionHypothesis]
  | noted event _ inductionHypothesis =>
      rw [List.filterMap_append, List.filterMap_eq_nil_iff.mpr (unread event), List.nil_append,
        inductionHypothesis]

theorem mem_notes {event : Event} {entry : Entry}
    (member : entry ∈ observer.notes behaviour event) :
    entry = .called observer event ∨ ∃ record, entry = .logged record := by
  rw [Handler.notes] at member
  rcases List.mem_append.mp member with logged | called
  · obtain ⟨record, _, rfl⟩ := List.mem_map.mp (List.mem_reverse.mp logged)
    exact .inr ⟨record, rfl⟩
  · exact .inl (List.mem_singleton.mp called)

theorem chunks_eq (noted : Noted behaviour observer trace watched) :
    Render.chunks watched = Render.chunks trace := by
  apply noted.filterMap_eq
  intro event entry member
  rcases mem_notes member with rfl | ⟨record, rfl⟩ <;> rfl

theorem eventsOf_eq {other : Handler} (others : other ≠ observer)
    (noted : Noted behaviour observer trace watched) :
    eventsOf other watched = eventsOf other trace := by
  apply noted.filterMap_eq
  intro event entry member
  rcases mem_notes member with rfl | ⟨record, rfl⟩
  · exact if_neg others.symm
  · rfl

end Noted

def Handler.IsInserted (handler : Handler) (own watched : List Handler) : Prop :=
  ∃ earlier later, own = earlier ++ later ∧ watched = earlier ++ handler :: later

/-- The second lists are the first ones, each with the handler inserted somewhere. -/
structure HandlerLists.Inserts (handler : Handler) (own watched : HandlerLists) : Prop where
  found : handler.IsInserted own.found watched.found
  missing : handler.IsInserted own.missing watched.missing

theorem HandlerLists.Inserts.of {handler : Handler} {own watched : HandlerLists}
    (inserts : Inserts handler own watched) (event : Event) :
    handler.IsInserted (own.of event) (watched.of event) := by
  cases event with
  | found key value substitute => exact inserts.found
  | missing key member handled substitute => exact inserts.missing

theorem Handler.IsObserver.isPlain {behaviour : Behaviour} {observer : Handler}
    (watching : observer.IsObserver) : observer.IsPlain behaviour := by
  intro event
  cases observer with
  | named name => exact watching.elim
  | strict => exact watching.elim
  | report id => trivial
  | logging level => cases event <;> trivial

theorem Handler.IsInserted.forall_mem {handler : Handler} {own watched : List Handler}
    {property : Handler → Prop} (isInserted : handler.IsInserted own watched)
    (each : ∀ other ∈ own, property other) (holds : property handler) :
    ∀ other ∈ watched, property other := by
  obtain ⟨earlier, later, rfl, rfl⟩ := isInserted
  have ⟨before, behind⟩ := List.forall_mem_append.mp each
  exact List.forall_mem_append.mpr ⟨before, List.forall_mem_cons.mpr ⟨holds, behind⟩⟩

theorem HandlerLists.Inserts.arePlain {behaviour : Behaviour} {observer : Handler}
    {own watched : HandlerLists} (inserts : Inserts observer own watched)
    (watching : observer.IsObserver) (plain : own.ArePlain behaviour) :
    watched.ArePlain behaviour :=
  ⟨inserts.found.forall_mem plain.1 watching.isPlain,
    inserts.missing.forall_mem plain.2 watching.isPlain⟩

/-- Two sessions that differ in the handlers of one family and in what an observer among them has
noted. -/
structure Session.Watched (behaviour : Behaviour) (observer : Handler) (family : Nat)
    (own watched : HandlerLists) (session session' : Session) : Prop where
  spent : session'.spent = session.spent
  sink : session'.sink = session.sink
  memory : session'.memory = session.memory
  noted : Noted behaviour observer session.newest session'.newest
  lists : session.lists family = own
  watchedLists : session'.lists family = watched

namespace Session.Watched

variable {behaviour : Behaviour} {observer : Handler} {family : Nat} {own watched : HandlerLists}
  {session session' : Session}

theorem add (related : Watched behaviour observer family own watched session session')
    (entries : List Entry) :
    Watched behaviour observer family own watched (session.add entries) (session'.add entries) :=
  { related with noted := related.noted.append entries }

theorem keeping (related : Watched behaviour observer family own watched session session')
    (value : Value) :
    Watched behaviour observer family own watched (session.keeping value)
      (session'.keeping value) :=
  { related with memory := rfl }

theorem addNotes (related : Watched behaviour observer family own watched session session')
    (event : Event) :
    Watched behaviour observer family own watched session
      (session'.add (observer.notes behaviour event)) :=
  { related with noted := related.noted.noted event }

theorem spending (related : Watched behaviour observer family own watched session session')
    (stream : Option Nat) :
    Watched behaviour observer family own watched (session.spending stream)
      (session'.spending stream) := by
  cases stream with
  | none => exact related
  | some id =>
      refine { related with spent := ?_ }
      show session'.spent.insert id = session.spent.insert id
      rw [related.spent]

theorem chunks_trace (related : Watched behaviour observer family own watched session session') :
    Render.chunks session'.trace = Render.chunks session.trace := by
  rw [Session.trace, Session.trace, Render.chunks, Render.chunks, List.filterMap_reverse,
    List.filterMap_reverse]
  exact congrArg List.reverse related.noted.chunks_eq

theorem eventsOf_trace (related : Watched behaviour observer family own watched session session')
    {other : Handler} (others : other ≠ observer) :
    eventsOf other session'.trace = eventsOf other session.trace := by
  rw [Session.trace, Session.trace, eventsOf, eventsOf, List.filterMap_reverse,
    List.filterMap_reverse]
  exact congrArg List.reverse (related.noted.eventsOf_eq others)

end Session.Watched

theorem Run.Notes.simulates {α : Type} {run : Run α} (notes : run.Notes) {behaviour : Behaviour}
    {observer : Handler} {family : Nat} {own watched : HandlerLists} :
    Run.Simulates (Session.Watched behaviour observer family own watched) run run := by
  intro session session' related
  obtain ⟨outcome, entries, kept, executed⟩ := notes session.memory
  rw [executed session rfl, executed session' related.memory]
  exact ⟨rfl, (related.add entries).keeping kept⟩

namespace Lookup

variable {behaviour : Behaviour} {nested : Lookup} {observer : Handler} {family : Nat}
  {own watched : HandlerLists}

/-- An observer leaves its notes and the event as it is. -/
theorem execute_call_observer (watching : observer.IsObserver) (event : Event)
    (session : Session) :
    (call behaviour nested event observer).execute session =
      (.ok event, session.add (observer.notes behaviour event)) := by
  cases observer with
  | named name => exact watching.elim
  | strict => exact watching.elim
  | report id => rfl
  | logging level => cases event <;> rfl

theorem notify_simulates_watched (watching : observer.IsObserver) {handlers inserted : List Handler}
    (plain : ∀ handler ∈ handlers, handler.IsPlain behaviour)
    (isInserted : observer.IsInserted handlers inserted) (event : Event) :
    Run.Simulates (Session.Watched behaviour observer family own watched)
      (notify behaviour nested handlers event) (notify behaviour nested inserted event) := by
  obtain ⟨earlier, later, rfl, rfl⟩ := isInserted
  have ⟨plainEarlier, plainLater⟩ := List.forall_mem_append.mp plain
  rw [notify_append, notify_append]
  apply (notify_notes plainEarlier event).simulates.bind
  intro left
  -- Without the observer, nothing happens at this place.
  have called : Run.Simulates (Session.Watched behaviour observer family own watched)
      (pure left) (call behaviour nested left observer) := by
    intro session session' related
    rw [execute_call_observer watching]
    exact ⟨rfl, related.addNotes left⟩
  rw [notify, ← pure_bind left (notify behaviour nested later)]
  exact called.bind fun passed => (notify_notes plainLater passed).simulates

/-- A lookup beside which an observer stands is answered as without it. -/
theorem standard_simulates_watched (watching : observer.IsObserver) (plain : own.ArePlain behaviour)
    (inserts : HandlerLists.Inserts observer own watched) (scope : Scope) (path : String)
    (ofFamily : scope.family = family) :
    Run.Simulates (Session.Watched behaviour observer family own watched)
      (standard behaviour scope path) (standard behaviour scope path) := by
  apply (Run.simulates_ofExcept (scope.find path)).bind
  intro reach
  apply Run.simulates_get
  intro session session' related
  rw [ofFamily, related.lists, related.watchedLists]
  apply (notify_simulates_watched watching (plain.of _) (inserts.of _) _).bind
  intro final
  exact Run.simulates_pure final.outcome

end Lookup
end Stencil
