import Stencil.Proofs.Lookup.Addition
import Stencil.Proofs.Lookup.Inquiry
import Stencil.Proofs.Lookup.Observation

set_option autoImplicit false

/-!
What a report comes to. It is listed once among plain handlers, so each lookup that comes to an end
adds its path to it once, and nothing else does. The report of a longer run is the tally of its
lookups.
-/

namespace Stencil

def Session.report (id : String) (session : Session) : Report := .ofTrace id session.trace

theorem Session.report_add (id : String) (session : Session) (entries : List Entry) :
    (session.add entries).report id =
      entries.reverse.foldl (Report.add id) (session.report id) := by
  simp [report, Report.ofTrace, trace, add, List.foldl_append]

theorem Session.report_withLists (id : String) (session : Session) (family : Nat)
    (lists : HandlerLists) : (session.withLists family lists).report id = session.report id := rfl

/-- The entry makes no difference to the report. -/
def Entry.IsAside (id : String) (entry : Entry) : Prop :=
  ∀ report, Report.add id report entry = report

theorem Entry.isAside_called {id : String} {handler : Handler} (others : handler ≠ .report id)
    (event : Event) : (Entry.called handler event).IsAside id := by
  intro report
  cases handler with
  | report other =>
      have differs : (other == id) = false := by
        rw [beq_eq_false_iff_ne]
        rintro rfl
        exact others rfl
      rw [Report.add, differs]
      rfl
  | _ => rfl

theorem Entry.isAside_answered (id path : String) (result : Except Fault (Option Value)) :
    (Entry.answered path result).IsAside id := fun _ => rfl

theorem Entry.isAside_logged (id : String) (record : LogRecord) :
    (Entry.logged record).IsAside id := fun _ => rfl

theorem Entry.isAside_wrote (id chunk : String) : (Entry.wrote chunk).IsAside id := fun _ => rfl

theorem Run.Adds.report_eq {α : Type} {id : String} {run : Run α}
    (aside : run.Adds (Entry.IsAside id)) {session later : Session}
    {outcome : Except Interrupt α} (executed : run.execute session = (outcome, later)) :
    later.report id = session.report id := by
  obtain ⟨entries, grown, each⟩ := aside session
  rw [executed] at grown
  have told : later.report id = (session.add entries).report id := by
    rw [Session.report, Session.trace, grown]
    rfl
  rw [told, Session.report_add]
  have ignored : ∀ entry ∈ entries.reverse, entry.IsAside id :=
    fun entry member => each entry (List.mem_reverse.mp member)
  -- By induction on the entries, the oldest first, since that is how the report reads them.
  generalize entries.reverse = added at ignored
  induction added with
  | nil => rfl
  | cons entry rest inductionHypothesis =>
      obtain ⟨first, others⟩ := List.forall_mem_cons.mp ignored
      rw [List.foldl_cons, first]
      exact inductionHypothesis others

/-- The report after a lookup, found or missing as its search came to an end. -/
def Report.tally (report : Report) (inquiry : Inquiry) : Report :=
  match inquiry.scope.find inquiry.path with
  | .ok (.found _) => { report with found := report.found ++ [inquiry.path] }
  | .ok (.missing _) => { report with missing := report.missing ++ [inquiry.path] }
  | .error _ => report

namespace Inquiry

def IsSettled (inquiry : Inquiry) : Prop := ∃ reach, inquiry.scope.find inquiry.path = .ok reach

def isResolved (inquiry : Inquiry) : Bool :=
  match inquiry.scope.find inquiry.path with
  | .ok (.found _) => true
  | _ => false

def isUnresolved (inquiry : Inquiry) : Bool :=
  match inquiry.scope.find inquiry.path with
  | .ok (.missing _) => true
  | _ => false

end Inquiry

/-- The tally in full: the paths resolved and those missing, each in order. -/
theorem Report.foldl_tally (inquiries : List Inquiry) (report : Report) :
    inquiries.foldl tally report =
      ⟨report.found ++ (inquiries.filter (·.isResolved)).map (·.path),
        report.missing ++ (inquiries.filter (·.isUnresolved)).map (·.path)⟩ := by
  induction inquiries generalizing report with
  | nil => simp
  | cons inquiry rest inductionHypothesis =>
      rw [List.foldl_cons, inductionHypothesis]
      rcases found : inquiry.scope.find inquiry.path with fault | value | member <;>
        simp [tally, Inquiry.isResolved, Inquiry.isUnresolved, found]

theorem Report.lookups_foldl_tally {inquiries : List Inquiry}
    (settled : ∀ inquiry ∈ inquiries, inquiry.IsSettled) (report : Report) :
    (inquiries.foldl tally report).lookups = report.lookups + inquiries.length := by
  induction inquiries generalizing report with
  | nil => rfl
  | cons inquiry rest inductionHypothesis =>
      have ⟨⟨reach, found⟩, others⟩ := List.forall_mem_cons.mp settled
      have counted : (report.tally inquiry).lookups = report.lookups + 1 := by
        cases reach with
        | found value => simp [tally, found, lookups, Nat.add_right_comm]
        | missing member => simp [tally, found, lookups, Nat.add_assoc]
      rw [List.foldl_cons, inductionHypothesis others, counted, List.length_cons, Nat.add_assoc,
        Nat.add_comm 1]

/-- An event that the report is called for adds its key. -/
theorem Report.add_called {inquiry : Inquiry} {reach : Reach} {event : Event} (id : String)
    (report : Report) (found : inquiry.scope.find inquiry.path = .ok reach)
    (origin : event.origin = (inquiry.path, reach)) :
    Report.add id report (.called (.report id) event) = report.tally inquiry := by
  cases event with
  | found key value substitute =>
      cases origin
      simp [Report.add, tally, found, Event.isFound, Event.key]
  | missing key member handled substitute =>
      cases origin
      simp [Report.add, tally, found, Event.isFound, Event.key]

namespace Run

variable {α β : Type} {id : String} {family : Nat} {lists : HandlerLists} {run : Run α}
  {next : α → Run β}

/-- If the family has these handlers and the run comes to its end, then it leaves them as they are,
and the lookups that it makes come to an end too and are tallied in the report. -/
def Tallies (id : String) (family : Nat) (lists : HandlerLists)
    (inquiries : Session → List Inquiry) (run : Run α) : Prop :=
  ∀ session value later, session.lists family = lists →
    run.execute session = (.ok value, later) →
    later.lists family = lists ∧
      later.report id = (inquiries session).foldl Report.tally (session.report id) ∧
      ∀ inquiry ∈ inquiries session, inquiry.IsSettled

theorem tallies_of_aside (kept : Keeps (fun session => session.lists family = lists) run)
    (aside : run.Adds (Entry.IsAside id)) : Tallies id family lists (fun _ => []) run := by
  intro session value later listed executed
  have keptLists := kept session listed
  rw [executed] at keptLists
  exact ⟨keptLists, aside.report_eq executed, fun inquiry member => by cases member⟩

theorem Tallies.bind {inquiries : Session → List Inquiry} {others : α → Session → List Inquiry}
    (first : Tallies id family lists inquiries run)
    (rest : ∀ session value later, run.execute session = (.ok value, later) →
      Tallies id family lists (others value) (next value)) :
    Tallies id family lists
      (fun session => inquiries session ++ Inquiry.after run session others) (run >>= next) := by
  intro session value later listed executed
  rw [execute_bind] at executed
  rcases executedFirst : run.execute session with ⟨interrupt | middle, visited⟩
  · rw [executedFirst] at executed
    cases executed
  · rw [executedFirst] at executed
    obtain ⟨listedFirst, reportFirst, settledFirst⟩ :=
      first session middle visited listed executedFirst
    obtain ⟨listedRest, reportRest, settledRest⟩ :=
      rest session middle visited executedFirst visited value later listedFirst executed
    simp only [Inquiry.after, executedFirst]
    refine ⟨listedRest, ?_, List.forall_mem_append.mpr ⟨settledFirst, settledRest⟩⟩
    rw [List.foldl_append, ← reportFirst]
    exact reportRest

theorem Tallies.bind_aside {inquiries : Session → List Inquiry}
    (first : Tallies id family lists inquiries run)
    (rest : ∀ value, Tallies id family lists (fun _ => []) (next value)) :
    Tallies id family lists inquiries (run >>= next) := by
  rw [← Inquiry.append_after_nil inquiries run]
  exact first.bind fun _ value _ _ => rest value

theorem tallies_after {others : α → Session → List Inquiry}
    (first : Tallies id family lists (fun _ => []) run)
    (rest : ∀ session value later, run.execute session = (.ok value, later) →
      Tallies id family lists (others value) (next value)) :
    Tallies id family lists (fun session => Inquiry.after run session others) (run >>= next) :=
  first.bind rest

theorem tallies_forM {visit : Scope → Run Unit} {inquiries : Scope → Session → List Inquiry}
    {scopes : List Scope}
    (each : ∀ scope ∈ scopes, Tallies id family lists (inquiries scope) (visit scope)) :
    Tallies id family lists (Inquiry.each visit inquiries scopes) (scopes.forM visit) := by
  induction scopes with
  | nil => exact tallies_of_aside (keeps_pure ()) (adds_pure ())
  | cons scope others inductionHypothesis =>
      have ⟨first, rest⟩ := List.forall_mem_cons.mp each
      exact first.bind fun _ _ _ _ => inductionHypothesis rest

end Run

namespace Lookup

variable {behaviour : Behaviour} {nested nested' : Lookup} {id : String}

/-- It makes no difference to plain handlers how lookups answer. -/
theorem perform_eq_of_plain {reaction : Reaction} (plain : reaction.IsPlain) (event : Event) :
    perform nested reaction event = perform nested' reaction event := by
  induction reaction generalizing event with
  | done => rfl
  | substitute value next inductionHypothesis => exact inductionHypothesis plain _
  | handle flag next inductionHypothesis => exact inductionHypothesis plain _
  | raise fault => rfl
  | lookup => exact plain.elim
  | edit => exact plain.elim
  | log record next inductionHypothesis => rw [perform, perform, inductionHypothesis plain]
  | remember next inductionHypothesis =>
      rw [perform, perform]
      congr
      funext session
      exact inductionHypothesis session.memory (plain session.memory) event
  | keep value next inductionHypothesis => rw [perform, perform, inductionHypothesis plain]

theorem notify_eq_of_plain {handlers : List Handler}
    (plain : ∀ handler ∈ handlers, handler.IsPlain behaviour) (event : Event) :
    notify behaviour nested handlers event = notify behaviour nested' handlers event := by
  induction handlers generalizing event with
  | nil => rfl
  | cons handler rest inductionHypothesis =>
      have ⟨first, others⟩ := List.forall_mem_cons.mp plain
      have sameCall : call behaviour nested event handler = call behaviour nested' event handler := by
        rw [call, call, perform_eq_of_plain (first event)]
      rw [notify, notify, sameCall]
      congr
      funext left
      exact inductionHypothesis others left

theorem notify_aside {handlers : List Handler}
    (plain : ∀ handler ∈ handlers, handler.IsPlain behaviour)
    (absent : Handler.report id ∉ handlers) (event : Event) :
    Run.Adds (Entry.IsAside id) (notify behaviour nested handlers event) := by
  -- Plain handlers look nothing up, so lookups that never have an answer do as well.
  have unanswered : ∀ scope path,
      Run.Adds (Entry.IsAside id) (bounded behaviour 0 scope path) := fun _ _ => Run.adds_throw _
  rw [notify_eq_of_plain plain]
  apply notify_adds (Entry.isAside_answered id) (Entry.isAside_logged id) unanswered
  intro handler member
  apply Entry.isAside_called
  rintro rfl
  exact absent member

theorem standard_keeps_lists {family : Nat} {lists : HandlerLists}
    (plain : lists.ArePlain behaviour) {scope : Scope} (ofFamily : scope.family = family)
    (path : String) :
    Run.Keeps (fun session => session.lists family = lists) (standard behaviour scope path) := by
  intro session listed
  rw [standard_eq, execute_through, ofFamily, listed]
  cases scope.find path with
  | error fault => exact listed
  | ok reach =>
      have notes : (notify behaviour (bounded behaviour (nestingLimit - 1))
          (lists.of (.ofReach path reach)) (.ofReach path reach)).Notes :=
        notify_notes (plain.of _) _
      obtain ⟨outcome, entries, kept, executed⟩ := notes session.memory
      simp only [Run.execute_map, executed session rfl]
      exact listed

/-- A report inserted among plain handlers is called once for each lookup, unless one of them
raises. -/
theorem report_of_notify {handlers inserted : List Handler} {inquiry : Inquiry} {reach : Reach}
    {session later : Session} {left : Event}
    (isInserted : (Handler.report id).IsInserted handlers inserted)
    (plain : ∀ handler ∈ handlers, handler.IsPlain behaviour)
    (absent : Handler.report id ∉ handlers) (found : inquiry.scope.find inquiry.path = .ok reach)
    (executed : (notify behaviour nested inserted (.ofReach inquiry.path reach)).execute session =
      (.ok left, later)) :
    later.report id = (session.report id).tally inquiry := by
  obtain ⟨earlier, others, rfl, rfl⟩ := isInserted
  have ⟨plainEarlier, plainOthers⟩ := List.forall_mem_append.mp plain
  rw [List.mem_append, not_or] at absent
  obtain ⟨absentEarlier, absentOthers⟩ := absent
  rw [notify_append, Run.execute_bind] at executed
  rcases before : (notify behaviour nested earlier (.ofReach inquiry.path reach)).execute session
    with ⟨interrupt | event, called⟩
  · rw [before] at executed
    cases executed
  · -- However the handlers before it change the event, the report can tell where it came from.
    have origin := notify_yields_origin _ _ session event called before
    rw [Event.origin_ofReach] at origin
    rw [before] at executed
    have noted : (call behaviour nested event (.report id)).execute called =
        (.ok event, called.add [.called (.report id) event]) := rfl
    have stepped : (notify behaviour nested (.report id :: others) event).execute called =
        (notify behaviour nested others event).execute (called.add [.called (.report id) event]) :=
      Run.execute_bind_ok noted
    have continued := stepped.symm.trans executed
    have untouched := (notify_aside plainOthers absentOthers event).report_eq continued
    have earlierReport := (notify_aside plainEarlier absentEarlier _).report_eq before
    rw [untouched, Session.report_add, earlierReport]
    exact Report.add_called id _ found origin

end Lookup

/-- A report that is inserted among plain handlers, and is not listed otherwise. -/
structure Report.IsKept (behaviour : Behaviour) (id : String) (own lists : HandlerLists) :
    Prop where
  inserts : HandlerLists.Inserts (.report id) own lists
  plain : own.ArePlain behaviour
  absentFound : Handler.report id ∉ own.found
  absentMissing : Handler.report id ∉ own.missing

namespace Report.IsKept

variable {behaviour : Behaviour} {id : String} {own lists : HandlerLists}

theorem absent (isKept : IsKept behaviour id own lists) (event : Event) :
    Handler.report id ∉ own.of event := by
  cases event with
  | found key value substitute => exact isKept.absentFound
  | missing key member handled substitute => exact isKept.absentMissing

theorem arePlain (isKept : IsKept behaviour id own lists) : lists.ArePlain behaviour :=
  isKept.inserts.arePlain trivial isKept.plain

theorem standard_tallies (isKept : IsKept behaviour id own lists) (scope : Scope) (path : String) :
    Run.Tallies id scope.family lists (fun session => [⟨scope, path, session⟩])
      (Lookup.standard behaviour scope path) := by
  intro session value later listed executed
  have kept := Lookup.standard_keeps_lists isKept.arePlain rfl path session listed
  rw [executed] at kept
  refine ⟨kept, ?_⟩
  rw [Lookup.standard_eq, Lookup.execute_through, listed] at executed
  cases found : scope.find path with
  | error fault =>
      rw [found] at executed
      cases executed
  | ok reach =>
      simp only [found, Run.execute_map] at executed
      rcases notified : (Lookup.notify behaviour (.bounded behaviour (Lookup.nestingLimit - 1))
        (lists.of (.ofReach path reach)) (.ofReach path reach)).execute session with
        ⟨interrupt | left, after⟩
      · rw [notified] at executed
        cases executed
      · rw [notified] at executed
        cases executed
        refine ⟨?_, List.forall_mem_singleton.mpr ⟨reach, found⟩⟩
        have tallied : after.report id = (session.report id).tally ⟨scope, path, session⟩ :=
          Lookup.report_of_notify (isKept.inserts.of _) (isKept.plain.of _) (isKept.absent _) found
            notified
        exact tallied

end Report.IsKept
end Stencil
