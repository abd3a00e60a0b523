import Stencil.Proofs.Lookup.Observation
import Stencil.Proofs.Render.Simulation
import Stencil.Proofs.Render.Tally

set_option autoImplicit false

/-!
Reports and logs do not disturb a render. With one of them among plain handlers a render writes the
same text, calls the others for the same events and ends in the same way. What the report has
recorded then are just the lookups made.
-/

namespace Stencil.Render

variable {kit : Kit} {behaviour : Behaviour} {observer : Handler} {family : Nat}
  {own watched : HandlerLists}

theorem emit_simulates_watched (chunk : String) :
    Run.Simulates (Session.Watched behaviour observer family own watched) (Run.emit chunk)
      (Run.emit chunk) := by
  apply Run.simulates_emit
  · intro session session' related
    exact related.sink
  · intro entry session session' related
    exact ⟨rfl, related.add [entry]⟩
  · intro sink session session' related
    exact { related with sink := rfl }

theorem setting_simulates_watched (watching : observer.IsObserver) (plain : own.ArePlain behaviour)
    (inserts : HandlerLists.Inserts observer own watched) (kit : Kit) (context : Context) :
    (setting kit behaviour context).Simulates (setting kit behaviour context)
      (fun scope => scope.family = family)
      (Session.Watched behaviour observer family own watched) where
  child _ _ ofFamily := ofFamily
  context := rfl
  sorting := rfl
  spent _ _ related := related.spent
  lookup scope path ofFamily :=
    Lookup.standard_simulates_watched watching plain inserts scope path ofFamily
  spend stream session session' related := by
    rw [Run.execute_spend, Run.execute_spend]
    exact ⟨rfl, related.spending stream⟩
  emit := emit_simulates_watched
  custom label scope _ := Kit.custom_simulates emit_simulates_watched label scope

theorem write_simulates_watched (watching : observer.IsObserver) (plain : own.ArePlain behaviour)
    (inserts : HandlerLists.Inserts observer own watched) (kit : Kit) (context : Context)
    (node : Node) {scope : Scope} (ofFamily : scope.family = family) :
    Run.Simulates (Session.Watched behaviour observer family own watched)
      (write (setting kit behaviour context) node scope)
      (write (setting kit behaviour context) node scope) := by
  apply write_simulates (setting_simulates_watched watching plain inserts kit context) _ _ node ofFamily
  · intro entry session session' related
    exact ⟨rfl, related.add [entry]⟩
  · intro session session' related
    rw [chunkCount, chunkCount, related.noted.chunks_eq]

/-- A render that comes to its end leaves in the report what was there and the paths of its lookups,
each counted once. -/
theorem report_of_write {id : String} {lists : HandlerLists}
    (isKept : Report.IsKept behaviour id own lists) (context : Context) (node : Node)
    {scope : Scope} {session : Session} (listed : session.lists scope.family = lists)
    (ended : ((write (setting kit behaviour context) node scope).execute session).1 = .ok ()) :
    let later := ((write (setting kit behaviour context) node scope).execute session).2
    let inquiries := Render.inquiries (setting kit behaviour context) node scope session
    (later.report id).found =
        (session.report id).found ++ (inquiries.filter (·.isResolved)).map (·.path) ∧
      (later.report id).missing =
        (session.report id).missing ++ (inquiries.filter (·.isUnresolved)).map (·.path) ∧
      (later.report id).lookups = (session.report id).lookups + inquiries.length := by
  rcases executed : (write (setting kit behaviour context) node scope).execute session with
    ⟨outcome, later⟩
  rw [executed] at ended
  obtain ⟨_, tallied, settled⟩ := write_tallies isKept node scope session () later listed
    (executed.trans (congrArg (·, later) ended))
  have counted := Report.lookups_foldl_tally settled (session.report id)
  rw [← tallied] at counted
  rw [Report.foldl_tally] at tallied
  refine ⟨?_, ?_, counted⟩
  · exact congrArg Report.found tallied
  · exact congrArg Report.missing tallied

/-- Wherever a report or a log is inserted among plain handlers, a render writes the same chunks,
calls all other handlers for the same events and ends in the same way; all else in the trace are the
notes of the observer. If the render comes to its end, a report that is listed only there has the
paths that were resolved and those that were not, in order, and counts each time that a placeholder
or a block was come to. -/
theorem write_observed (watching : observer.IsObserver) (plain : own.ArePlain behaviour)
    (inserts : HandlerLists.Inserts observer own watched) (kit : Kit) (context : Context)
    (node : Node) (scope : Scope) (session : Session) :
    let bare := (write (setting kit behaviour context) node scope).execute
      (session.withLists scope.family own)
    let observed := (write (setting kit behaviour context) node scope).execute
      (session.withLists scope.family watched)
    observed.1 = bare.1 ∧
      chunks observed.2.trace = chunks bare.2.trace ∧
      (∀ other, other ≠ observer →
        eventsOf other observed.2.trace = eventsOf other bare.2.trace) ∧
      Noted behaviour observer bare.2.newest observed.2.newest ∧
      ∀ id, observer = .report id → observer ∉ own.found → observer ∉ own.missing →
        observed.1 = .ok () →
        let inquiries := Render.inquiries (setting kit behaviour context) node scope
          (session.withLists scope.family watched)
        (observed.2.report id).found =
            (session.report id).found ++ (inquiries.filter (·.isResolved)).map (·.path) ∧
          (observed.2.report id).missing =
            (session.report id).missing ++ (inquiries.filter (·.isUnresolved)).map (·.path) ∧
          (observed.2.report id).lookups = (session.report id).lookups + inquiries.length := by
  -- The runs stay spelled out: the kernel would execute a named one to compare it with another.
  dsimp only
  have listed : ∀ lists, (session.withLists scope.family lists).lists scope.family = lists :=
    session.lists_withLists scope.family
  have start : Session.Watched behaviour observer scope.family own watched
      (session.withLists scope.family own) (session.withLists scope.family watched) :=
    ⟨rfl, rfl, rfl, .refl _, listed own, listed watched⟩
  have ⟨sameEnding, related⟩ :=
    write_simulates_watched watching plain inserts kit context node rfl _ _ start
  refine ⟨sameEnding.symm, related.chunks_trace, fun other others => related.eventsOf_trace others,
    related.noted, ?_⟩
  intro id isReport absentFound absentMissing ended
  rw [isReport] at inserts absentFound absentMissing
  have isKept : Report.IsKept behaviour id own watched :=
    ⟨inserts, plain, absentFound, absentMissing⟩
  have reports := report_of_write isKept context node (listed watched) ended
  rwa [Session.report_withLists] at reports

def drinks : Node :=
  .block ⟨"drinks", by decide⟩ (.bool false)
    [.placeholder ⟨"drink", by decide⟩ (.bool false), .placeholder ⟨"cost", by decide⟩ (.bool false)]

/-- Tea costs something, and nothing is said of water. -/
def drinkCard : Scope :=
  .root Generator.renderFamily .standard (.ofFields
    [("drinks", .list [.ofFields [("drink", .text "tea"), ("cost", .text "3")],
      .ofFields [("drink", .text "water")]])])

def gratis : Behaviour := fun _ _ => .handle true (.substitute (.text "free") .done)

def served (lists : HandlerLists) : Except Interrupt Unit × Session :=
  (write (setting .labelling gratis ⟨.standard, .absent, .none⟩) drinks drinkCard).execute
    (Session.initial.withLists drinkCard.family lists)

/-- The report has all lookups, and the missing cost although it was taken care of. -/
theorem drinks_observed :
    let own : HandlerLists := ⟨[.logging 10], [.named "gratis"]⟩
    let watched : HandlerLists := ⟨[.report "menu", .logging 10], [.named "gratis", .report "menu"]⟩
    own.ArePlain gratis ∧ HandlerLists.Inserts (.report "menu") own watched ∧
      (served watched).1 = .ok () ∧
      chunks (served watched).2.trace = ["tea", "3", "water", "free"] ∧
      ((served watched).2.report "menu").found = ["drinks", "drink", "cost", "drink"] ∧
      ((served watched).2.report "menu").missing = ["cost"] := by
  intro own watched
  have plain : own.ArePlain gratis := by
    constructor
    · intro handler member event
      rw [List.mem_singleton.mp member]
      cases event <;> trivial
    · intro handler member event
      rw [List.mem_singleton.mp member]
      trivial
  have inserts : HandlerLists.Inserts (.report "menu") own watched :=
    ⟨⟨[], [.logging 10], rfl, rfl⟩, ⟨[.named "gratis"], [], rfl, rfl⟩⟩
  have ended : (served watched).1 = .ok () := by
    have succeeds : (served watched).1.toBool = true := by decide +kernel
    cases ending : (served watched).1 with
    | error interrupt =>
        rw [ending] at succeeds
        cases succeeds
    | ok done => rfl
  have watching : Handler.IsObserver (.report "menu") := trivial
  obtain ⟨_, sameChunks, _, _, reports⟩ := write_observed watching plain inserts
    .labelling ⟨.standard, .absent, .none⟩ drinks drinkCard .initial
  obtain ⟨found, missing, _⟩ := reports "menu" rfl (by decide) (by decide) ended
  refine ⟨plain, inserts, ended, ?_, ?_, ?_⟩
  · refine sameChunks.trans ?_
    decide +kernel
  · refine found.trans ?_
    decide +kernel
  · refine missing.trans ?_
    decide +kernel

end Stencil.Render
