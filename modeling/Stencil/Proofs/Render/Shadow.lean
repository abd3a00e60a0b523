import Stencil.Proofs.Lookup.Plain
import Stencil.Proofs.Render.Inquiries
import Stencil.Proofs.Render.Simulation

set_option autoImplicit false

/-!
A strict render beside a lenient one. The handler that the strict render adds comes behind all
others, so what those do and leave in the trace is the same in both renders; its own calls are the
only entries that differ, and they are not shown.
-/

namespace Stencil

/-- Whether the entry belongs to the render itself or to a handler that does more than refuse. -/
def Entry.isShown : Entry → Bool
  | .called .strict _ => false
  | _ => true

def shown (trace : List Entry) : List Entry := trace.filter Entry.isShown

theorem Render.chunks_shown (trace : List Entry) : chunks (shown trace) = chunks trace := by
  induction trace with
  | nil => rfl
  | cons entry rest inductionHypothesis =>
      rw [chunks, chunks, shown] at *
      cases visible : entry.isShown with
      | true =>
          rw [List.filter_cons_of_pos visible, List.filterMap_cons, List.filterMap_cons,
            inductionHypothesis]
      | false =>
          have silent : entry.chunk? = none := by
            cases entry with
            | called handler event => rfl
            | _ => cases visible
          rw [List.filter_cons_of_neg (by simp [visible]), List.filterMap_cons_none silent,
            inductionHypothesis]

/-- The same data, the same room for text, the same memory, and the same trace but for calls that
are not shown. -/
structure Session.Alike (session session' : Session) : Prop where
  spent : session'.spent = session.spent
  sink : session'.sink = session.sink
  memory : session'.memory = session.memory
  shown : shown session'.newest = shown session.newest

/-- The session of a strict render beside that of the lenient one, of which `own` are the handlers:
in the strict one, another handler comes behind those. -/
structure Session.Shadows (own : HandlerLists) (session session' : Session) : Prop
    extends Session.Alike session session' where
  lists : session.lists Generator.renderFamily = own
  strictLists : session'.lists Generator.renderFamily = own.attach .strict

namespace Session.Shadows

variable {own : HandlerLists} {session session' : Session}

theorem add (shadows : Shadows own session session') (entries : List Entry) :
    Shadows own (session.add entries) (session'.add entries) where
  spent := shadows.spent
  sink := shadows.sink
  memory := shadows.memory
  shown := by
    show Stencil.shown (entries ++ session'.newest) = Stencil.shown (entries ++ session.newest)
    have same := shadows.shown
    rw [Stencil.shown, Stencil.shown] at *
    rw [List.filter_append, List.filter_append, same]
  lists := shadows.lists
  strictLists := shadows.strictLists

theorem keeping (shadows : Shadows own session session') (value : Value) :
    Shadows own (session.keeping value) (session'.keeping value) :=
  { shadows with memory := rfl }

theorem addStrict (shadows : Shadows own session session') (event : Event) :
    Shadows own session (session'.add [.called .strict event]) :=
  { shadows with shown := shadows.shown }

theorem spending (shadows : Shadows own session session') (stream : Option Nat) :
    Shadows own (session.spending stream) (session'.spending stream) := by
  cases stream with
  | none => exact shadows
  | some id =>
      refine { shadows with spent := ?_ }
      show session'.spent.insert id = session.spent.insert id
      rw [shadows.spent]

end Session.Shadows

theorem Render.chunks_trace (session : Session) :
    chunks session.trace = (chunks session.newest).reverse :=
  List.filterMap_reverse

theorem Session.Alike.chunks {session session' : Session} (alike : Alike session session') :
    Render.chunks session'.newest = Render.chunks session.newest := by
  rw [← Render.chunks_shown, alike.shown, Render.chunks_shown]

namespace Lookup

variable {kit : Kit} {behaviour : Behaviour} {nested : Lookup} {own : HandlerLists}

/-- The handlers that strictness adds for an event. -/
def refusing (event : Event) : List Handler :=
  if event.isFound then [] else [.strict]

theorem of_attach_strict (own : HandlerLists) (event : Event) :
    (own.attach .strict).of event = own.of event ++ refusing event := by
  cases event with
  | found key value substitute => exact (List.append_nil own.found).symm
  | missing key member handled substitute => rfl

theorem execute_notify_strict (event : Event) (session : Session) :
    (notify behaviour nested [.strict] event).execute session =
      (match event with
        | .missing key member false _ => .error (.fault (.keyMissing key member))
        | event => .ok event,
        session.add [.called .strict event]) := by
  cases event with
  | found key value substitute => rfl
  | missing key member handled substitute => cases handled <;> rfl

/-- With plain handlers, the strict handler refuses just the keys that would be answered by
nothing. -/
theorem stopping_simulates_of_reach (plain : own.ArePlain behaviour) {scope : Scope}
    {path : String} {reach : Reach} (found : scope.find path = .ok reach)
    (rendering : scope.family = Generator.renderFamily) :
    Run.Simulates (Session.Shadows own) ((through behaviour nested).stopping scope path)
      (through behaviour nested scope path) := by
  intro session session' shadows
  have heard : session.lists scope.family = own := by
    rw [rendering, shadows.lists]
  have heard' : session'.lists scope.family = own.attach .strict := by
    rw [rendering, shadows.strictLists]
  have noted : (notify behaviour nested (own.of (.ofReach path reach))
      (.ofReach path reach)).Notes :=
    notify_notes (plain.of _) _
  obtain ⟨outcome, entries, kept, executed⟩ := noted session.memory
  have later := (shadows.add entries).keeping kept
  rw [stopping, Run.execute_bind, execute_through, execute_through]
  simp only [found, heard, heard', of_attach_strict, notify_append, Run.execute_map,
    Run.execute_bind, executed session rfl, executed session' shadows.memory]
  cases outcome with
  | error interrupt => exact ⟨rfl, later⟩
  | ok left =>
      have sameOrigin := notify_yields_origin _ _ session left _ (executed session rfl)
      rw [Event.origin_ofReach] at sameOrigin
      cases left with
      | found key value substitute =>
          cases sameOrigin
          exact ⟨rfl, later⟩
      | missing key member handled substitute =>
          cases sameOrigin
          -- The added handler comes last and sees the event as the others left it.
          have called := later.addStrict (.missing path member handled substitute)
          show _ = Except.map _ ((notify behaviour nested [.strict] _).execute _).1 ∧
            Session.Shadows own _ ((notify behaviour nested [.strict] _).execute _).2
          rw [execute_notify_strict]
          cases handled with
          | true => exact ⟨rfl, called⟩
          | false =>
              refine ⟨?_, called⟩
              have named : scope.missingMember path = member := by
                rw [Scope.missingMember, found]
              rw [named]
              rfl

theorem stopping_simulates (plain : own.ArePlain behaviour) (scope : Scope) (path : String)
    (rendering : scope.family = Generator.renderFamily) :
    Run.Simulates (Session.Shadows own) ((standard behaviour).stopping scope path)
      (standard behaviour scope path) := by
  rw [standard_eq]
  cases found : scope.find path with
  | error fault =>
      intro session session' shadows
      rw [stopping, Run.execute_bind, execute_through, execute_through]
      simp only [found]
      exact ⟨trivial, shadows⟩
  | ok reach => exact stopping_simulates_of_reach plain found rendering

end Lookup

namespace Render

variable {kit : Kit} {behaviour : Behaviour} {own : HandlerLists}

theorem emit_shadows (chunk : String) :
    Run.Simulates (Session.Shadows own) (Run.emit chunk) (Run.emit chunk) := by
  apply Run.simulates_emit
  · intro session session' shadows
    exact shadows.sink
  · intro entry session session' shadows
    exact ⟨rfl, shadows.add [entry]⟩
  · intro sink session session' shadows
    exact { shadows with sink := rfl }

theorem stopping_setting_simulates (plain : own.ArePlain behaviour) (kit : Kit)
    (context : Context) :
    (setting kit behaviour context).stopping.Simulates (setting kit behaviour context)
      (fun scope => scope.family = Generator.renderFamily) (Session.Shadows own) where
  child _ _ rendering := rendering
  context := rfl
  sorting := rfl
  spent _ _ shadows := shadows.spent
  lookup scope path rendering := Lookup.stopping_simulates plain scope path rendering
  spend stream session session' shadows := by
    rw [Run.execute_spend, Run.execute_spend]
    exact ⟨rfl, shadows.spending stream⟩
  emit := emit_shadows
  custom label scope _ := Kit.custom_simulates emit_shadows label scope

/-- Writing strictly is writing without strictness, stopped at the first miss. -/
theorem write_shadows (plain : own.ArePlain behaviour) (kit : Kit) (context : Context)
    (node : Node) {scope : Scope} (rendering : scope.family = Generator.renderFamily) :
    Run.Simulates (Session.Shadows own) (write (setting kit behaviour context).stopping node scope)
      (write (setting kit behaviour context) node scope) := by
  apply write_simulates (stopping_setting_simulates plain kit context) _ _ node rendering
  · intro entry session session' shadows
    exact ⟨rfl, shadows.add [entry]⟩
  · intro session session' shadows
    rw [chunkCount, chunkCount, shadows.chunks]

end Render

end Stencil
