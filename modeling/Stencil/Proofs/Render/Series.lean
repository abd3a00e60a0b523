import Stencil.Proofs.Lookup.Addition
import Stencil.Proofs.Render.Isolation

set_option autoImplicit false

/-!
A generator in use: handlers are added and removed, and texts are rendered, in any order. Nothing of
a render lasts but the changes that its handlers make to the generator, so what a series of calls
comes to is told by the handlers that the generator has at the beginning.
-/

namespace Stencil

namespace Generator

inductive Call where
  | change (change : HandlerChange)
  | render (source : Value) (provider : Provider) (sink : Sink)

/-- What a render comes to: its chunks, how it ended, and all that was noted meanwhile, the calls of
handlers among it. -/
structure Rendering where
  chunks : List String
  ending : Except Interrupt Unit
  noted : List Entry

/-- One render, with the session that it leaves. -/
def rendered (generator : Generator) (kit : Kit) (behaviour : Behaviour) (source : Value)
    (provider : Provider) (sink : Sink) (session : Session) : Rendering × Session :=
  let (result, later) := (generator.attempt kit behaviour source provider sink).execute session
  match result with
  | .ok (chunks, ending) => (⟨chunks, ending, later.since session⟩, later)
  | .error interrupt => (⟨[], .error interrupt, later.since session⟩, later)

/-- The first render of a new generator, which has the handlers given and is not changed by them. -/
def anew (generator : Generator) (kit : Kit) (behaviour : Behaviour) (own : HandlerLists)
    (source : Value) (provider : Provider) (sink : Sink) : Rendering :=
  (generator.rendered kit (behaviour.without ownFamily) source provider sink
    (Session.initial.withLists ownFamily own)).1

/-- A series of calls on one generator: what the renders among them come to, and the session in
the end. -/
def play (generator : Generator) (kit : Kit) (behaviour : Behaviour) :
    List Call → Session → List Rendering × Session
  | [], session => ([], session)
  | .change change :: calls, session =>
      generator.play kit behaviour calls (session.changeHandlers ownFamily change)
  | .render source provider sink :: calls, session =>
      let (rendering, later) := generator.rendered kit behaviour source provider sink session
      let (others, final) := generator.play kit behaviour calls later
      (rendering :: others, final)

/-- The same series on a new generator for each render, which gets the handlers that the one before
would have by then: those that it had, with the changes made by the handlers called. -/
def expected (generator : Generator) (kit : Kit) (behaviour : Behaviour) :
    List Call → HandlerLists → List Rendering × HandlerLists
  | [], own => ([], own)
  | .change change :: calls, own => generator.expected kit behaviour calls (own.change change)
  | .render source provider sink :: calls, own =>
      let rendering := generator.anew kit behaviour own source provider sink
      let changed := own.changeAll (changesOf behaviour rendering.noted)
      let (others, final) := generator.expected kit behaviour calls changed
      (rendering :: others, final)

def Call.IsStreamless : Call → Prop
  | .change _ => True
  | .render source _ _ => source.IsStreamless

variable {generator : Generator} {kit : Kit} {behaviour : Behaviour} {source : Value}

theorem rendered_eq (generator : Generator) (kit : Kit) (behaviour : Behaviour) (source : Value)
    (provider : Provider) (sink : Sink) (session : Session) :
    generator.rendered kit behaviour source provider sink session =
      let (ending, after) :=
        (generator.renderTo kit behaviour source provider).execute (session.into sink)
      (⟨Render.chunks (after.since session), ending, after.since session⟩,
        after.into session.sink) := by
  have attempted : (generator.attempt kit behaviour source provider sink).execute session =
      let (ending, after) :=
        (generator.renderTo kit behaviour source provider).execute (session.into sink)
      (.ok (Render.chunks (after.since session), ending), after.into session.sink) :=
    rfl
  rw [rendered, attempted]
  rfl

/-- A render is that of a new generator with the same handlers. Afterwards the generator has these
handlers, with the changes made by those that were called, and no others. -/
theorem rendered_eq_anew (contained : behaviour.IsContained)
    (respects : generator.registry.Respects Value.SameStreamless)
    (streamless : source.IsStreamless) (kit : Kit) (provider : Provider) (sink : Sink)
    (session : Session) :
    let rendering := generator.anew kit behaviour (session.lists ownFamily) source provider sink
    (generator.rendered kit behaviour source provider sink session).1 = rendering ∧
      (generator.rendered kit behaviour source provider sink session).2.lists ownFamily =
        (session.lists ownFamily).changeAll (changesOf behaviour rendering.noted) := by
  have start : Session.Beside behaviour (session.lists ownFamily) session.newest
      (session.into sink)
      ((Session.initial.withLists ownFamily (session.lists ownFamily)).into sink) := ⟨rfl, rfl, rfl⟩
  have ⟨sameEnding, beside⟩ := renderTo_beside contained respects streamless kit provider start
    (Session.initial.lists_withLists ownFamily _)
  rw [anew, rendered_eq, rendered_eq]
  rcases executed : (generator.renderTo kit behaviour source provider).execute (session.into sink) with
    ⟨ending, after⟩
  rcases executedAnew : (generator.renderTo kit (behaviour.without ownFamily) source provider).execute
    ((Session.initial.withLists ownFamily (session.lists ownFamily)).into sink) with
    ⟨ending', fresh⟩
  rw [executed, executedAnew] at sameEnding beside
  obtain rfl : ending = ending' := sameEnding
  have noted : after.since session = fresh.trace := Session.since_eq_reverse beside.newest
  have notedAnew : fresh.since (Session.initial.withLists ownFamily (session.lists ownFamily)) =
      fresh.trace :=
    Session.since_eq_reverse (List.append_nil _).symm
  simp only [noted, notedAnew]
  exact ⟨trivial, beside.own⟩

/-- A series of calls comes to what is expected of it, in whatever session it begins. -/
theorem play_eq_expected (contained : behaviour.IsContained)
    (respects : generator.registry.Respects Value.SameStreamless) {calls : List Call}
    (streamless : ∀ call ∈ calls, call.IsStreamless) (kit : Kit) (session : Session) :
    (generator.play kit behaviour calls session).1 =
        (generator.expected kit behaviour calls (session.lists ownFamily)).1 ∧
      (generator.play kit behaviour calls session).2.lists ownFamily =
        (generator.expected kit behaviour calls (session.lists ownFamily)).2 := by
  induction calls generalizing session with
  | nil => exact ⟨rfl, rfl⟩
  | cons call rest inductionHypothesis =>
      have ⟨first, others⟩ := List.forall_mem_cons.mp streamless
      cases call with
      | change change =>
          have changed : (session.changeHandlers ownFamily change).lists ownFamily =
              (session.lists ownFamily).change change := session.lists_withLists ownFamily _
          rw [play, expected, ← changed]
          exact inductionHypothesis others _
      | render source provider sink =>
          have ⟨sameRendering, left⟩ :=
            rendered_eq_anew contained respects first kit provider sink session
          have ⟨sameOthers, sameLists⟩ := inductionHypothesis others
            (generator.rendered kit behaviour source provider sink session).2
          rw [left] at sameOthers sameLists
          exact ⟨congrArg₂ List.cons sameRendering sameOthers, sameLists⟩

def welcome : Generator where
  root := .sequence
    [.literal "Welcome ", .placeholder ⟨"guest", by decide⟩ (.bool false),
      .placeholder ⟨"rank", by decide⟩ (.bool false)]
  settings := ⟨.ofFields [("rendering", .ofFields [("strict_keys", .bool true)])]⟩
  formatter := .standard
  registry := .standard
  escaper := .none

def guest : Value := .ofFields [("guest", .text "Ada")]

theorem guest_isStreamless : guest.IsStreamless := by
  refine .mk id fun part member => Value.IsAtom.isStreamless ?_
  have listed : part = .text "guest" ∨ part = .text "Ada" := by
    simpa [guest, Value.ofFields, Value.parts] using member
  rcases listed with rfl | rfl <;> exact ⟨rfl, id⟩

/-- One handler helps out when something is missing, and asks for another to come next time, which
refuses. -/
def reluctant : Behaviour := fun name _ =>
  if name = "help" then
    .handle true (.substitute (.text "?") (.edit ownFamily (.addMissing (.named "refusal")) .done))
  else .raise (.runtime "refused")

theorem reluctant_isContained : reluctant.IsContained := by
  intro name event _
  rw [reluctant]
  split
  · exact ⟨.mk id fun part inside => (by cases inside), trivial⟩
  · trivial

def welcomeTwice : List Call :=
  [.change (.addMissing (.named "help")), .render guest .absent .unlimited,
    .render guest .absent .unlimited]

/-- What the first welcome asks for is not heard before the second. -/
theorem play_welcomeTwice :
    reluctant.IsContained ∧ welcome.registry.Respects Value.SameStreamless ∧
      (∀ call ∈ welcomeTwice, call.IsStreamless) ∧
      (welcome.play .labelling reluctant welcomeTwice .initial).1.map (·.chunks) =
        [["Welcome ", "Ada", "?"], ["Welcome ", "Ada"]] ∧
      (welcome.play .labelling reluctant welcomeTwice .initial).2.lists ownFamily =
        ⟨[], [.named "help", .named "refusal", .named "refusal"]⟩ := by
  have streamless : ∀ call ∈ welcomeTwice, call.IsStreamless := by
    intro call member
    simp only [welcomeTwice, List.mem_cons, List.not_mem_nil, or_false] at member
    rcases member with rfl | rfl | rfl
    · trivial
    · exact guest_isStreamless
    · exact guest_isStreamless
  have respects : welcome.registry.Respects Value.SameStreamless :=
    Registry.standard_respects_sameStreamless
  have ⟨sameRenderings, sameLists⟩ :=
    play_eq_expected reluctant_isContained respects streamless .labelling .initial
  refine ⟨reluctant_isContained, respects, streamless, ?_, ?_⟩
  · rw [sameRenderings]
    decide +kernel
  · rw [sameLists]
    decide +kernel

end Generator
end Stencil
