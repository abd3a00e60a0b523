import Stencil.Proofs.Lookup.Course
import Stencil.Proofs.Lookup.Nesting
import Stencil.Proofs.Lookup.Notification

set_option autoImplicit false

/-!
Every lookup that comes to an end has a lawful course. The steps of reactions and the turns of
handlers are put together to it from the inside out: nested lookups first, by the bound on nesting.
-/

namespace Stencil.Lookup

/-- The handlers take their turns from this event on, and this is what it comes to: the event as the
last of them leaves it, or what one of them failed with. -/
inductive Turns (behaviour : Behaviour) :
    List Handler → Event → List Turn → Except Interrupt Event → Prop where
  | done {event} : Turns behaviour [] event [] (.ok event)
  | failed {handler rest event steps interrupt} :
      (handler.reaction behaviour event).Takes steps →
      (Turn.mk handler event steps).interrupt? = some interrupt →
      Turns behaviour (handler :: rest) event [.mk handler event steps] (.error interrupt)
  | passed {handler rest event steps turns result} :
      (handler.reaction behaviour event).Takes steps →
      (Turn.mk handler event steps).interrupt? = none →
      Turns behaviour rest ((Turn.mk handler event steps).onEvent event) turns result →
      Turns behaviour (handler :: rest) event (.mk handler event steps :: turns) result

namespace Turns

variable {behaviour : Behaviour} {handlers : List Handler} {first : Event} {turns : List Turn}
  {result : Except Interrupt Event}

theorem map_handler (taken : Turns behaviour handlers first turns result) :
    turns.map Turn.handler <+: handlers := by
  induction taken with
  | done => exact List.prefix_rfl
  | @failed handler rest event steps interrupt takes ended => exact ⟨rest, rfl⟩
  | passed takes unharmed others inductionHypothesis =>
      rw [List.map_cons]
      exact (List.prefix_cons_inj _).mpr inductionHypothesis

/-- Each turn begins with the event as those before it leave it, and only the last one may fail. -/
theorem of_split (taken : Turns behaviour handlers first turns result) :
    ∀ earlier turn later, turns = earlier ++ turn :: later →
      turn.event = earlier.foldl Turn.onEvent first ∧ (later ≠ [] → turn.interrupt? = none) := by
  induction taken with
  | done =>
      intro earlier turn later split
      simp at split
  | failed takes ended =>
      intro earlier turn later split
      cases earlier with
      | nil =>
          obtain ⟨rfl, rfl⟩ := List.cons.inj split
          exact ⟨rfl, fun more => absurd rfl more⟩
      | cons other rest => simp at split
  | passed takes unharmed others inductionHypothesis =>
      intro earlier turn later split
      cases earlier with
      | nil =>
          obtain ⟨rfl, _⟩ := List.cons.inj split
          exact ⟨rfl, fun _ => unharmed⟩
      | cons other rest =>
          obtain ⟨rfl, inRest⟩ := List.cons.inj split
          exact inductionHypothesis rest turn later inRest

theorem takes (taken : Turns behaviour handlers first turns result) :
    ∀ turn ∈ turns, (turn.handler.reaction behaviour turn.event).Takes turn.steps := by
  induction taken with
  | done => simp
  | failed takes ended =>
      intro turn member
      rw [List.mem_singleton.mp member]
      exact takes
  | passed takes unharmed others inductionHypothesis =>
      exact List.forall_mem_cons.mpr ⟨takes, inductionHypothesis⟩

theorem of_unharmed (taken : Turns behaviour handlers first turns result)
    (unharmed : ∀ turn ∈ turns, turn.interrupt? = none) :
    turns.map Turn.handler = handlers ∧ result = .ok (turns.foldl Turn.onEvent first) := by
  induction taken with
  | done => exact ⟨rfl, rfl⟩
  | failed takes ended =>
      rw [unharmed _ List.mem_cons_self] at ended
      cases ended
  | passed takes _ others inductionHypothesis =>
      have ⟨all, same⟩ := inductionHypothesis (List.forall_mem_cons.mp unharmed).2
      exact ⟨by rw [List.map_cons, all]; rfl, same⟩

theorem eq_error_of_mem (taken : Turns behaviour handlers first turns result) {turn : Turn}
    (member : turn ∈ turns) {interrupt : Interrupt} (ended : turn.interrupt? = some interrupt) :
    result = .error interrupt := by
  induction taken with
  | done => cases member
  | failed takes endedSo =>
      rw [List.mem_singleton.mp member, endedSo] at ended
      cases ended
      rfl
  | passed takes unharmed others inductionHypothesis =>
      rcases List.mem_cons.mp member with rfl | inRest
      · rw [unharmed] at ended
        cases ended
      · exact inductionHypothesis inRest

theorem notifies (taken : Turns behaviour handlers first turns result) (scope : Scope)
    (path : String) :
    (Course.mk scope path turns (result.map Event.outcome)).Notifies behaviour handlers first where
  inOrder := taken.map_handler
  shared earlier turn later split := (taken.of_split earlier turn later split).1
  reacts := taken.takes
  undisturbed earlier turn later split := (taken.of_split earlier turn later split).2
  answered unharmed := by
    have ⟨all, same⟩ := taken.of_unharmed unharmed
    exact ⟨all, congrArg (Except.map Event.outcome) same⟩
  failed turn member interrupt ended :=
    congrArg (Except.map Event.outcome) (taken.eq_error_of_mem member ended)

end Turns

/-- What the steps make of the event, or what one of them failed with. -/
def Step.ending (steps : List Step) (event : Event) : Except Interrupt Event :=
  match steps.findSome? Step.interrupt? with
  | some interrupt => .error interrupt
  | none => .ok (steps.foldl Step.onEvent event)

theorem Step.findSome?_of_ending_eq_error {steps : List Step} {event : Event}
    {interrupt : Interrupt} (ended : ending steps event = .error interrupt) :
    steps.findSome? Step.interrupt? = some interrupt := by
  unfold ending at ended
  split at ended
  next other failure =>
      obtain rfl := Except.error.inj ended
      exact failure
  next => cases ended

theorem Step.of_ending_eq_ok {steps : List Step} {event left : Event}
    (passed : ending steps event = .ok left) :
    steps.findSome? Step.interrupt? = none ∧ left = steps.foldl Step.onEvent event := by
  unfold ending at passed
  split at passed
  next => cases passed
  next unharmed => exact ⟨unharmed, (Except.ok.inj passed).symm⟩

theorem Step.ending_answered (scope : Scope) (path : String) (turns : List Turn)
    (result : Except Fault (Option Value)) (steps : List Step) (event : Event) :
    ending (.asked (.mk scope path turns (result.mapError .fault)) :: steps) event =
      ending steps event := by
  cases result <;> rfl

theorem Step.ending_cutShort (scope : Scope) (path : String) (turns : List Turn)
    {interrupt : Interrupt} (noFault : ∀ fault, interrupt ≠ .fault fault) (event : Event) :
    ending [.asked (.mk scope path turns (.error interrupt))] event = .error interrupt := by
  cases interrupt with
  | fault fault => exact absurd rfl (noFault fault)
  | halted | exhausted => rfl

/-- Wherever the lookup comes to an end, it has a lawful course. -/
def HasCourses (behaviour : Behaviour) (lookup : Lookup) : Prop :=
  ∀ scope path session, ((lookup scope path).execute session).1 ≠ .error .exhausted →
    ∃ turns outcome, (lookup scope path).execute session =
        (outcome, session.after (Course.mk scope path turns outcome).happenings) ∧
      AllLawful behaviour session (Course.mk scope path turns outcome).happenings

variable {behaviour : Behaviour} {nested : Lookup}

/-- A reaction is performed step by step. -/
theorem exists_steps (courses : HasCourses behaviour nested) (reaction : Reaction) (event : Event)
    (session : Session)
    (ended : ((perform nested reaction event).execute session).1 ≠ .error .exhausted) :
    ∃ steps, reaction.Takes steps ∧
      (perform nested reaction event).execute session =
        (Step.ending steps event, session.after (Step.allHappenings steps)) ∧
      AllLawful behaviour session (Step.allHappenings steps) := by
  induction reaction generalizing event session with
  | done => exact ⟨[], .done, rfl, allLawful_nil⟩
  | substitute value next inductionHypothesis =>
      obtain ⟨steps, takes, performed, lawful⟩ := inductionHypothesis _ _ ended
      exact ⟨.substituted value :: steps, .substitute takes, performed, lawful⟩
  | handle flag next inductionHypothesis =>
      obtain ⟨steps, takes, performed, lawful⟩ := inductionHypothesis _ _ ended
      exact ⟨.handled flag :: steps, .handle takes, performed, lawful⟩
  | raise fault => exact ⟨[.raised fault], .raise, rfl, allLawful_nil⟩
  | lookup scope path next inductionHypothesis =>
      rw [perform, Run.execute_bind] at ended ⊢
      have course := courses scope path session
      rcases Run.attempt_outcome (nested scope path) session with
        ⟨result, later, attempted, answered⟩ | ⟨interrupt, later, noFault, attempted, answered⟩
      · rw [answered] at course
        rw [attempted] at ended ⊢
        obtain ⟨turns, _, ⟨⟩, lawful⟩ := course (by cases result <;> simp [Except.mapError])
        -- The result is noted, and the handler goes on with it.
        obtain ⟨steps, takes, performed, lawfulRest⟩ := inductionHypothesis result event _ ended
        refine ⟨.asked (.mk scope path turns (result.mapError .fault)) :: steps,
          .answered takes, ?_, ?_⟩
        · rw [Step.allHappenings_answered, Session.after_append, Step.ending_answered]
          exact performed
        · rw [Step.allHappenings_answered]
          exact lawful.append (lawfulRest.cons trivial)
      · rw [answered] at course
        rw [attempted] at ended ⊢
        obtain ⟨turns, _, ⟨⟩, lawful⟩ := course (by simpa using ended)
        -- The lookup is cut short, and the turn with it.
        refine ⟨[.asked (.mk scope path turns (.error interrupt))], .cutShort noFault, ?_, ?_⟩
        · rw [Step.allHappenings_cutShort scope path turns noFault,
            Step.ending_cutShort scope path turns noFault]
        · rw [Step.allHappenings_cutShort scope path turns noFault]
          exact lawful
  | edit family change next inductionHypothesis =>
      obtain ⟨steps, takes, performed, lawful⟩ :=
        inductionHypothesis event (session.changeHandlers family change) ended
      exact ⟨.edited family change :: steps, .edit takes, performed, AllLawful.cons trivial lawful⟩
  | log record next inductionHypothesis =>
      obtain ⟨steps, takes, performed, lawful⟩ :=
        inductionHypothesis event (session.add [.logged record]) ended
      exact ⟨.logged record :: steps, .log takes, performed, AllLawful.cons trivial lawful⟩
  | remember next inductionHypothesis =>
      obtain ⟨steps, takes, performed, lawful⟩ :=
        inductionHypothesis session.memory event session ended
      exact ⟨.remembered session.memory :: steps, .remember takes, performed,
        AllLawful.cons rfl lawful⟩
  | keep value next inductionHypothesis =>
      obtain ⟨steps, takes, performed, lawful⟩ :=
        inductionHypothesis event (session.keeping value) ended
      exact ⟨.kept value :: steps, .keep takes, performed, AllLawful.cons trivial lawful⟩

theorem exists_turns (courses : HasCourses behaviour nested) (handlers : List Handler)
    (event : Event) (session : Session)
    (ended : ((notify behaviour nested handlers event).execute session).1 ≠ .error .exhausted) :
    ∃ turns result, Turns behaviour handlers event turns result ∧
      (notify behaviour nested handlers event).execute session =
        (result, session.after (Turn.allHappenings turns)) ∧
      AllLawful behaviour session (Turn.allHappenings turns) := by
  induction handlers generalizing event session with
  | nil => exact ⟨[], .ok event, .done, rfl, allLawful_nil⟩
  | cons handler rest inductionHypothesis =>
      rw [notify, Run.execute_bind] at ended ⊢
      have called : (call behaviour nested event handler).execute session =
          (perform nested (handler.reaction behaviour event) event).execute
            (session.noting (.noted (.called handler event))) := rfl
      have performing := exists_steps courses (handler.reaction behaviour event) event
        (session.noting (.noted (.called handler event)))
      rw [← called] at performing
      rcases performed : (call behaviour nested event handler).execute session with
        ⟨interrupt | left, later⟩
      · rw [performed] at ended performing
        obtain ⟨steps, takes, same, lawful⟩ := performing ended
        obtain ⟨failure, rfl⟩ := Prod.mk.inj same
        have only : Turn.allHappenings [.mk handler event steps] =
            .noted (.called handler event) :: Step.allHappenings steps :=
          (Turn.allHappenings_cons handler event steps []).trans (List.append_nil _)
        refine ⟨[.mk handler event steps], .error interrupt,
          .failed takes (Step.findSome?_of_ending_eq_error failure.symm), ?_, ?_⟩
        · rw [only]
          rfl
        · rw [only]
          exact AllLawful.cons trivial lawful
      · rw [performed] at ended performing
        obtain ⟨steps, takes, same, lawful⟩ := performing (by simp)
        obtain ⟨passed, rfl⟩ := Prod.mk.inj same
        obtain ⟨unharmed, rfl⟩ := Step.of_ending_eq_ok passed.symm
        obtain ⟨turns, result, others, notified, lawfulRest⟩ := inductionHypothesis _ _ ended
        refine ⟨.mk handler event steps :: turns, result, .passed takes unharmed others, ?_, ?_⟩
        · rw [Turn.allHappenings_cons, Session.after_append]
          exact notified
        · rw [Turn.allHappenings_cons]
          exact AllLawful.append (AllLawful.cons trivial lawful) lawfulRest

theorem bounded_hasCourses (behaviour : Behaviour) (bound : Nat) :
    HasCourses behaviour (bounded behaviour bound) := by
  induction bound with
  | zero =>
      intro scope path session ended
      exact absurd rfl ended
  | succ bound inductionHypothesis =>
      intro scope path session ended
      rw [bounded, execute_through] at ended ⊢
      cases found : scope.find path with
      | error fault =>
          refine ⟨[], .error (.fault fault), rfl, ?_⟩
          apply allLawful_nil.cons
          simp only [Happening.IsLawful, Course.IsLawful, Course.scope, Course.path, found]
          exact ⟨rfl, rfl⟩
      | ok reach =>
          simp only [found] at ended ⊢
          rw [Run.execute_map] at ended ⊢
          obtain ⟨turns, result, taken, notified, lawful⟩ := exists_turns inductionHypothesis
            ((session.lists scope.family).of (.ofReach path reach)) (.ofReach path reach) session
            (by
              intro exhausted
              rw [exhausted] at ended
              exact ended rfl)
          refine ⟨turns, result.map Event.outcome, ?_, ?_⟩
          · rw [notified]
            rfl
          · apply lawful.cons
            have notifies := taken.notifies scope path
            simp only [Happening.IsLawful, Course.IsLawful, Course.scope, Course.path, found]
            cases reach with
            | found value => exact notifies
            | missing member => exact notifies

/-- A lookup that comes to an end has a lawful course, which accounts for its outcome and for all
that is different afterwards. It calls the handlers that were listed for the end of its search, in
their order and each as often as it is listed, with one event that every handler gets as the one
before it left it, up to the first that fails, and then it fails in the same way; otherwise it
answers with what the last one left. All lookups that handlers make in the meantime do the same,
by the lists as changed by then, and what a handler remembers is what was kept last. Where there is
room for more nested lookups, nothing is different. -/
theorem exists_lawful_course (behaviour : Behaviour) (bound : Nat) (scope : Scope) (path : String)
    (session : Session)
    (ended : ((bounded behaviour bound scope path).execute session).1 ≠ .error .exhausted) :
    ∃ course : Course, course.scope = scope ∧ course.path = path ∧
      (bounded behaviour bound scope path).execute session =
        (course.outcome, session.after course.happenings) ∧
      course.IsLawful behaviour session.lists ∧
      AllLawful behaviour session course.happenings ∧
      ∀ wider, bound ≤ wider → (bounded behaviour wider scope path).execute session =
        (bounded behaviour bound scope path).execute session := by
  obtain ⟨turns, outcome, executed, lawful⟩ :=
    bounded_hasCourses behaviour bound scope path session ended
  have own : (Course.mk scope path turns outcome).IsLawful behaviour session.lists :=
    lawful [] _ _ rfl
  exact ⟨.mk scope path turns outcome, rfl, rfl, executed, own, lawful,
    fun wider le => bounded_extends le scope path session ended⟩

/-- Where a name is to be looked up, and a nickname as well. -/
def unnamed : Scope := .root 0 .standard (.ofFields [])

theorem find_unnamed_name : unnamed.find "name" = .ok (.missing "name") := by rfl

/-- The first handler takes itself off the list, puts another one on it, and asks for something
else; the second one knows an answer to everything. -/
def handOver : Behaviour
  | "first", _ =>
      .edit 0 (.removeMissing (.named "first")) <| .edit 0 (.addMissing (.named "third")) <|
        .lookup unnamed "nickname" fun _ => .done
  | "second", _ => .handle true (.substitute (.text "Ada") .done)
  | _, _ => .done

def attended : Session :=
  ⟨[], fun _ => ⟨[], [.named "first", .named "second"]⟩, [], .unlimited, .null⟩

def calledNames (trace : List Entry) : List String :=
  trace.filterMap fun
    | .called handler _ => some handler.label
    | _ => none

def answeredText : Except Interrupt (Option Value) → Option String
  | .ok (some (.text text)) => some text
  | _ => none

theorem eq_of_answeredText_eq_some {answer : Except Interrupt (Option Value)} {text : String}
    (answered : answeredText answer = some text) : answer = .ok (some (.text text)) := by
  unfold answeredText at answered
  split at answered
  · rw [Option.some.inj answered]
  · cases answered

theorem handOver_answers :
    ((bounded handOver 2 unnamed "name").execute attended).1 = .ok (some (.text "Ada")) :=
  eq_of_answeredText_eq_some (by decide +kernel)

theorem handOver_calls :
    calledNames ((bounded handOver 2 unnamed "name").execute attended).2.trace =
      ["first", "second", "third", "second"] := by
  decide +kernel

/-- Both handlers that were listed are called, though the first takes itself off the list; the one
that it adds is called for the lookup that it makes, and not for this one. -/
theorem unnamed_handOver :
    ((bounded handOver 2 unnamed "name").execute attended).1 ≠ .error .exhausted ∧
      calledNames ((bounded handOver 2 unnamed "name").execute attended).2.trace =
        ["first", "second", "third", "second"] ∧
      ∃ course : Course, course.turns.map Turn.handler = [.named "first", .named "second"] ∧
        (bounded handOver 2 unnamed "name").execute attended =
          (.ok (some (.text "Ada")), attended.after course.happenings) ∧
        AllLawful handOver attended course.happenings := by
  have ended : ((bounded handOver 2 unnamed "name").execute attended).1 ≠ .error .exhausted := by
    intro exhausted
    cases handOver_answers.symm.trans exhausted
  refine ⟨ended, handOver_calls, ?_⟩
  obtain ⟨course, sameScope, samePath, accounted, own, all, _⟩ :=
    exists_lawful_course handOver 2 unnamed "name" attended ended
  have answered : course.outcome = .ok (some (.text "Ada")) := by
    rw [← handOver_answers, accounted]
  rw [Course.IsLawful, sameScope, samePath, find_unnamed_name] at own
  refine ⟨course, own.map_handler_of_outcome_eq_ok answered, ?_, all⟩
  rw [← answered]
  exact accounted

/-- One handler asks for something that the other one refuses, goes on all the same, and knows a
visitor again. -/
def visits : Behaviour
  | "refusal", _ => .raise (.runtime "nobody here")
  | "visitors", _ => .lookup { unnamed with family := 1 } "name" fun
      | .ok _ => .done
      | .error _ => .handle true <| .remember fun
          | .null => .keep (.bool true) (.substitute (.text "a stranger") .done)
          | _ => .substitute (.text "a friend") .done
  | _, _ => .done

-- The refusal is caught, and what was kept in the first lookup is there in the second.
example :
    let listed : Session :=
      ⟨[], fun family => ⟨[], [.named (if family = 0 then "visitors" else "refusal")]⟩, [],
        .unlimited, .null⟩
    let first := (bounded visits 2 unnamed "name").execute listed
    let second := (bounded visits 2 unnamed "name").execute first.2
    answeredText first.1 = some "a stranger" ∧ answeredText second.1 = some "a friend" := by
  decide +kernel

end Stencil.Lookup
