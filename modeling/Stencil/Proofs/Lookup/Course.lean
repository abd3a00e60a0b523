import Stencil.Proofs.Lookup.Plain

set_option autoImplicit false

/-!
The course of a lookup: which handlers are called at its own level, with which event, and which
steps each of them takes. A step may be a lookup, which has a course of its own. A course is lawful
if it calls the handlers that were listed when its search was over, in their order, with one event
that passes from each to the next, until one of them fails.
-/

namespace Stencil.Lookup

mutual

inductive Course where
  | mk (scope : Scope) (path : String) (turns : List Turn)
      (outcome : Except Interrupt (Option Value))

/-- A call of a handler, with the event as it was then. -/
inductive Turn where
  | mk (handler : Handler) (event : Event) (steps : List Step)

inductive Step where
  | substituted (value : Value)
  | handled (flag : Bool)
  | raised (fault : Fault)
  | asked (course : Course)
  | edited (family : Nat) (change : HandlerChange)
  | logged (record : LogRecord)
  | remembered (value : Value)
  | kept (value : Value)

end

namespace Course

def scope : Course → Scope
  | mk scope .. => scope

def path : Course → String
  | mk _ path .. => path

def turns : Course → List Turn
  | mk _ _ turns _ => turns

def outcome : Course → Except Interrupt (Option Value)
  | mk _ _ _ outcome => outcome

end Course

namespace Step

def onEvent (event : Event) : Step → Event
  | substituted value => event.withSubstitute value
  | handled flag => event.withHandled flag
  | _ => event

/-- A handler that refuses ends its turn. A fault in a lookup of its own does not, as it may go on
all the same. -/
def interrupt? : Step → Option Interrupt
  | raised fault => some (.fault fault)
  | asked course =>
      match course.outcome with
      | .ok _ | .error (.fault _) => none
      | .error interrupt => some interrupt
  | _ => none

end Step

namespace Turn

def handler : Turn → Handler
  | mk handler .. => handler

def event : Turn → Event
  | mk _ event _ => event

def steps : Turn → List Step
  | mk _ _ steps => steps

def onEvent (event : Event) (turn : Turn) : Event := turn.steps.foldl Step.onEvent event

def interrupt? (turn : Turn) : Option Interrupt := turn.steps.findSome? Step.interrupt?

end Turn

/-- What happens in a lookup, one thing after the other. -/
inductive Happening where
  | began (course : Course)
  | noted (entry : Entry)
  | edited (family : Nat) (change : HandlerChange)
  | remembered (value : Value)
  | kept (value : Value)

mutual

def Course.happenings : Course → List Happening
  | .mk scope path turns outcome =>
      .began (.mk scope path turns outcome) :: Turn.allHappenings turns

def Turn.happenings : Turn → List Happening
  | .mk handler event steps => .noted (.called handler event) :: Step.allHappenings steps

/-- A lookup that a handler makes is noted when it is over. -/
def Step.happenings : Step → List Happening
  | .substituted _ | .handled _ | .raised _ => []
  | .asked course =>
      course.happenings ++
        match course.outcome with
        | .ok answer => [.noted (.answered course.path (.ok answer))]
        | .error (.fault fault) => [.noted (.answered course.path (.error fault))]
        | .error _ => []
  | .edited family change => [.edited family change]
  | .logged record => [.noted (.logged record)]
  | .remembered value => [.remembered value]
  | .kept value => [.kept value]

def Turn.allHappenings : List Turn → List Happening
  | [] => []
  | turn :: rest => turn.happenings ++ Turn.allHappenings rest

def Step.allHappenings : List Step → List Happening
  | [] => []
  | step :: rest => step.happenings ++ Step.allHappenings rest

end

theorem Step.allHappenings_answered (scope : Scope) (path : String) (turns : List Turn)
    (result : Except Fault (Option Value)) (steps : List Step) :
    allHappenings (.asked (.mk scope path turns (result.mapError .fault)) :: steps) =
      (Course.mk scope path turns (result.mapError .fault)).happenings ++
        .noted (.answered path result) :: allHappenings steps := by
  cases result <;> simp [allHappenings, happenings, Course.outcome, Course.path, Except.mapError]

theorem Step.allHappenings_cutShort (scope : Scope) (path : String) (turns : List Turn)
    {interrupt : Interrupt} (noFault : ∀ fault, interrupt ≠ .fault fault) :
    allHappenings [.asked (.mk scope path turns (.error interrupt))] =
      (Course.mk scope path turns (.error interrupt)).happenings := by
  cases interrupt with
  | fault fault => exact absurd rfl (noFault fault)
  | halted | exhausted => simp [allHappenings, happenings, Course.outcome]

theorem Turn.allHappenings_cons (handler : Handler) (event : Event) (steps : List Step)
    (turns : List Turn) :
    allHappenings (.mk handler event steps :: turns) =
      .noted (.called handler event) :: Step.allHappenings steps ++ allHappenings turns := by
  simp [allHappenings, happenings]

end Stencil.Lookup

namespace Stencil

/-- The steps that a handler takes when it reacts, up to the first that ends its turn. -/
inductive Reaction.Takes : Reaction → List Lookup.Step → Prop where
  | done : Takes .done []
  | substitute {value next steps} :
      Takes next steps → Takes (.substitute value next) (.substituted value :: steps)
  | handle {flag next steps} :
      Takes next steps → Takes (.handle flag next) (.handled flag :: steps)
  | raise {fault} : Takes (.raise fault) [.raised fault]
  | answered {scope path next turns result steps} :
      Takes (next result) steps →
        Takes (.lookup scope path next)
          (.asked (.mk scope path turns (result.mapError .fault)) :: steps)
  | cutShort {scope path next turns interrupt} :
      (∀ fault, interrupt ≠ .fault fault) →
        Takes (.lookup scope path next) [.asked (.mk scope path turns (.error interrupt))]
  | edit {family change next steps} :
      Takes next steps → Takes (.edit family change next) (.edited family change :: steps)
  | log {record next steps} :
      Takes next steps → Takes (.log record next) (.logged record :: steps)
  | remember {next value steps} :
      Takes (next value) steps → Takes (.remember next) (.remembered value :: steps)
  | keep {value next steps} :
      Takes next steps → Takes (.keep value next) (.kept value :: steps)

namespace Session

def noting (session : Session) : Lookup.Happening → Session
  | .began _ | .remembered _ => session
  | .noted entry => session.add [entry]
  | .edited family change => session.changeHandlers family change
  | .kept value => session.keeping value

def after (session : Session) (happenings : List Lookup.Happening) : Session :=
  happenings.foldl noting session

theorem after_append (session : Session) (earlier later : List Lookup.Happening) :
    session.after (earlier ++ later) = (session.after earlier).after later :=
  List.foldl_append

end Session

namespace Lookup

/-- The handlers listed take their turns with one event, as their reactions say. -/
structure Course.Notifies (behaviour : Behaviour) (handlers : List Handler) (first : Event)
    (course : Course) : Prop where
  inOrder : course.turns.map Turn.handler <+: handlers
  shared : ∀ earlier turn later, course.turns = earlier ++ turn :: later →
    turn.event = earlier.foldl Turn.onEvent first
  reacts : ∀ turn ∈ course.turns, (turn.handler.reaction behaviour turn.event).Takes turn.steps
  undisturbed : ∀ earlier turn later, course.turns = earlier ++ turn :: later → later ≠ [] →
    turn.interrupt? = none
  answered : (∀ turn ∈ course.turns, turn.interrupt? = none) →
    course.turns.map Turn.handler = handlers ∧
      course.outcome = .ok (course.turns.foldl Turn.onEvent first).outcome
  failed : ∀ turn ∈ course.turns, ∀ interrupt, turn.interrupt? = some interrupt →
    course.outcome = .error interrupt

/-- If the lookup has an answer, all handlers had their turn. -/
theorem Course.Notifies.map_handler_of_outcome_eq_ok {behaviour : Behaviour}
    {handlers : List Handler} {first : Event} {course : Course}
    (notifies : course.Notifies behaviour handlers first) {answer : Option Value}
    (answered : course.outcome = .ok answer) : course.turns.map Turn.handler = handlers := by
  have unharmed : ∀ turn ∈ course.turns, turn.interrupt? = none := by
    intro turn member
    cases ended : turn.interrupt? with
    | none => rfl
    | some interrupt =>
        rw [notifies.failed turn member interrupt ended] at answered
        cases answered
  exact (notifies.answered unharmed).1

/-- A lookup that begins with the lists given: a failing search calls nobody and fails the lookup,
otherwise the handlers of found keys or those of missing keys are notified. -/
def Course.IsLawful (behaviour : Behaviour) (lists : Nat → HandlerLists) (course : Course) : Prop :=
  match course.scope.find course.path with
  | .error fault => course.turns = [] ∧ course.outcome = .error (.fault fault)
  | .ok (.found value) =>
      course.Notifies behaviour (lists course.scope.family).found (.found course.path value value)
  | .ok (.missing member) =>
      course.Notifies behaviour (lists course.scope.family).missing
        (.missing course.path member false .null)

/-- A lookup is lawful with the lists as they stand when it begins. What a handler remembers is what
was kept last. -/
def Happening.IsLawful (behaviour : Behaviour) (session : Session) : Happening → Prop
  | began course => course.IsLawful behaviour session.lists
  | remembered value => value = session.memory
  | noted _ | edited .. | kept _ => True

/-- All that happens is lawful at its time. -/
def AllLawful (behaviour : Behaviour) (session : Session) (happenings : List Happening) : Prop :=
  ∀ earlier happening later, happenings = earlier ++ happening :: later →
    happening.IsLawful behaviour (session.after earlier)

section AllLawful

variable {behaviour : Behaviour} {session : Session} {happening : Happening}
  {happenings later : List Happening}

theorem allLawful_nil : AllLawful behaviour session [] := by
  intro earlier happening later split
  simp at split

theorem AllLawful.cons (own : happening.IsLawful behaviour session)
    (others : AllLawful behaviour (session.noting happening) happenings) :
    AllLawful behaviour session (happening :: happenings) := by
  intro earlier other later split
  cases earlier with
  | nil =>
      obtain ⟨rfl, _⟩ := List.cons.inj split
      exact own
  | cons first rest =>
      obtain ⟨rfl, inRest⟩ := List.cons.inj split
      exact others rest other later inRest

theorem AllLawful.append (first : AllLawful behaviour session happenings)
    (others : AllLawful behaviour (session.after happenings) later) :
    AllLawful behaviour session (happenings ++ later) := by
  intro earlier other rest split
  rcases List.append_eq_append_iff.mp split with
    ⟨middle, rfl, inLater⟩ | ⟨middle, inFirst, inLater⟩
  · rw [Session.after_append]
    exact others middle other rest inLater
  · cases middle with
    | nil =>
        rw [List.append_nil] at inFirst
        subst inFirst
        exact others [] other rest inLater.symm
    | cons happening more =>
        obtain ⟨rfl, rfl⟩ := List.cons.inj inLater
        exact first earlier other more inFirst

end AllLawful

end Lookup
end Stencil
