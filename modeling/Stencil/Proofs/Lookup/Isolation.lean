import Stencil.Proofs.Lookup.Effect
import Stencil.Proofs.Scope.Resemblance
import Stencil.Proofs.Value.Streamless
import Stencil.Render.Generator

set_option autoImplicit false

/-!
A render of a generator beside one that starts from nothing, with handlers that leave the generator
alone. The handlers of a render are a copy, so what is changed on the generator meanwhile is not
heard. Data without streams reads the same in both.
-/

namespace Stencil

def Event.IsStreamless : Event → Prop
  | .found _ value substitute => value.IsStreamless ∧ substitute.IsStreamless
  | .missing _ _ _ substitute => substitute.IsStreamless

/-- The same event, without a stream in it. -/
def Event.SameStreamless (event event' : Event) : Prop := event' = event ∧ event.IsStreamless

namespace Event

variable {event event' : Event}

theorem IsStreamless.withSubstitute (streamless : event.IsStreamless) {value : Value}
    (streamlessValue : value.IsStreamless) : (event.withSubstitute value).IsStreamless := by
  cases event with
  | found key reached substitute => exact ⟨streamless.1, streamlessValue⟩
  | missing key member handled substitute => exact streamlessValue

theorem IsStreamless.withHandled (streamless : event.IsStreamless) (flag : Bool) :
    (event.withHandled flag).IsStreamless := by
  cases event with
  | found key reached substitute => exact streamless
  | missing key member handled substitute => exact streamless

theorem sameStreamless_ofReach {reach reach' : Reach}
    (likeness : Reach.Alike Value.SameStreamless reach reach') (path : String) :
    SameStreamless (ofReach path reach) (ofReach path reach') := by
  cases likeness with
  | found same =>
      obtain ⟨rfl, streamless⟩ := same
      exact ⟨rfl, streamless, streamless⟩
  | missing member => exact ⟨rfl, .mk id fun part inside => by cases inside⟩

theorem SameStreamless.outcome (same : SameStreamless event event') :
    Option.Rel Value.SameStreamless event.outcome event'.outcome := by
  obtain ⟨rfl, streamless⟩ := same
  apply Value.optionRel_sameStreamless
  intro value answered
  cases event' with
  | found key reached substitute =>
      cases answered
      exact streamless.2
  | missing key member handled substitute =>
      cases handled with
      | false => cases answered
      | true =>
          cases answered
          exact streamless

end Event

/-- No step looks up a key, uses the memory or substitutes a stream. -/
def Reaction.IsContained : Reaction → Prop
  | done | raise _ => True
  | substitute value next => value.IsStreamless ∧ next.IsContained
  | handle _ next | edit _ _ next | log _ next => next.IsContained
  | lookup .. | remember _ | keep .. => False

namespace Reaction.IsContained

variable {reaction : Reaction}

theorem isDirect (contained : reaction.IsContained) : reaction.IsDirect := by
  induction reaction with
  | done | raise fault => trivial
  | lookup | remember | keep => exact contained.elim
  | substitute value next inductionHypothesis => exact inductionHypothesis contained.2
  | handle flag next inductionHypothesis | edit family change next inductionHypothesis
  | log record next inductionHypothesis => exact inductionHypothesis contained

theorem isStreamless_of_ending (contained : reaction.IsContained) {event left : Event}
    (streamless : event.IsStreamless) (ended : reaction.ending event = .ok left) :
    left.IsStreamless := by
  induction reaction generalizing event with
  | done =>
      cases ended
      exact streamless
  | raise fault => cases ended
  | lookup | remember | keep => exact contained.elim
  | substitute value next inductionHypothesis =>
      exact inductionHypothesis contained.2 (streamless.withSubstitute contained.1) ended
  | handle flag next inductionHypothesis =>
      exact inductionHypothesis contained (streamless.withHandled flag) ended
  | edit family change next inductionHypothesis | log record next inductionHypothesis =>
      exact inductionHypothesis contained streamless ended

end Reaction.IsContained

/-- Handlers may substitute, take charge, raise, change handler lists and write records. They look
up no keys and keep nothing in mind, and where they are given no stream they substitute none. -/
def Behaviour.IsContained (behaviour : Behaviour) : Prop :=
  ∀ name event, event.IsStreamless → (behaviour name event).IsContained

theorem Behaviour.IsContained.reaction {behaviour : Behaviour} (contained : behaviour.IsContained)
    (handler : Handler) {event : Event} (streamless : event.IsStreamless) :
    (handler.reaction behaviour event).IsContained := by
  cases handler with
  | named name => exact contained name event streamless
  | strict =>
      cases event with
      | found key value substitute => trivial
      | missing key member handled substitute => cases handled <;> trivial
  | report id => trivial
  | logging level => cases event <;> trivial

/-- The changes that a handler makes to the generator, if the entry is a call. -/
def Entry.changes (behaviour : Behaviour) : Entry → List HandlerChange
  | called handler event => (handler.reaction behaviour event).changes Generator.ownFamily
  | _ => []

def changesOf (behaviour : Behaviour) (trace : List Entry) : List HandlerChange :=
  trace.flatMap (Entry.changes behaviour)

theorem changesOf_notes (behaviour : Behaviour) (handler : Handler) (event : Event) :
    changesOf behaviour (handler.notes behaviour event).reverse =
      (handler.reaction behaviour event).changes Generator.ownFamily := by
  have unchanging : ((handler.reaction behaviour event).records.map Entry.logged).flatMap
      (Entry.changes behaviour) = [] := by
    simp [List.flatMap_map, Entry.changes]
  simp [changesOf, Handler.notes, Entry.changes, unchanging]

/-- A session beside one that started from nothing when a render began: what was noted since is the
same, and the generator, which had the handlers `own` then, has them with the changes made. -/
structure Session.Beside (behaviour : Behaviour) (own : HandlerLists) (older : List Entry)
    (session fresh : Session) : Prop where
  sink : fresh.sink = session.sink
  newest : session.newest = fresh.newest ++ older
  own : session.lists Generator.ownFamily = own.changeAll (changesOf behaviour fresh.trace)

/-- The scopes of both renders have the same handlers. -/
structure Session.RendersBeside (behaviour : Behaviour) (own : HandlerLists) (older : List Entry)
    (session fresh : Session) : Prop extends Session.Beside behaviour own older session fresh where
  lists : fresh.lists Generator.renderFamily = session.lists Generator.renderFamily

namespace Session.RendersBeside

variable {behaviour : Behaviour} {own : HandlerLists} {older : List Entry}
  {session fresh : Session}

theorem addEntry (beside : RendersBeside behaviour own older session fresh) {entry : Entry}
    (unchanging : entry.changes behaviour = []) :
    RendersBeside behaviour own older (session.add [entry]) (fresh.add [entry]) where
  sink := beside.sink
  newest := congrArg (entry :: ·) beside.newest
  own := by
    have sameChanges : changesOf behaviour (fresh.add [entry]).trace =
        changesOf behaviour fresh.trace := by
      simp [changesOf, Session.trace, Session.add, unchanging]
    rw [sameChanges]
    exact beside.own
  lists := beside.lists

/-- The same handler is called in both renders. Only in one does it change the generator. -/
theorem afterCall (beside : RendersBeside behaviour own older session fresh) (handler : Handler)
    (event : Event) :
    RendersBeside behaviour own older
      ((session.changedBy (handler.reaction behaviour event)).add (handler.notes behaviour event))
      ((fresh.changedBy ((handler.reaction behaviour event).without Generator.ownFamily)).add
        (handler.notes behaviour event)) where
  sink := beside.sink
  newest := by
    show handler.notes behaviour event ++ session.newest = _
    rw [beside.newest, ← List.append_assoc]
    rfl
  own := by
    have moreChanges : changesOf behaviour (handler.notes behaviour event ++ fresh.newest).reverse =
        changesOf behaviour fresh.trace ++
          (handler.reaction behaviour event).changes Generator.ownFamily := by
      rw [List.reverse_append, changesOf, List.flatMap_append, ← changesOf_notes]
      rfl
    show (session.lists Generator.ownFamily).changeAll _ =
      own.changeAll (changesOf behaviour (handler.notes behaviour event ++ fresh.newest).reverse)
    rw [moreChanges, HandlerLists.changeAll_append, beside.own]
  lists := by
    show (fresh.lists Generator.renderFamily).changeAll _ =
      (session.lists Generator.renderFamily).changeAll _
    rw [Reaction.changes_without_of_ne _ (by decide), beside.lists]

end Session.RendersBeside

namespace Lookup

variable {behaviour : Behaviour} {nested nested' : Lookup} {own : HandlerLists}
  {older : List Entry} {event event' : Event}

theorem call_matches_beside (contained : behaviour.IsContained) (handler : Handler)
    (same : event.SameStreamless event') :
    Run.Matches (Session.RendersBeside behaviour own older) Event.SameStreamless
      (call behaviour nested event handler)
      (call (behaviour.without Generator.ownFamily) nested' event' handler) := by
  obtain ⟨rfl, streamless⟩ := same
  have reaction := contained.reaction handler streamless
  have bare := reaction.isDirect.without Generator.ownFamily
  rw [← Handler.reaction_without] at bare
  intro session fresh beside
  rw [execute_call reaction.isDirect, execute_call bare, Handler.reaction_without,
    Reaction.ending_without, Handler.notes_without]
  refine ⟨?_, beside.afterCall handler event'⟩
  cases ended : (handler.reaction behaviour event').ending event' with
  | error interrupt => exact .error interrupt
  | ok left => exact .ok ⟨rfl, reaction.isStreamless_of_ending streamless ended⟩

theorem notify_matches_beside (contained : behaviour.IsContained) (handlers : List Handler)
    (same : event.SameStreamless event') :
    Run.Matches (Session.RendersBeside behaviour own older) Event.SameStreamless
      (notify behaviour nested handlers event)
      (notify (behaviour.without Generator.ownFamily) nested' handlers event') := by
  induction handlers generalizing event event' with
  | nil => exact Run.matches_pure same
  | cons handler rest inductionHypothesis =>
      apply (call_matches_beside contained handler same).bind
      intro left left' sameLeft
      exact inductionHypothesis sameLeft

/-- A lookup finds the same, calls the same handlers and is answered in the same way. -/
theorem standard_matches_beside (contained : behaviour.IsContained) {scope scope' : Scope}
    (likeness : scope.Alike Value.SameStreamless scope')
    (rendering : scope.family = Generator.renderFamily)
    (respects : scope.settings.registry.Respects Value.SameStreamless) (path : String) :
    Run.Matches (Session.RendersBeside behaviour own older) (Option.Rel Value.SameStreamless)
      (standard behaviour scope path)
      (standard (behaviour.without Generator.ownFamily) scope' path) := by
  apply (Run.matches_ofExcept (likeness.find_agree respects path)).bind
  intro reach reach' likeReach
  have same := Event.sameStreamless_ofReach likeReach path
  -- The handlers to call are those that the scopes of both renders have by now.
  apply Run.matches_get
  intro session fresh beside
  rw [same.1, likeness.family, rendering, beside.lists]
  apply (notify_matches_beside contained _ ⟨rfl, same.2⟩).bind
  intro final final' sameFinal
  exact Run.matches_pure sameFinal.outcome

end Lookup
end Stencil
