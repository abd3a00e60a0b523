import Stencil.Proofs.Lookup.Plain

set_option autoImplicit false

/-!
What a reaction comes to. One that looks no key up and has no use for memory is told by what it
makes of the event, by the changes that it makes to the lists of each family, and by the records
that it writes, up to the point where it raises.
-/

namespace Stencil

def HandlerLists.changeAll (lists : HandlerLists) (changes : List HandlerChange) : HandlerLists :=
  changes.foldl HandlerLists.change lists

theorem HandlerLists.changeAll_append (lists : HandlerLists) (first second : List HandlerChange) :
    lists.changeAll (first ++ second) = (lists.changeAll first).changeAll second :=
  List.foldl_append

namespace Reaction

/-- No step looks up a key or uses the memory. -/
def IsDirect : Reaction → Prop
  | done | raise _ => True
  | substitute _ next | handle _ next | edit _ _ next | log _ next => next.IsDirect
  | lookup .. | remember _ | keep .. => False

/-- What becomes of the event, before anything is looked up. -/
def ending : Reaction → Event → Except Interrupt Event
  | done, event | lookup .., event | remember _, event => .ok event
  | substitute value next, event => next.ending (event.withSubstitute value)
  | handle flag next, event => next.ending (event.withHandled flag)
  | raise fault, _ => .error (.fault fault)
  | edit _ _ next, event | log _ next, event | keep _ next, event => next.ending event

def changes (family : Nat) : Reaction → List HandlerChange
  | done | raise _ | lookup .. | remember _ => []
  | substitute _ next | handle _ next | log _ next | keep _ next => next.changes family
  | edit other change next =>
      if other = family then change :: next.changes family else next.changes family

def records : Reaction → List LogRecord
  | done | raise _ | lookup .. | remember _ => []
  | substitute _ next | handle _ next | edit _ _ next | keep _ next => next.records
  | log record next => record :: next.records

/-- The reaction without its changes to the lists of a family. -/
def without (family : Nat) : Reaction → Reaction
  | done => .done
  | substitute value next => .substitute value (next.without family)
  | handle flag next => .handle flag (next.without family)
  | raise fault => .raise fault
  | lookup scope path next => .lookup scope path fun result => (next result).without family
  | edit other change next =>
      if other = family then next.without family else .edit other change (next.without family)
  | log record next => .log record (next.without family)
  | remember next => .remember fun kept => (next kept).without family
  | keep value next => .keep value (next.without family)

variable {reaction : Reaction} {family : Nat}

theorem IsDirect.without (direct : reaction.IsDirect) (family : Nat) :
    (reaction.without family).IsDirect := by
  induction reaction with
  | done | raise fault => trivial
  | lookup | remember | keep => exact direct.elim
  | substitute value next inductionHypothesis | handle flag next inductionHypothesis
  | log record next inductionHypothesis => exact inductionHypothesis direct
  | edit other change next inductionHypothesis =>
      rw [Reaction.without]
      split
      · exact inductionHypothesis direct
      · exact inductionHypothesis direct

@[simp]
theorem ending_without (reaction : Reaction) (family : Nat) (event : Event) :
    (reaction.without family).ending event = reaction.ending event := by
  induction reaction generalizing event with
  | done | raise fault | lookup | remember => rfl
  | substitute value next inductionHypothesis => exact inductionHypothesis _
  | handle flag next inductionHypothesis => exact inductionHypothesis _
  | log record next inductionHypothesis | keep value next inductionHypothesis =>
      exact inductionHypothesis event
  | edit other change next inductionHypothesis =>
      rw [Reaction.without]
      split
      · exact inductionHypothesis event
      · exact inductionHypothesis event

@[simp]
theorem records_without (reaction : Reaction) (family : Nat) :
    (reaction.without family).records = reaction.records := by
  induction reaction with
  | done | raise fault | lookup | remember => rfl
  | substitute value next inductionHypothesis | handle flag next inductionHypothesis
  | keep value next inductionHypothesis => exact inductionHypothesis
  | log record next inductionHypothesis => exact congrArg (record :: ·) inductionHypothesis
  | edit other change next inductionHypothesis =>
      rw [Reaction.without]
      split
      · exact inductionHypothesis
      · exact inductionHypothesis

theorem changes_without_of_ne (reaction : Reaction) {other : Nat} (differs : other ≠ family) :
    (reaction.without family).changes other = reaction.changes other := by
  induction reaction with
  | done | raise fault | lookup | remember => rfl
  | substitute value next inductionHypothesis | handle flag next inductionHypothesis
  | log record next inductionHypothesis | keep value next inductionHypothesis =>
      exact inductionHypothesis
  | edit edited change next inductionHypothesis =>
      rw [Reaction.without, changes]
      split
      next same => rw [if_neg (same ▸ differs.symm), inductionHypothesis]
      next => rw [changes, inductionHypothesis]

end Reaction

/-- The behaviour of handlers that leave the lists of a family alone. -/
def Behaviour.without (behaviour : Behaviour) (family : Nat) : Behaviour :=
  fun name event => (behaviour name event).without family

theorem Handler.reaction_without (behaviour : Behaviour) (family : Nat) (handler : Handler)
    (event : Event) :
    handler.reaction (behaviour.without family) event =
      (handler.reaction behaviour event).without family := by
  cases handler with
  | named name => rfl
  | strict =>
      cases event with
      | found key value substitute => rfl
      | missing key member handled substitute => cases handled <;> rfl
  | report id => rfl
  | logging level => cases event <;> rfl

/-- What a handler notes that is direct, newest first: its records, behind the call. -/
def Handler.notes (behaviour : Behaviour) (handler : Handler) (event : Event) : List Entry :=
  ((handler.reaction behaviour event).records.map Entry.logged).reverse ++ [.called handler event]

theorem Handler.notes_without (behaviour : Behaviour) (family : Nat) (handler : Handler)
    (event : Event) :
    handler.notes (behaviour.without family) event = handler.notes behaviour event := by
  rw [notes, notes, reaction_without, Reaction.records_without]

def Session.changedBy (session : Session) (reaction : Reaction) : Session :=
  { session with lists := fun family => (session.lists family).changeAll (reaction.changes family) }

theorem Session.changedBy_edit (session : Session) (family : Nat) (change : HandlerChange)
    (next : Reaction) :
    session.changedBy (.edit family change next) =
      (session.changeHandlers family change).changedBy next := by
  have sameLists : ∀ other, (session.lists other).changeAll
      ((Reaction.edit family change next).changes other) =
        ((session.changeHandlers family change).lists other).changeAll (next.changes other) := by
    intro other
    by_cases same : family = other
    · subst same
      simp [Reaction.changes, changeHandlers, withLists, HandlerLists.changeAll]
    · have differs : other ≠ family := fun equal => same equal.symm
      simp [Reaction.changes, changeHandlers, withLists, same, differs]
  simp only [changedBy, sameLists]
  rfl

namespace Lookup

variable {behaviour : Behaviour} {nested : Lookup}

theorem execute_perform {reaction : Reaction} (direct : reaction.IsDirect) (event : Event)
    (session : Session) :
    (perform nested reaction event).execute session =
      (reaction.ending event,
        (session.changedBy reaction).add (reaction.records.map Entry.logged).reverse) := by
  induction reaction generalizing event session with
  | done | raise fault => rfl
  | lookup | remember | keep => exact direct.elim
  | substitute value next inductionHypothesis => exact inductionHypothesis direct _ session
  | handle flag next inductionHypothesis => exact inductionHypothesis direct _ session
  | edit family change next inductionHypothesis =>
      rw [Session.changedBy_edit]
      exact inductionHypothesis direct event (session.changeHandlers family change)
  | log record next inductionHypothesis =>
      have written : (Run.record (.logged record)).execute session =
          (.ok (), session.add [.logged record]) := rfl
      rw [perform, Run.execute_bind_ok written, inductionHypothesis direct event]
      simp [Reaction.ending, Reaction.records, Session.changedBy, Session.add, Reaction.changes]

theorem execute_call {event : Event} {handler : Handler}
    (direct : (handler.reaction behaviour event).IsDirect) (session : Session) :
    (call behaviour nested event handler).execute session =
      ((handler.reaction behaviour event).ending event,
        (session.changedBy (handler.reaction behaviour event)).add
          (handler.notes behaviour event)) := by
  have noted : (Run.record (.called handler event)).execute session =
      (.ok (), session.add [.called handler event]) := rfl
  rw [call, Run.execute_bind_ok noted, execute_perform direct]
  simp [Session.changedBy, Session.add, Handler.notes]

end Lookup
end Stencil
