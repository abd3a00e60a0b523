import Stencil.Lookup.Session

set_option autoImplicit false

/-!
Executing runs step by step: what each primitive leaves as outcome and session.
-/

namespace Stencil

/-- The session after a stream is used up. -/
def Session.spending (session : Session) : Option Nat → Session
  | some id => { session with spent := session.spent.insert id }
  | none => session

/-- The session with another sink for the text. -/
def Session.into (session : Session) (sink : Sink) : Session := { session with sink }

@[simp]
theorem Session.spending_none (session : Session) : session.spending none = session := rfl

@[simp]
theorem Session.lists_spending (session : Session) (stream : Option Nat) :
    (session.spending stream).lists = session.lists := by
  cases stream <;> rfl

@[simp]
theorem Session.lists_withLists (session : Session) (family : Nat) (lists : HandlerLists) :
    (session.withLists family lists).lists family = lists := if_pos rfl

theorem Session.lists_withLists_of_ne {family other : Nat} (differs : other ≠ family)
    (session : Session) (lists : HandlerLists) :
    (session.withLists family lists).lists other = session.lists other := if_neg differs

namespace Run

variable {α β : Type} {run : Run α} {next : α → Run β} {session later : Session}

theorem execute_pure (value : α) (session : Session) :
    (pure value : Run α).execute session = (.ok value, session) := rfl

@[simp]
theorem execute_get (session : Session) :
    (get : Run Session).execute session = (.ok session, session) := rfl

theorem execute_bind (run : Run α) (next : α → Run β) (session : Session) :
    (run >>= next).execute session =
      match run.execute session with
      | (.ok value, later) => (next value).execute later
      | (.error interrupt, later) => (.error interrupt, later) := by
  simp only [execute, ExceptT.run, StateT.run, bind, ExceptT.bind, ExceptT.mk, StateT.bind,
    ExceptT.bindCont]
  rcases run session with ⟨outcome | outcome, later⟩ <;> rfl

theorem execute_bind_ok {value : α} (first : run.execute session = (.ok value, later)) :
    (run >>= next).execute session = (next value).execute later := by
  rw [execute_bind, first]

theorem execute_bind_error {interrupt : Interrupt}
    (first : run.execute session = (.error interrupt, later)) :
    (run >>= next).execute session = (.error interrupt, later) := by
  rw [execute_bind, first]

@[simp]
theorem execute_map (transform : α → β) (run : Run α) (session : Session) :
    (transform <$> run).execute session =
      ((run.execute session).1.map transform, (run.execute session).2) := by
  rw [← bind_pure_comp, execute_bind]
  rcases run.execute session with ⟨outcome | outcome, later⟩ <;> rfl

/-- A fault becomes a result; what else cuts a run short still does. -/
theorem execute_attempt (run : Run α) (session : Session) :
    (attempt run).execute session =
      match run.execute session with
      | (.ok value, later) => (.ok (.ok value), later)
      | (.error (.fault fault), later) => (.ok (.error fault), later)
      | (.error interrupt, later) => (.error interrupt, later) := by
  simp only [attempt, execute, ExceptT.run, ExceptT.mk, StateT.run, bind, StateT.bind]
  rcases run session with ⟨(fault | _ | _) | value, later⟩ <;> rfl

/-- A run is cut short, or the attempt has a result. -/
theorem attempt_outcome (run : Run α) (session : Session) :
    (∃ result later, (attempt run).execute session = (.ok result, later) ∧
        run.execute session = (result.mapError .fault, later)) ∨
      ∃ interrupt later, (∀ fault, interrupt ≠ .fault fault) ∧
        (attempt run).execute session = (.error interrupt, later) ∧
        run.execute session = (.error interrupt, later) := by
  rw [execute_attempt]
  rcases run.execute session with ⟨(fault | _ | _) | value, later⟩
  · exact .inl ⟨.error fault, later, rfl, rfl⟩
  · exact .inr ⟨.halted, later, nofun, rfl, rfl⟩
  · exact .inr ⟨.exhausted, later, nofun, rfl, rfl⟩
  · exact .inl ⟨.ok value, later, rfl, rfl⟩

@[simp]
theorem execute_ofExcept (result : Except Fault α) (session : Session) :
    (ofExcept result).execute session = (result.mapError .fault, session) := by
  cases result <;> rfl

@[simp]
theorem execute_ofExcept_ok (value : α) (session : Session) :
    (ofExcept (.ok value)).execute session = (.ok value, session) := rfl

@[simp]
theorem execute_record (entry : Entry) (session : Session) :
    (record entry).execute session = (.ok (), { session with newest := entry :: session.newest }) :=
  rfl

@[simp]
theorem execute_spend (stream : Option Nat) (session : Session) :
    (spend stream).execute session = (.ok (), session.spending stream) := by
  cases stream <;> rfl

/-- A pass over a value uses up a stream only if it comes to an end. -/
theorem execute_elements? (sorting : Sorting) (value : Value) (session : Session) :
    (elements? sorting value).execute session =
      match value.elements? sorting session.spent with
      | .ok items => (.ok items, session.spending value.spends?)
      | .error fault => (.error (.fault fault), session) := by
  rw [elements?, execute_bind, execute_get]
  show ((ofExcept _) >>= _).execute session = _
  rw [execute_bind, execute_ofExcept]
  cases value.elements? sorting session.spent with
  | error fault => rfl
  | ok items =>
      show (spend value.spends? >>= _).execute session = _
      rw [execute_bind, execute_spend]
      rfl

theorem execute_condition (value : Value) (session : Session) :
    (condition value).execute session =
      ((value.condition session.spent).mapError .fault,
        session.spending value.conditionSpends?) := by
  rw [condition, execute_bind, execute_get]
  show (spend value.conditionSpends? >>= _).execute session = _
  rw [execute_bind, execute_spend]
  exact execute_ofExcept _ _

end Run
end Stencil
