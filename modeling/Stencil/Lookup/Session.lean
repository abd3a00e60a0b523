import Stencil.Lookup.Handler

set_option autoImplicit false

/-!
What changes while templates are rendered: the streams used up, the handler lists of each family of
scopes, what the handlers keep in memory, and the trace of what happened, newest first. A run may be
cut short by a fault, by a reader who wants no more text, or by handlers that look up keys within
each other without end.
-/

namespace Stencil

inductive Entry where
  | called (handler : Handler) (event : Event)
  | answered (path : String) (result : Except Fault (Option Value))
  | logged (record : LogRecord)
  | wrote (chunk : String)
  /-- The report is kept from here on. -/
  | cleared (report : String)

/-- Where the text goes, and how much of it is taken. -/
inductive Sink where
  | unlimited
  | failingAfter (writes : Nat)
  | haltingAfter (writes : Nat)
  deriving DecidableEq, Repr

structure Session where
  spent : List Nat
  lists : Nat → HandlerLists
  newest : List Entry
  sink : Sink
  memory : Value

inductive Interrupt where
  | fault (fault : Fault)
  | halted
  | exhausted

abbrev Run := ExceptT Interrupt (StateM Session)

namespace Session

def initial : Session := ⟨[], fun _ => .empty, [], .unlimited, .null⟩

def trace (session : Session) : List Entry := session.newest.reverse

def withLists (session : Session) (family : Nat) (lists : HandlerLists) : Session :=
  { session with lists := fun other => if other = family then lists else session.lists other }

def changeHandlers (session : Session) (family : Nat) (change : HandlerChange) : Session :=
  session.withLists family ((session.lists family).change change)

def keeping (session : Session) (memory : Value) : Session := { session with memory }

/-- What was added to the trace since an earlier session. -/
def since (session earlier : Session) : List Entry :=
  (session.newest.take (session.newest.length - earlier.newest.length)).reverse

end Session

namespace Run

/-- The outcome of a run and the session after it. -/
def execute {α : Type} (run : Run α) (session : Session) : Except Interrupt α × Session :=
  (ExceptT.run run).run session

def record (entry : Entry) : Run Unit :=
  modify fun session => { session with newest := entry :: session.newest }

def ofExcept {α : Type} (result : Except Fault α) : Run α :=
  match result with
  | .ok value => pure value
  | .error fault => throw (.fault fault)

/-- What a run results in, or the fault that it ends with. -/
def attempt {α : Type} (run : Run α) : Run (Except Fault α) :=
  ExceptT.mk do
    match ← run.run with
    | .ok value => return .ok (.ok value)
    | .error (.fault fault) => return .ok (.error fault)
    | .error interrupt => return .error interrupt

/-- A stream that is used up stays so. -/
def spend (stream : Option Nat) : Run Unit :=
  match stream with
  | some id => modify fun session => { session with spent := session.spent.insert id }
  | none => pure ()

/-- Goes through a collection once. -/
def elements? (sorting : Sorting) (value : Value) : Run (Option (List Value)) := do
  let items ← ofExcept (value.elements? sorting (← get).spent)
  spend value.spends?
  return items

def condition (value : Value) : Run Bool := do
  let result := value.condition (← get).spent
  spend value.conditionSpends?
  ofExcept result

/-- Writes a chunk. What was written before a refusal stays written. -/
def emit (chunk : String) : Run Unit := do
  match (← get).sink with
  | .unlimited => record (.wrote chunk)
  | .failingAfter 0 => throw (.fault .sinkFull)
  | .failingAfter (left + 1) => do
      record (.wrote chunk)
      modify fun session => { session with sink := .failingAfter left }
  | .haltingAfter left => do
      record (.wrote chunk)
      if left ≤ 1 then throw .halted
      modify fun session => { session with sink := .haltingAfter (left - 1) }

end Run

/-- Chunks written, in order. -/
def Entry.chunk? : Entry → Option String
  | wrote chunk => some chunk
  | _ => none

def Entry.record? : Entry → Option LogRecord
  | logged record => if record.isKept then some record else none
  | _ => none

end Stencil
