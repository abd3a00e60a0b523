import Stencil.Lookup.Session

set_option autoImplicit false

/-!
Lookups that notify handlers. When a search is over, the handlers registered at that moment are
called in order with one shared event; changes that they make to the lists count for later lookups
only. A handler may look up keys itself, so lookups are given a bound on their nesting.
-/

namespace Stencil

/-- Looks a path up in a scope, notifies, and answers. -/
abbrev Lookup := Scope → String → Run (Option Value)

namespace Lookup

/-- Takes the steps of a reaction and returns the event as they leave it. -/
def perform (nested : Lookup) : Reaction → Event → Run Event
  | .done, event => pure event
  | .substitute value next, event => perform nested next (event.withSubstitute value)
  | .handle flag next, event => perform nested next (event.withHandled flag)
  | .raise fault, _ => throw (.fault fault)
  | .lookup scope path next, event => do
      let result ← Run.attempt (nested scope path)
      Run.record (.answered path result)
      perform nested (next result) event
  | .edit family change next, event => do
      modify fun session => session.changeHandlers family change
      perform nested next event
  | .log record next, event => do
      Run.record (.logged record)
      perform nested next event
  | .remember next, event => do
      perform nested (next (← get).memory) event
  | .keep value next, event => do
      modify fun session => session.keeping value
      perform nested next event

def call (behaviour : Behaviour) (nested : Lookup) (event : Event) (handler : Handler) :
    Run Event := do
  Run.record (.called handler event)
  perform nested (handler.reaction behaviour event) event

def notify (behaviour : Behaviour) (nested : Lookup) : List Handler → Event → Run Event
  | [], event => pure event
  | handler :: rest, event => do
      let left ← call behaviour nested event handler
      notify behaviour nested rest left

/-- A lookup whose handlers look keys up through `nested`. -/
def through (behaviour : Behaviour) (nested : Lookup) : Lookup := fun scope path => do
  let reach ← Run.ofExcept (scope.find path)
  let event := Event.ofReach path reach
  let handlers := ((← get).lists scope.family).of event
  let final ← notify behaviour nested handlers event
  return final.outcome

/-- Lookups nested no deeper than the bound. -/
def bounded (behaviour : Behaviour) : Nat → Lookup
  | 0 => fun _ _ => throw .exhausted
  | bound + 1 => through behaviour (bounded behaviour bound)

/-- The deepest nesting that is followed. -/
def nestingLimit : Nat := 300

def standard (behaviour : Behaviour) : Lookup := bounded behaviour nestingLimit

end Lookup

/-- The keys found and missing since the report was last cleared. -/
structure Report where
  found : List String
  missing : List String
  deriving DecidableEq, Repr

namespace Report

def empty : Report := ⟨[], []⟩

def add (id : String) (report : Report) : Entry → Report
  | .called (.report other) event =>
      if other == id then
        if event.isFound then { report with found := report.found ++ [event.key] }
        else { report with missing := report.missing ++ [event.key] }
      else report
  | .cleared other => if other == id then empty else report
  | _ => report

def ofTrace (id : String) (trace : List Entry) : Report := trace.foldl (add id) empty

def lookups (report : Report) : Nat := report.found.length + report.missing.length

def hasIssues (report : Report) : Bool := !report.missing.isEmpty

end Report
end Stencil
