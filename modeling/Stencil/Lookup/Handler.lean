import Stencil.Log
import Stencil.Lookup.Event

set_option autoImplicit false

/-!
Handlers and their lists. A handler is known by name, and its reaction to an event is a program of
steps; three ready-made ones are strict about missing keys, keep a report and keep a log.
-/

namespace Stencil

inductive Handler where
  | named (name : String)
  | strict
  | report (id : String)
  | logging (missingLevel : Int)
  deriving DecidableEq, Repr

/-- The handlers of a family of scopes, in order of registration. -/
structure HandlerLists where
  found : List Handler
  missing : List Handler
  deriving DecidableEq, Repr

inductive HandlerChange where
  | addFound (handler : Handler)
  | removeFound (handler : Handler)
  | addMissing (handler : Handler)
  | removeMissing (handler : Handler)
  deriving DecidableEq, Repr

namespace HandlerLists

def empty : HandlerLists := ⟨[], []⟩

/-- Handlers to be called for an event. -/
def of (lists : HandlerLists) (event : Event) : List Handler :=
  if event.isFound then lists.found else lists.missing

/-- A handler that is added again is called again; removing it takes out its first occurrence. -/
def change (lists : HandlerLists) : HandlerChange → HandlerLists
  | .addFound handler => { lists with found := lists.found ++ [handler] }
  | .removeFound handler => { lists with found := lists.found.erase handler }
  | .addMissing handler => { lists with missing := lists.missing ++ [handler] }
  | .removeMissing handler => { lists with missing := lists.missing.erase handler }

def attach (lists : HandlerLists) (handler : Handler) : HandlerLists :=
  match handler with
  | .strict => lists.change (.addMissing handler)
  | _ => (lists.change (.addFound handler)).change (.addMissing handler)

end HandlerLists

/-- What a handler does with an event, step by step. It is told how a lookup of its own ends, be it
with a fault, and it may keep something for later calls. -/
inductive Reaction where
  | done
  | substitute (value : Value) (next : Reaction)
  | handle (flag : Bool) (next : Reaction)
  | raise (fault : Fault)
  | lookup (scope : Scope) (path : String) (next : Except Fault (Option Value) → Reaction)
  | edit (family : Nat) (change : HandlerChange) (next : Reaction)
  | log (record : LogRecord) (next : Reaction)
  | remember (next : Value → Reaction)
  | keep (value : Value) (next : Reaction)

/-- The reactions of handlers by name. -/
abbrev Behaviour := String → Event → Reaction

namespace Handler

/-- The name under which a handler is listed. -/
def label : Handler → String
  | named name => name
  | strict => "StrictKeysObserver"
  | report _ => "RenderReport"
  | logging _ => "LoggingObserver"

def strictReaction : Event → Reaction
  | .missing key member false _ => .raise (.keyMissing key member)
  | _ => .done

def loggingReaction (missingLevel : Int) : Event → Reaction
  | .found key _ _ => .log ⟨"observers", LogRecord.debugLevel, "Key found: " ++ key⟩ .done
  | .missing key member _ _ =>
      .log ⟨"observers", missingLevel,
        "Key not found: " ++ key ++ " (missing member " ++ Text.quoted member ++ ")"⟩ .done

def reaction (behaviour : Behaviour) : Handler → Event → Reaction
  | named name => behaviour name
  | strict => strictReaction
  | report _ => fun _ => .done
  | logging missingLevel => loggingReaction missingLevel

end Handler

end Stencil
