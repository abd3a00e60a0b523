import Stencil.Proofs.Lookup.Addition
import Stencil.Proofs.Render.Trace

set_option autoImplicit false

/-!
Accounts of renders, without the records that are kept of them. To write a node is, by its account,
to render it as if nothing had been noted before.
-/

namespace Stencil

/-- The handler called, with the event that it was given. -/
def Entry.call? : Entry → Option (Handler × Event)
  | called handler event => some (handler, event)
  | _ => none

/-- What is to be seen of a render: the chunks of its text, the calls of handlers, and how it
ended. -/
structure Account where
  chunks : List String
  calls : List (Handler × Event)
  ending : Except Interrupt Unit

namespace Account

def of (before : Session) (executed : Except Interrupt Unit × Session) : Account :=
  ⟨Render.chunks (executed.2.since before), (executed.2.since before).filterMap Entry.call?,
    executed.1⟩

theorem of_congr {before before' : Session} {executed executed' : Except Interrupt Unit × Session}
    (sameBefore : before'.newest = before.newest) (sameEnding : executed'.1 = executed.1)
    (sameNewest : executed'.2.newest = executed.2.newest) :
    of before' executed' = of before executed := by
  have sameSince : executed'.2.since before' = executed.2.since before := by
    rw [Session.since, Session.since, sameBefore, sameNewest]
  rw [of, of, sameSince, sameEnding]

end Account

namespace Render

variable {kit : Kit} {behaviour : Behaviour} {context : Context}

theorem writePart_node (setting : Setting) (node : Node) (scope : Scope) :
    writePart setting (.node node) scope = write setting node scope := by
  rw [writePart]
  exact pure_bind node fun found => write setting found scope

theorem filterMap_trace_closed {α : Type} {see : Entry → Option α}
    (blind : ∀ record, see (.logged record) = none) (node : Node)
    (executed : Except Interrupt Unit × Session) :
    (closed node executed).trace.filterMap see = executed.2.trace.filterMap see := by
  rcases executed with ⟨interrupt | _, later⟩
  · rfl
  · simp [closed, Session.trace, Session.add, closing, engineRecord, blind]

/-- What is seen of a node that is written is what is seen when it is rendered without records. -/
theorem filterMap_since_write {α : Type} {see : Entry → Option α}
    (blind : ∀ record, see (.logged record) = none) (node : Node) (scope : Scope)
    (session : Session) :
    (((write (setting kit behaviour context) node scope).execute session).2.since session).filterMap
        see =
      ((node.generate (setting kit behaviour context) scope).execute session.untold).2.trace.filterMap
        see := by
  rw [execute_write, ← filterMap_trace_closed blind node]
  have grown : ((closed node ((node.generate (setting kit behaviour context) scope).execute
      session.untold)).onto (opening node scope :: session.newest)).newest =
        ((closed node ((node.generate (setting kit behaviour context) scope).execute
          session.untold)).newest ++ [opening node scope]) ++ session.newest := by
    simp [Session.onto]
  rw [Session.since_eq_reverse grown]
  simp [Session.trace, opening, engineRecord, blind]

theorem since_untold (session later : Session) : later.since session.untold = later.trace :=
  Session.since_eq_reverse (List.append_nil _).symm

/-- The account of writing a node is that of rendering it as if nothing had been noted before. -/
theorem account_write (behaviour : Behaviour) (context : Context) (node : Node) (scope : Scope)
    (session : Session) :
    Account.of session ((write (setting kit behaviour context) node scope).execute session) =
      Account.of session.untold
        ((node.generate (setting kit behaviour context) scope).execute session.untold) := by
  rw [Account.of, Account.of, since_untold, chunks, chunks, filterMap_since_write (fun _ => rfl),
    filterMap_since_write (fun _ => rfl), execute_write]

end Render
end Stencil
