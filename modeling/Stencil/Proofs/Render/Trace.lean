import Stencil.Proofs.Lookup.Trace
import Stencil.Proofs.Render.Simulation

set_option autoImplicit false

/-!
Rendering does not read the trace either. To write a node is to render it as if nothing had been
noted before, and to put what was noted on top of the earlier trace, between two records.
-/

namespace Stencil.Render

variable {kit : Kit} {behaviour : Behaviour} {context : Context}

theorem setting_simulates_onto (older : List Entry) :
    (setting kit behaviour context).Simulates (setting kit behaviour context) (fun _ => True)
      (Session.IsOnto older) where
  child _ _ _ := trivial
  context := rfl
  sorting := rfl
  spent := by
    rintro session _ rfl
    rfl
  lookup scope path _ := Lookup.bounded_simulates_onto Lookup.nestingLimit scope path
  spend := Run.spend_simulates_onto
  emit := Run.emit_simulates_onto
  custom label scope _ := Kit.custom_simulates Run.emit_simulates_onto label scope

theorem execute_generate_onto (node : Node) (scope : Scope) (session : Session)
    (older : List Entry) :
    (node.generate (setting kit behaviour context) scope).execute (session.onto older) =
      (((node.generate (setting kit behaviour context) scope).execute session).1,
        ((node.generate (setting kit behaviour context) scope).execute session).2.onto older) :=
  (Node.generate_simulates (setting_simulates_onto older) node scope trivial).execute_onto session

theorem chunkCount_onto (session : Session) (older : List Entry) :
    chunkCount (session.onto older) = chunkCount session + (chunks older).length := by
  simp [chunkCount, chunks, Session.onto]

@[simp]
theorem chunkCount_untold (session : Session) : chunkCount session.untold = 0 := rfl

/-- The session after a node was written, if nothing had been noted before: a record behind what was
rendered, unless the render was cut short. -/
def closed (node : Node) : Except Interrupt Unit × Session → Session
  | (.ok _, later) => later.add [closing node (chunkCount later)]
  | (.error _, later) => later

/-- The record behind a render, for which the chunks are counted. -/
theorem execute_closing (node : Node) (before : Nat) (session : Session) :
    (do
      let after := chunkCount (← get)
      Run.record (closing node (after - before)) : Run Unit).execute session =
        (.ok (), session.add [closing node (chunkCount session - before)]) := by
  rw [Run.execute_bind, Run.execute_get]
  exact Run.execute_record _ _

theorem execute_write (node : Node) (scope : Scope) (session : Session) :
    (write (setting kit behaviour context) node scope).execute session =
      (((node.generate (setting kit behaviour context) scope).execute session.untold).1,
        (closed node ((node.generate (setting kit behaviour context) scope).execute
          session.untold)).onto (opening node scope :: session.newest)) := by
  have opened : (Run.record (opening node scope)).execute session =
      (.ok (), session.untold.onto (opening node scope :: session.newest)) := rfl
  rw [write, Run.execute_bind_ok opened, Run.execute_bind, Run.execute_get]
  simp only []
  rw [Run.execute_bind, execute_generate_onto]
  rcases (node.generate (setting kit behaviour context) scope).execute session.untold with
    ⟨interrupt | _, later⟩
  · rfl
  · simp only [closed, execute_closing, chunkCount_onto, chunkCount_untold, Nat.zero_add,
      Nat.add_sub_cancel, Session.add_onto]

end Stencil.Render
