import Stencil.Proofs.Lookup.Plain
import Stencil.Proofs.Render.Simulation

set_option autoImplicit false

/-!
What a render keeps. A property of sessions that single lookups, writes and passes over data keep is
kept by the rendering of every tree.
-/

namespace Stencil

/-- The single steps of a render keep a property of sessions, in scopes of a kind that children
inherit. -/
structure Setting.Keeps (setting : Setting) (kind : Scope → Prop) (property : Session → Prop) :
    Prop where
  child : ∀ scope value, kind scope → kind (scope.child value)
  lookup : ∀ scope path, kind scope → Run.Keeps property (setting.lookup scope path)
  spend : ∀ stream, Run.Keeps property (Run.spend stream)
  emit : ∀ chunk, Run.Keeps property (Run.emit chunk)
  custom : ∀ label scope, kind scope → Run.Keeps property (setting.custom label scope)

/-- A setting whose steps keep a property simulates itself on the sessions that have it. -/
theorem Setting.Keeps.simulates {setting : Setting} {kind : Scope → Prop}
    {property : Session → Prop} (kept : setting.Keeps kind property) :
    setting.Simulates setting kind (Run.Same property) where
  child := kept.child
  context := rfl
  sorting := rfl
  spent _ _ same := by rw [same.1]
  lookup scope path ofKind := Run.keeps_iff_simulates.mp (kept.lookup scope path ofKind)
  spend stream := Run.keeps_iff_simulates.mp (kept.spend stream)
  emit chunk := Run.keeps_iff_simulates.mp (kept.emit chunk)
  custom label scope ofKind := Run.keeps_iff_simulates.mp (kept.custom label scope ofKind)

theorem Kit.custom_keeps {kit : Kit} {property : Session → Prop}
    (emit : ∀ chunk, Run.Keeps property (Run.emit chunk)) (label : String) (scope : Scope) :
    Run.Keeps property (kit.custom label scope) :=
  Run.keeps_iff_simulates.mpr
    (custom_simulates (fun chunk => Run.keeps_iff_simulates.mp (emit chunk)) label scope)

namespace Node

variable {setting : Setting} {kind : Scope → Prop} {property : Session → Prop}

theorem blockScopes_keeps (kept : setting.Keeps kind property) (scope : Scope)
    (ofKind : kind scope) (invert : Bool) (found : Option Value) :
    Run.Keeps property (blockScopes setting.sorting scope invert found) :=
  Run.keeps_iff_simulates.mpr (blockScopes_simulates kept.simulates scope ofKind invert found)

theorem generateAll_keeps (kept : setting.Keeps kind property) (nodes : List Node) (scope : Scope)
    (ofKind : kind scope) : Run.Keeps property (generateAll setting nodes scope) :=
  Run.keeps_iff_simulates.mpr (generateAll_simulates kept.simulates nodes scope ofKind)

end Node

namespace Render

variable {kit : Kit} {behaviour : Behaviour} {context : Context}

/-- Where nobody listens, a render leaves the handler lists alone. -/
theorem setting_keeps_lists {family : Nat} {lists : Nat → HandlerLists}
    (unheard : lists family = .empty) :
    (setting kit behaviour context).Keeps (fun scope => scope.family = family)
      (fun session => session.lists = lists) where
  child _ _ same := same
  lookup scope path same session holds := by
    have silent : session.Unheard scope.family := by
      rw [Session.Unheard, holds, same]
      exact unheard
    rw [setting, Lookup.execute_standard_of_unheard silent]
    exact holds
  spend := Run.keeps_spend_lists lists
  emit := Run.keeps_emit_lists lists
  custom label scope _ := Kit.custom_keeps (Run.keeps_emit_lists lists) label scope

/-- Rendering where nobody listens is not heard afterwards either. -/
theorem unheard_after {scope : Scope} {session : Session} (unheard : session.Unheard scope.family)
    (nodes : List Node) :
    ((Node.generateAll (setting kit behaviour context) nodes scope).execute session).2.Unheard
      scope.family := by
  have kept : ((Node.generateAll (setting kit behaviour context) nodes scope).execute session).2.lists =
      session.lists :=
    Node.generateAll_keeps (setting_keeps_lists unheard) nodes scope rfl session rfl
  rw [Session.Unheard, kept]
  exact unheard

end Render
end Stencil
