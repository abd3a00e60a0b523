import Stencil.Proofs.Lookup.Inquiry
import Stencil.Proofs.Node.Usage
import Stencil.Proofs.Render.Blocks
import Stencil.Render.Generator

set_option autoImplicit false

/-!
The lookups of a render, node by node, each with the session in which it is made. A render whose
lookups refuse to go on without an answer is the same render, stopped at the first lookup that is
missed.
-/

namespace Stencil

/-- The setting in which every lookup refuses to go on without an answer. -/
def Setting.stopping (setting : Setting) : Setting :=
  { setting with lookup := setting.lookup.stopping }

namespace Node

mutual

def inquiries (setting : Setting) : Node → Scope → Session → List Inquiry
  | .literal _, _, _ => []
  | .placeholder path _, scope, session => [⟨scope, path.text, session⟩]
  | .block path invert body, scope, session =>
      ⟨scope, path.text, session⟩ ::
        Inquiry.after (setting.lookup scope path.text) session fun found answered =>
          Inquiry.after (blockScopes setting.sorting scope invert.truth found) answered
            fun scopes entered =>
              Inquiry.each (generateAll setting body) (inquiriesAll setting body) scopes entered
  | .sequence children, scope, session => inquiriesAll setting children scope session
  | .custom _, _, _ => []

def inquiriesAll (setting : Setting) : List Node → Scope → Session → List Inquiry
  | [], _, _ => []
  | node :: rest, scope, session =>
      inquiries setting node scope session ++
        Inquiry.after (generate setting node scope) session fun _ later =>
          inquiriesAll setting rest scope later

end

mutual

theorem generate_stopsAt (setting : Setting) :
    ∀ (node : Node) (scope : Scope),
      Run.StopsAt setting.lookup (node.inquiries setting scope) (node.generate setting scope)
        (node.generate setting.stopping scope)
  | .literal _, _ => Run.stopsAt_self _
  | .placeholder path escape, scope => by
      have asked : Run.StopsAt setting.lookup _ _ _ := Run.stopsAt_lookup scope path.text
      rw [generate, generate]
      exact asked.bind_self _
  | .block path invert body, scope => by
      rw [generate, generate]
      apply (Run.stopsAt_lookup scope path.text).bind
      intro found
      refine Run.stopsAt_after (blockScopes setting.sorting scope invert.truth found) fun scopes => ?_
      exact Run.stopsAt_forM (generateAll_stopsAt setting body) scopes
  | .sequence children, scope => generateAll_stopsAt setting children scope
  | .custom _, _ => Run.stopsAt_self _

theorem generateAll_stopsAt (setting : Setting) :
    ∀ (nodes : List Node) (scope : Scope),
      Run.StopsAt setting.lookup (inquiriesAll setting nodes scope)
        (generateAll setting nodes scope) (generateAll setting.stopping nodes scope)
  | [], _ => Run.stopsAt_self _
  | node :: rest, scope => by
      rw [generateAll, generateAll]
      exact (generate_stopsAt setting node scope).bind fun _ =>
        generateAll_stopsAt setting rest scope

end

section Members

variable {setting : Setting} {kept : Scope → Prop} {usage : Usage}

mutual

/-- Where a tree looks something up, what children take over from their scopes holds, and it is
nothing but what the tree may ask for. -/
theorem forall_mem_inquiries (child : ∀ scope value, kept scope → kept (scope.child value)) :
    ∀ (node : Node) (scope : Scope) (session : Session), usage.Covers node → kept scope →
      ∀ inquiry ∈ node.inquiries setting scope session,
        kept inquiry.scope ∧ usage.path inquiry.path
  | .literal _, _, _, _, _ => List.forall_mem_nil _
  | .placeholder path escape, scope, session, covers, holds =>
      List.forall_mem_singleton.mpr ⟨holds, covers (.placeholder path escape) List.mem_cons_self⟩
  | .block path invert body, scope, session, covers, holds => by
      refine List.forall_mem_cons.mpr ⟨⟨holds, covers.body.1⟩, ?_⟩
      refine Inquiry.forall_mem_after fun found answered _ => ?_
      refine Inquiry.forall_mem_after fun scopes entered executed => ?_
      refine Inquiry.forall_mem_each (fun inner shown session' => ?_) entered
      have own : kept inner := by
        obtain rfl | ⟨value, rfl⟩ := mem_blockScopes executed shown
        · exact holds
        · exact child scope value holds
      exact forall_mem_inquiriesAll child body inner session' covers.body.2 own
  | .sequence children, scope, session, covers, holds =>
      forall_mem_inquiriesAll child children scope session covers.children holds
  | .custom _, _, _, _, _ => List.forall_mem_nil _

theorem forall_mem_inquiriesAll (child : ∀ scope value, kept scope → kept (scope.child value)) :
    ∀ (nodes : List Node) (scope : Scope) (session : Session), usage.AllowsAll nodes →
      kept scope →
      ∀ inquiry ∈ inquiriesAll setting nodes scope session,
        kept inquiry.scope ∧ usage.path inquiry.path
  | [], _, _, _, _ => List.forall_mem_nil _
  | node :: rest, scope, session, allows, holds =>
      List.forall_mem_append.mpr ⟨forall_mem_inquiries child node scope session allows.cons.1 holds,
        Inquiry.forall_mem_after fun _ later _ =>
          forall_mem_inquiriesAll child rest scope later allows.cons.2 holds⟩

end

end Members

end Node

namespace Render

def inquiries (setting : Setting) (node : Node) (scope : Scope) (session : Session) :
    List Inquiry :=
  Inquiry.after (Run.record (opening node scope)) session fun _ opened =>
    node.inquiries setting scope opened

theorem write_stopsAt (setting : Setting) (node : Node) (scope : Scope) :
    Run.StopsAt setting.lookup (inquiries setting node scope) (write setting node scope)
      (write setting.stopping node scope) := by
  refine Run.stopsAt_after (Run.record (opening node scope)) fun _ => ?_
  refine Run.stopsAt_after (get : Run Session) fun before => ?_
  exact (Node.generate_stopsAt setting node scope).bind_self _

end Render

namespace Generator

def inquiries (generator : Generator) (kit : Kit) (behaviour : Behaviour)
    (source : Value) (provider : Provider) (session : Session) : List Inquiry :=
  Inquiry.after (Run.ofExcept (generator.createContext provider)) session fun context started =>
    Inquiry.after (generator.createScope source) started fun scope ready =>
      Render.inquiries (Render.setting kit behaviour context) generator.root scope ready

def renderStopping (generator : Generator) (kit : Kit) (behaviour : Behaviour)
    (source : Value) (provider : Provider) : Run Unit := do
  let context ← Run.ofExcept (generator.createContext provider)
  let scope ← generator.createScope source
  Render.write (Render.setting kit behaviour context).stopping generator.root scope

theorem renderTo_stopsAt (generator : Generator) (kit : Kit) (behaviour : Behaviour)
    (source : Value) (provider : Provider) :
    Run.StopsAt (Lookup.standard behaviour) (generator.inquiries kit behaviour source provider)
      (generator.renderTo kit behaviour source provider)
      (generator.renderStopping kit behaviour source provider) := by
  refine Run.stopsAt_after (Run.ofExcept (generator.createContext provider)) fun context => ?_
  refine Run.stopsAt_after (generator.createScope source) fun scope => ?_
  exact Render.write_stopsAt (Render.setting kit behaviour context) generator.root scope

end Generator
end Stencil
