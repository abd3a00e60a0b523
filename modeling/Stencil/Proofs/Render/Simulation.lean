import Stencil.Proofs.Lookup.Simulation
import Stencil.Proofs.Render.Matching

set_option autoImplicit false

/-!
Renders in the same scope compared with each other. If the single lookups, writes and passes over
data of one setting simulate those of another, so does the rendering of every tree.
-/

namespace Stencil

/-- The single steps of two settings simulate each other, in scopes of a kind that children
inherit. -/
structure Setting.Simulates (setting setting' : Setting) (kind : Scope → Prop)
    (related : Session → Session → Prop) : Prop where
  child : ∀ scope value, kind scope → kind (scope.child value)
  context : setting'.context = setting.context
  sorting : setting'.sorting = setting.sorting
  spent : ∀ session session', related session session' → session'.spent = session.spent
  lookup : ∀ scope path, kind scope →
    Run.Simulates related (setting.lookup scope path) (setting'.lookup scope path)
  spend : ∀ stream, Run.Simulates related (Run.spend stream) (Run.spend stream)
  emit : ∀ chunk, Run.Simulates related (Run.emit chunk) (Run.emit chunk)
  custom : ∀ label scope, kind scope →
    Run.Simulates related (setting.custom label scope) (setting'.custom label scope)

/-- Settings that simulate each other match, in the same scopes and on the same values. -/
theorem Setting.Simulates.toMatches {setting setting' : Setting} {kind : Scope → Prop}
    {related : Session → Session → Prop} (simulated : setting.Simulates setting' kind related) :
    setting.Matches setting' .any (fun scope scope' => scope' = scope ∧ kind scope) Eq related where
  child := by
    rintro _ scope value _ ⟨rfl, ofKind⟩ rfl
    exact ⟨rfl, simulated.child scope value ofKind⟩
  lookup := by
    rintro _ scope path ⟨rfl, ofKind⟩ _
    apply (Run.simulates_iff_matches.mp (simulated.lookup scope path ofKind)).imp
    rintro found _ rfl
    exact optionRel_refl (fun _ => rfl) found
  elements := by
    rintro value _ rfl
    rw [simulated.sorting]
    exact Run.matches_elements? simulated.spent
      (fun stream => Run.simulates_iff_matches.mp (simulated.spend stream))
      (Value.passedAlike_self fun _ _ _ _ _ _ => rfl)
  condition := by
    rintro value _ rfl
    have passed : value.PassedAlike Eq value := Value.passedAlike_self fun _ _ _ _ _ _ => rfl
    exact Run.matches_condition simulated.spent
      (fun stream => Run.simulates_iff_matches.mp (simulated.spend stream)) passed
  text := by
    rintro escape value _ rfl
    rw [simulated.context]
  emit chunk := Run.simulates_iff_matches.mp (simulated.emit chunk)
  custom := by
    rintro label _ scope ⟨rfl, ofKind⟩ _
    exact Run.simulates_iff_matches.mp (simulated.custom label scope ofKind)

theorem Kit.custom_simulates {kit : Kit} {related : Session → Session → Prop}
    (emit : ∀ chunk, Run.Simulates related (Run.emit chunk) (Run.emit chunk)) (label : String)
    (scope : Scope) : Run.Simulates related (kit.custom label scope) (kit.custom label scope) :=
  Run.simulates_iff_matches.mpr
    (custom_matches (fun chunk => Run.simulates_iff_matches.mp (emit chunk)) rfl)

namespace Node

variable {setting setting' : Setting} {kind : Scope → Prop}
  {related : Session → Session → Prop}

theorem blockScopes_simulates (simulated : setting.Simulates setting' kind related)
    (scope : Scope) (ofKind : kind scope) (invert : Bool) (found : Option Value) :
    Run.Simulates related (blockScopes setting.sorting scope invert found)
      (blockScopes setting'.sorting scope invert found) := by
  have sameFound : Option.Rel Eq found found := optionRel_refl (fun _ => rfl) found
  rw [Run.simulates_iff_matches]
  apply (blockScopes_matches simulated.toMatches ⟨rfl, ofKind⟩ invert sameFound).imp
  intro scopes scopes' akin
  rw [← List.forall₂_eq_eq_eq]
  exact akin.imp fun _ _ sameScope => sameScope.1.symm

theorem generate_simulates (simulated : setting.Simulates setting' kind related) (node : Node)
    (scope : Scope) (ofKind : kind scope) :
    Run.Simulates related (node.generate setting scope) (node.generate setting' scope) :=
  Run.simulates_iff_matches.mpr
    (generate_matches simulated.toMatches node scope scope (Usage.any_covers node) ⟨rfl, ofKind⟩)

theorem generateAll_simulates (simulated : setting.Simulates setting' kind related)
    (nodes : List Node) (scope : Scope) (ofKind : kind scope) :
    Run.Simulates related (generateAll setting nodes scope) (generateAll setting' nodes scope) :=
  Run.simulates_iff_matches.mpr
    (generateAll_matches simulated.toMatches nodes scope scope (Usage.any_allowsAll nodes)
      ⟨rfl, ofKind⟩)

end Node

theorem Render.write_simulates {setting setting' : Setting} {kind : Scope → Prop}
    {related : Session → Session → Prop} (simulated : setting.Simulates setting' kind related)
    (noted : ∀ entry, Run.Simulates related (Run.record entry) (Run.record entry))
    (sameCount : ∀ session session', related session session' →
      chunkCount session' = chunkCount session) (node : Node) {scope : Scope}
    (ofKind : kind scope) :
    Run.Simulates related (write setting node scope) (write setting' node scope) := by
  rw [Run.simulates_iff_matches]
  have logged := fun record => Run.simulates_iff_matches.mp (noted (.logged record))
  apply write_matches simulated.toMatches logged _ node (Usage.any_covers node) ⟨rfl, ofKind⟩ rfl
  intro before before' after after' holdsBefore holdsAfter
  rw [sameCount before before' holdsBefore, sameCount after after' holdsAfter]

end Stencil
