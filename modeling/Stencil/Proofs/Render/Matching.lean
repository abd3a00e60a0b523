import Stencil.Proofs.Lookup.Matching
import Stencil.Proofs.Node.Usage
import Stencil.Proofs.Render.Blocks
import Stencil.Render.Engine

set_option autoImplicit false

/-!
Renders of the same tree compared, in scopes that need not be the same. If the single lookups,
writes and passes over data of one setting match those of another wherever the tree asks for them,
so do the renders of the tree. Rendering goes down from a scope to its children only.
-/

namespace Stencil

/-- The single steps of two settings match, in scopes that are akin and as far as the usage goes.
Children on values that are alike are akin again. -/
structure Setting.Matches (setting setting' : Setting) (usage : Usage)
    (akin : Scope → Scope → Prop) (alike : Value → Value → Prop)
    (related : Session → Session → Prop) : Prop where
  child : ∀ scope scope' value value', akin scope scope' → alike value value' →
    akin (scope.child value) (scope'.child value')
  lookup : ∀ scope scope' path, akin scope scope' → usage.path path →
    Run.Matches related (Option.Rel alike) (setting.lookup scope path) (setting'.lookup scope' path)
  elements : ∀ value value', alike value value' →
    Run.Matches related (Option.Rel (List.Forall₂ alike)) (Run.elements? setting.sorting value)
      (Run.elements? setting'.sorting value')
  condition : ∀ value value', alike value value' →
    Run.Matches related Eq (Run.condition value) (Run.condition value')
  text : ∀ escape value value', alike value value' →
    Node.placeholderText setting.context escape value =
      Node.placeholderText setting'.context escape value'
  emit : ∀ chunk, Run.Matches related Eq (Run.emit chunk) (Run.emit chunk)
  custom : ∀ label scope scope', akin scope scope' → usage.label label →
    Run.Matches related Eq (setting.custom label scope) (setting'.custom label scope')

namespace Node

variable {setting setting' : Setting} {usage : Usage} {akin : Scope → Scope → Prop}
  {alike : Value → Value → Prop} {related : Session → Session → Prop} {scope scope' : Scope}

theorem scopeIf_akin (wanted holds : Bool) (kinship : akin scope scope') :
    List.Forall₂ akin (scopeIf wanted scope holds) (scopeIf wanted scope' holds) := by
  rw [scopeIf, scopeIf]
  split
  · exact .cons kinship .nil
  · exact .nil

theorem bodyScopes_matches (matched : setting.Matches setting' usage akin alike related)
    (kinship : akin scope scope') {value value' : Value} (likeness : alike value value') :
    Run.Matches related (List.Forall₂ akin) (bodyScopes setting.sorting scope value)
      (bodyScopes setting'.sorting scope' value') := by
  rw [bodyScopes, bodyScopes]
  apply (matched.elements value value' likeness).bind
  intro elements elements' likeElements
  cases likeElements with
  | some likeItems =>
      apply Run.matches_pure
      rw [List.forall₂_map_left_iff, List.forall₂_map_right_iff]
      exact likeItems.imp fun item item' likeItem => matched.child _ _ _ _ kinship likeItem
  | none =>
      apply (matched.condition value value' likeness).bind
      rintro holds _ rfl
      apply Run.matches_pure
      exact scopeIf_akin true holds (matched.child _ _ _ _ kinship likeness)

theorem elseScopes_matches (matched : setting.Matches setting' usage akin alike related)
    (kinship : akin scope scope') {found found' : Option Value}
    (likeness : Option.Rel alike found found') :
    Run.Matches related (List.Forall₂ akin) (elseScopes scope found)
      (elseScopes scope' found') := by
  cases likeness with
  | none => exact Run.matches_pure (.cons kinship .nil)
  | some likeness =>
      rw [elseScopes_some, elseScopes_some]
      apply (matched.condition _ _ likeness).map
      rintro holds _ rfl
      exact scopeIf_akin false holds kinship

/-- What was found is shown in scopes that are akin, one by one. -/
theorem blockScopes_matches (matched : setting.Matches setting' usage akin alike related)
    (kinship : akin scope scope') (invert : Bool) {found found' : Option Value}
    (likeness : Option.Rel alike found found') :
    Run.Matches related (List.Forall₂ akin) (blockScopes setting.sorting scope invert found)
      (blockScopes setting'.sorting scope' invert found') := by
  cases invert with
  | true => exact elseScopes_matches matched kinship likeness
  | false =>
      cases likeness with
      | none => exact Run.matches_pure .nil
      | some likeness => exact bodyScopes_matches matched kinship likeness

theorem emitText_matches (matched : setting.Matches setting' usage akin alike related)
    (text : String) : Run.Matches related Eq (emitText text) (emitText text) := by
  rw [emitText]
  split
  · exact Run.matches_pure rfl
  · exact matched.emit text

mutual

theorem generate_matches (matched : setting.Matches setting' usage akin alike related) :
    ∀ (node : Node) (scope scope' : Scope), usage.Covers node → akin scope scope' →
      Run.Matches related Eq (node.generate setting scope) (node.generate setting' scope')
  | .literal text, _, _, _, _ => emitText_matches matched text
  | .placeholder path escape, scope, scope', covers, kinship => by
      have allowed : usage.path path.text := covers (.placeholder path escape) (by simp [iterNodes])
      rw [generate, generate]
      apply (matched.lookup scope scope' path.text kinship allowed).bind
      intro found found' likeFound
      cases likeFound with
      | none => exact Run.matches_pure rfl
      | some likeness =>
          simp only [matched.text _ _ _ likeness]
          apply (Run.matches_ofExcept (Agree.of_eq rfl)).bind
          rintro text _ rfl
          exact emitText_matches matched text
  | .block path invert body, scope, scope', covers, kinship => by
      have ⟨allowed, allowedBody⟩ := covers.body
      rw [generate, generate]
      apply (matched.lookup scope scope' path.text kinship allowed).bind
      intro found found' likeFound
      apply (blockScopes_matches matched kinship invert.truth likeFound).bind
      intro scopes scopes' akinScopes
      apply Run.matches_forM akinScopes
      intro inner inner' akinInner
      exact generateAll_matches matched body inner inner' allowedBody akinInner
  | .sequence children, scope, scope', covers, kinship =>
      generateAll_matches matched children scope scope' covers.children kinship
  | .custom label, scope, scope', covers, kinship =>
      matched.custom label scope scope' kinship (covers (.custom label) (by simp [iterNodes]))

theorem generateAll_matches (matched : setting.Matches setting' usage akin alike related) :
    ∀ (nodes : List Node) (scope scope' : Scope), usage.AllowsAll nodes → akin scope scope' →
      Run.Matches related Eq (generateAll setting nodes scope) (generateAll setting' nodes scope')
  | [], _, _, _, _ => Run.matches_pure rfl
  | node :: rest, scope, scope', allows, kinship => by
      have ⟨covers, allowsRest⟩ := allows.cons
      rw [generateAll, generateAll]
      apply (generate_matches matched node scope scope' covers kinship).bind
      intro _ _ _
      exact generateAll_matches matched rest scope scope' allowsRest kinship

end

end Node

/-- Settings that match write the same node between the same records, if the number of chunks grows
in the same way on both sides. -/
theorem Render.write_matches {setting setting' : Setting} {usage : Usage}
    {akin : Scope → Scope → Prop} {alike : Value → Value → Prop}
    {related : Session → Session → Prop}
    (matched : setting.Matches setting' usage akin alike related)
    (noted : ∀ record, Run.Matches related Eq (Run.record (.logged record))
      (Run.record (.logged record)))
    (sameGrowth : ∀ before before' after after', related before before' → related after after' →
      chunkCount after' - chunkCount before' = chunkCount after - chunkCount before)
    (node : Node) (covers : usage.Covers node) {scope scope' : Scope}
    (kinship : akin scope scope') (sameDepth : scope'.depth = scope.depth) :
    Run.Matches related Eq (write setting node scope) (write setting' node scope') := by
  have sameOpening : opening node scope' = opening node scope := by
    rw [opening, opening, sameDepth]
  rw [write, write, sameOpening]
  apply (noted _).bind
  intro _ _ _
  apply Run.matches_get
  intro before before' holdsBefore
  apply (Node.generate_matches matched node scope scope' covers kinship).bind
  intro _ _ _
  apply Run.matches_get
  intro after after' holdsAfter
  have sameClosing : closing node (chunkCount after' - chunkCount before') =
      closing node (chunkCount after - chunkCount before) := by
    rw [sameGrowth before before' after after' holdsBefore holdsAfter]
  show Run.Matches related Eq (Run.record (closing node (chunkCount after - chunkCount before)))
    (Run.record (closing node (chunkCount after' - chunkCount before')))
  rw [sameClosing]
  exact noted _

/-- Custom nodes do nothing but write their chunks. -/
theorem Kit.custom_matches {kit : Kit} {related : Session → Session → Prop} {scope scope' : Scope}
    {label : String} (emit : ∀ chunk, Run.Matches related Eq (Run.emit chunk) (Run.emit chunk))
    (sameTexts : kit.texts label scope'.chain = kit.texts label scope.chain) :
    Run.Matches related Eq (kit.custom label scope) (kit.custom label scope') := by
  rw [custom, custom, sameTexts]
  apply Run.matches_forM (List.forall₂_same.mpr fun _ _ => rfl)
  rintro chunk _ rfl
  exact emit chunk

end Stencil
