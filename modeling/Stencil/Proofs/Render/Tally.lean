import Stencil.Proofs.Lookup.Tally
import Stencil.Proofs.Render.Inquiries
import Stencil.Proofs.Render.Keeping
import Stencil.Proofs.Render.Writing

set_option autoImplicit false

/-!
The report of a render. Only placeholders and blocks look keys up, each once whenever it is come to,
so the report of a render that comes to its end is the tally of these lookups.
-/

namespace Stencil

variable {kit : Kit} {behaviour : Behaviour} {context : Context} {id : String} {family : Nat}
  {own lists : HandlerLists}

theorem Render.keeps_emit_of_family (chunk : String) :
    Run.Keeps (fun session => session.lists family = lists) (Run.emit chunk) := fun session listed =>
  (congrFun (Run.keeps_emit_lists session.lists chunk session rfl) family).trans listed

/-- Plain handlers stay as they are during a render. -/
theorem Render.setting_keeps_plain (plain : lists.ArePlain behaviour) (kit : Kit)
    (context : Context) (family : Nat) :
    (setting kit behaviour context).Keeps (fun scope => scope.family = family)
      (fun session => session.lists family = lists) where
  child _ _ same := same
  lookup _ path ofFamily := Lookup.standard_keeps_lists plain ofFamily path
  spend stream session listed :=
    (congrFun (Run.keeps_spend_lists session.lists stream session rfl) family).trans listed
  emit := keeps_emit_of_family
  custom label scope _ := Kit.custom_keeps keeps_emit_of_family label scope

namespace Node

theorem emitText_tallies (text : String) :
    Run.Tallies id family lists (fun _ => []) (emitText text) := by
  apply Run.tallies_of_aside
  · rw [emitText]
    split
    · exact Run.keeps_pure ()
    · exact Render.keeps_emit_of_family text
  · exact emitText_adds fun _ => Entry.isAside_wrote id text

/-- To show what was found takes no further lookup. -/
theorem shown_tallies (escape : Bool) (found : Option Value) :
    Run.Tallies id family lists (fun _ => []) (match found with
      | none => pure ()
      | some value => do emitText (← Run.ofExcept (placeholderText context escape value))) := by
  cases found with
  | none => exact Run.tallies_of_aside (Run.keeps_pure ()) (Run.adds_pure ())
  | some value =>
      have made : Run.Tallies id family lists (fun _ => [])
          (Run.ofExcept (placeholderText context escape value)) := by
        apply Run.tallies_of_aside
        · intro session listed
          rw [Run.execute_ofExcept]
          exact listed
        · exact Run.adds_ofExcept _
      exact made.bind_aside emitText_tallies

mutual

theorem generate_tallies (isKept : Report.IsKept behaviour id own lists) :
    ∀ (node : Node) (scope : Scope),
      Run.Tallies id scope.family lists (node.inquiries (Render.setting kit behaviour context) scope)
        (node.generate (Render.setting kit behaviour context) scope)
  | .literal text, _ => emitText_tallies text
  | .placeholder path escape, scope => by
      rw [generate]
      exact (isKept.standard_tallies scope path.text).bind_aside (shown_tallies escape.truth)
  | .block path invert body, scope => by
      rw [generate]
      apply (isKept.standard_tallies scope path.text).bind
      intro _ found _ _
      have kept := Render.setting_keeps_plain isKept.arePlain kit context scope.family
      have entered : Run.Tallies id scope.family lists (fun _ => [])
          (blockScopes kit.sorting scope invert.truth found) :=
        Run.tallies_of_aside (blockScopes_keeps kept scope rfl invert.truth found)
          (blockScopes_adds kit.sorting scope invert.truth found)
      apply Run.tallies_after entered
      intro _ scopes _ executed
      apply Run.tallies_forM
      intro inner member
      -- The body is evaluated in scopes of the same family, so the same lists are followed there.
      have ofFamily : inner.family = scope.family := by
        rcases mem_blockScopes executed member with rfl | ⟨value, rfl⟩ <;> rfl
      rw [← ofFamily]
      exact generateAll_tallies isKept body inner
  | .sequence children, scope => generateAll_tallies isKept children scope
  | .custom label, scope => by
      have kept := Render.setting_keeps_plain isKept.arePlain kit context scope.family
      apply Run.tallies_of_aside (kept.custom label scope rfl)
      apply Run.adds_forM
      intro chunk _
      exact Run.adds_emit (Entry.isAside_wrote id chunk)

theorem generateAll_tallies (isKept : Report.IsKept behaviour id own lists) :
    ∀ (nodes : List Node) (scope : Scope),
      Run.Tallies id scope.family lists
        (inquiriesAll (Render.setting kit behaviour context) nodes scope)
        (generateAll (Render.setting kit behaviour context) nodes scope)
  | [], _ => Run.tallies_of_aside (Run.keeps_pure ()) (Run.adds_pure ())
  | node :: rest, scope => by
      rw [generateAll]
      exact (generate_tallies isKept node scope).bind fun _ _ _ _ =>
        generateAll_tallies isKept rest scope

end

end Node

/-- Records of the engine are no lookups. -/
theorem Render.engineRecord_tallies (message : String) :
    Run.Tallies id family lists (fun _ => []) (Run.record (engineRecord message)) :=
  Run.tallies_of_aside (fun _ listed => listed) (Run.adds_record (Entry.isAside_logged id _))

theorem Render.write_tallies (isKept : Report.IsKept behaviour id own lists) (node : Node)
    (scope : Scope) :
    Run.Tallies id scope.family lists (inquiries (setting kit behaviour context) node scope)
      (write (setting kit behaviour context) node scope) := by
  have counted : Run.Tallies id scope.family lists (fun _ => []) (get : Run Session) :=
    Run.tallies_of_aside (fun _ listed => listed) (Run.adds_of_same_newest fun _ => rfl)
  apply Run.tallies_after (engineRecord_tallies _)
  intro _ _ _ _
  apply Run.tallies_after counted
  intro _ before _ _
  apply (Node.generate_tallies isKept node scope).bind_aside
  intro _
  exact counted.bind_aside fun after => engineRecord_tallies _

end Stencil
