import Stencil.Proofs.Lookup.Matching
import Stencil.Proofs.Value.Streamless

set_option autoImplicit false

/-!
Passes over data without streams. They use nothing up, and it makes no difference to them what has
been used up before, so they match in any two sessions and leave them alone.
-/

namespace Stencil.Run

variable {related : Session → Session → Prop} {sorting : Sorting} {value value' : Value}

theorem matches_elements?_of_streamless (same : value.SameStreamless value') :
    Matches related (Option.Rel (List.Forall₂ Value.SameStreamless)) (elements? sorting value)
      (elements? sorting value') := by
  obtain ⟨rfl, streamless⟩ := same
  have sameElements : ∀ spent, value'.elements? sorting spent = value'.elements? sorting [] :=
    fun _ => Value.elements?_of_not_stream streamless.not_isStream
  intro session session' holds
  rw [execute_elements?, execute_elements?, sameElements session.spent,
    sameElements session'.spent, Value.spends?_of_not_stream streamless.not_isStream]
  cases passed : value'.elements? sorting [] with
  | error fault => exact ⟨.error _, holds⟩
  | ok elements =>
      refine ⟨.ok ?_, holds⟩
      cases elements with
      | none => exact .none
      | some items =>
          exact .some (List.forall₂_same.mpr fun item member =>
            ⟨rfl, streamless.elements? passed item member⟩)

theorem matches_condition_of_streamless (same : value.SameStreamless value') :
    Matches related Eq (condition value) (condition value') := by
  obtain ⟨rfl, streamless⟩ := same
  have sameCondition : ∀ spent, value'.condition spent = value'.condition [] :=
    fun _ => Value.condition_of_not_stream streamless.not_isStream
  intro session session' holds
  rw [execute_condition, execute_condition, sameCondition session.spent,
    sameCondition session'.spent, Value.conditionSpends?_eq_spends?,
    Value.spends?_of_not_stream streamless.not_isStream]
  exact ⟨.of_eq rfl, holds⟩

end Stencil.Run
