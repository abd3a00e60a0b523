import Mathlib.Data.List.Forall2
import Stencil.Resolve.Path

set_option autoImplicit false

/-!
Results that agree. Two computations agree if they fail for the same reason or have results that are
alike. A registry that resolves segments on alike values to alike members also walks from alike
values along a path to alike ends.
-/

namespace Stencil

theorem optionRel_refl {α : Type} {alike : α → α → Prop} (reflexive : ∀ value, alike value value)
    (found : Option α) : Option.Rel alike found found := by
  cases found with
  | none => exact .none
  | some value => exact .some (reflexive value)

/-- Computations in a row have a result only if each has one. -/
theorem exists_of_bind_eq_ok {Failure α β : Type} {result : Except Failure α}
    {next : α → Except Failure β} {value : β} (executed : (result >>= next) = .ok value) :
    ∃ middle, result = .ok middle ∧ next middle = .ok value := by
  cases result with
  | error failure => cases executed
  | ok middle => exact ⟨middle, rfl, executed⟩

/-- Computations in a row fail with the first of them or after it. -/
theorem eq_error_of_bind {Failure α β : Type} {result : Except Failure α}
    {next : α → Except Failure β} {failure : Failure}
    (failed : (result >>= next) = .error failure) :
    result = .error failure ∨ ∃ middle, result = .ok middle ∧ next middle = .error failure := by
  cases result with
  | error own =>
      cases failed
      exact .inl rfl
  | ok middle => exact .inr ⟨middle, rfl, failed⟩

/-- A failure in other words is a failure. -/
theorem exists_of_mapError_eq_error {Failure Other α : Type} {result : Except Failure α}
    {name : Failure → Other} {other : Other} (failed : result.mapError name = .error other) :
    ∃ failure, result = .error failure ∧ other = name failure := by
  cases result with
  | error failure => exact ⟨failure, rfl, (Except.error.inj failed).symm⟩
  | ok value => cases failed

/-- The same failure, or results that are alike. -/
inductive Agree {Failure α β : Type} (alike : α → β → Prop) :
    Except Failure α → Except Failure β → Prop where
  | ok {value value'} : alike value value' → Agree alike (.ok value) (.ok value')
  | error (failure : Failure) : Agree alike (.error failure) (.error failure)

namespace Agree

variable {Failure α β γ δ : Type} {alike : α → β → Prop} {alike' : γ → δ → Prop}
  {result : Except Failure α} {result' : Except Failure β}

theorem eq {result result' : Except Failure α} (agree : Agree Eq result result') :
    result = result' := by
  cases agree with
  | ok same => rw [same]
  | error failure => rfl

theorem refl {alike : α → α → Prop} (reflexive : ∀ value, alike value value)
    (result : Except Failure α) : Agree alike result result := by
  cases result with
  | ok value => exact .ok (reflexive value)
  | error failure => exact .error failure

theorem of_eq {result result' : Except Failure α} (same : result = result') :
    Agree Eq result result' := by
  subst same
  exact refl (fun _ => rfl) result

theorem imp {alike' : α → β → Prop} (agree : Agree alike result result')
    (weaker : ∀ value value', alike value value' → alike' value value') :
    Agree alike' result result' := by
  cases agree with
  | ok likeness => exact .ok (weaker _ _ likeness)
  | error failure => exact .error failure

theorem bind {next : α → Except Failure γ} {next' : β → Except Failure δ}
    (agree : Agree alike result result')
    (others : ∀ value value', alike value value' → Agree alike' (next value) (next' value')) :
    Agree alike' (result >>= next) (result' >>= next') := by
  cases agree with
  | ok likeness => exact others _ _ likeness
  | error failure => exact .error failure

theorem map {transform : α → γ} {transform' : β → δ} (agree : Agree alike result result')
    (others : ∀ value value', alike value value' → alike' (transform value) (transform' value')) :
    Agree alike' (result.map transform) (result'.map transform') := by
  cases agree with
  | ok likeness => exact .ok (others _ _ likeness)
  | error failure => exact .error failure

theorem mapError {Failure' : Type} (transform : Failure → Failure')
    (agree : Agree alike result result') :
    Agree alike (result.mapError transform) (result'.mapError transform) := by
  cases agree with
  | ok likeness => exact .ok likeness
  | error failure => exact .error (transform failure)

end Agree

/-- Alike values, or the same missing member. -/
inductive Reach.Alike (alike : Value → Value → Prop) : Reach → Reach → Prop where
  | found {value value'} : alike value value' → Reach.Alike alike (.found value) (.found value')
  | missing (member : String) : Reach.Alike alike (.missing member) (.missing member)

theorem Reach.Alike.value? {alike : Value → Value → Prop} {reach reach' : Reach}
    (likeness : Reach.Alike alike reach reach') :
    Option.Rel alike reach.value? reach'.value? := by
  cases likeness with
  | found likeness => exact .some likeness
  | missing member => exact .none

namespace Registry

/-- Every segment is resolved alike on alike values. -/
def Respects (registry : Registry) (alike : Value → Value → Prop) : Prop :=
  ∀ value value' segment, alike value value' →
    Agree (Option.Rel alike) (registry.resolve value segment) (registry.resolve value' segment)

variable {registry : Registry} {alike : Value → Value → Prop} {value value' : Value}

theorem walk_agree (respects : registry.Respects alike) (path : List String)
    (likeness : alike value value') :
    Agree (Reach.Alike alike) (registry.walk value path) (registry.walk value' path) := by
  induction path generalizing value value' with
  | nil => exact .ok (.found likeness)
  | cons segment rest inductionHypothesis =>
      rw [walk, walk]
      apply (respects value value' segment likeness).bind
      intro member member' likeMembers
      cases likeMembers with
      | none => exact .ok (.missing segment)
      | some likeMember => exact inductionHypothesis likeMember

end Registry
end Stencil
