import Stencil.Proofs.Scope.Delegation
import Stencil.Proofs.Resolve.Agreement

set_option autoImplicit false

/-!
Scopes whose values are alike one by one. If the resolvers respect the likeness, then a search along
either chain comes to the same end, or to values that are alike.
-/

namespace Stencil

namespace ScopeSettings

variable {settings : ScopeSettings} {alike : Value → Value → Prop}

theorem resolveOwn_agree (respects : settings.registry.Respects alike) {value value' : Value}
    (likeness : alike value value') (segment : String) :
    Agree (Option.Rel alike) (settings.resolveOwn value segment)
      (settings.resolveOwn value' segment) := by
  rw [resolveOwn, resolveOwn]
  split
  · exact .ok (.some likeness)
  · exact respects value value' segment likeness

theorem resolveOutward_agree (respects : settings.registry.Respects alike)
    {chain chain' : List Value} (likeness : List.Forall₂ alike chain chain') (segment : String) :
    Agree (Option.Rel alike) (settings.resolveOutward segment chain)
      (settings.resolveOutward segment chain') := by
  induction likeness with
  | nil => exact .ok .none
  | cons first _ inductionHypothesis =>
      rw [resolveOutward, resolveOutward]
      apply (resolveOwn_agree respects first segment).bind
      intro own own' likeOwn
      cases likeOwn with
      | none => exact inductionHypothesis
      | some likeOwn => exact .ok (.some likeOwn)

end ScopeSettings

namespace Scope

/-- Scopes of one family, with values that are alike from the inside out. -/
structure Alike (alike : Value → Value → Prop) (scope scope' : Scope) : Prop where
  family : scope'.family = scope.family
  settings : scope'.settings = scope.settings
  value : alike scope.value scope'.value
  outer : List.Forall₂ alike scope.outer scope'.outer

namespace Alike

variable {alike : Value → Value → Prop} {scope scope' : Scope}

theorem child (likeness : scope.Alike alike scope') {value value' : Value}
    (likeValue : alike value value') : (scope.child value).Alike alike (scope'.child value') where
  family := likeness.family
  settings := likeness.settings
  value := likeValue
  outer := .cons likeness.value likeness.outer

theorem depth (likeness : scope.Alike alike scope') : scope'.depth = scope.depth :=
  likeness.outer.length_eq.symm

theorem chain (likeness : scope.Alike alike scope') :
    List.Forall₂ alike scope.chain scope'.chain :=
  .cons likeness.value likeness.outer

/-- Where only equal values are alike, so are the chains of values. -/
theorem chain_eq (likeness : scope.Alike alike scope')
    (same : ∀ value value', alike value value' → value' = value) : scope'.chain = scope.chain := by
  have equal := likeness.chain.imp fun value value' likeValue => (same value value' likeValue).symm
  rw [List.forall₂_eq_eq_eq] at equal
  exact equal.symm

theorem find_agree (likeness : scope.Alike alike scope')
    (respects : scope.settings.registry.Respects alike) (path : String) :
    Agree (Reach.Alike alike) (scope.find path) (scope'.find path) := by
  rw [find, find, likeness.settings]
  split
  · exact .ok (.found likeness.value)
  · split
    · exact .error _
    · apply (ScopeSettings.resolveOutward_agree respects (.cons likeness.value likeness.outer)
        _).bind
      intro first first' likeFirst
      cases likeFirst with
      | none => exact .ok (.missing _)
      | some likeFirst => exact Registry.walk_agree respects _ likeFirst

end Alike
end Scope
end Stencil
