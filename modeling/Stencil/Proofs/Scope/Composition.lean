import Stencil.Proofs.Scope.Delegation
import Stencil.Proofs.Text.Split

set_option autoImplicit false

/-!
Paths in two parts. What the first part finds is where the second part goes on, without looking
further out; what the first part misses, the whole path misses. The separator between the parts
belongs to neither, so this is so wherever a path is parted, unless one of the keys for the scope
itself is cut in two.
-/

namespace Stencil.Scope

variable {scope : Scope} {c : Char} {path later : String}

theorem firstSegment_append (separator : scope.settings.separator = String.singleton c) :
    scope.firstSegment (path ++ String.singleton c ++ later) = scope.firstSegment path := by
  rw [firstSegment, firstSegment, separator, Text.pieces_append]

theorem laterSegments_append (separator : scope.settings.separator = String.singleton c) :
    scope.laterSegments (path ++ String.singleton c ++ later) =
      scope.laterSegments path ++ Text.splitAt (String.singleton c) later := by
  rw [laterSegments, laterSegments, separator, Text.pieces_append]

/-- The two parts have the first segment in common, and the answer for it goes on in the second. -/
theorem answer_append (separator : scope.settings.separator = String.singleton c)
    (result : Option Value) :
    scope.answer (path ++ String.singleton c ++ later) result =
      scope.answer path result >>=
        scope.settings.registry.walkOn (Text.splitAt (String.singleton c) later) := by
  cases result with
  | none =>
      rw [answer, answer, firstSegment_append separator]
      rfl
  | some value =>
      rw [answer, answer, laterSegments_append separator]
      exact Registry.walk_append value _ _

theorem find_append (separator : scope.settings.separator = String.singleton c)
    (other : scope.settings.isCurrent (path ++ String.singleton c ++ later) = false)
    (uncut : scope.settings.isCurrent path = true → c ∉ path.toList) :
    scope.find (path ++ String.singleton c ++ later) =
      scope.find path >>=
        scope.settings.registry.walkOn (Text.splitAt (String.singleton c) later) := by
  have separated : scope.settings.separator ≠ "" := by
    rw [separator]
    intro same
    simpa using congrArg String.toList same
  rw [find_of_not_isCurrent separated other, firstSegment_append separator]
  cases current : scope.settings.isCurrent path with
  | true =>
      -- The key is one segment, so the scope itself has it as the first segment of the whole path.
      have alone : Text.pieces (String.singleton c) path = (path, []) :=
        Text.pieces_of_not_infix fun occurs => uncut current (occurs.subset (by simp))
      have first : scope.firstSegment path = path := by rw [firstSegment, separator, alone]
      have nothingLater : scope.laterSegments path = [] := by
        rw [laterSegments, separator, alone]
      have own : scope.settings.resolveOwn scope.value path = .ok (some scope.value) :=
        if_pos current
      rw [find_of_isCurrent current, first, chain, ScopeSettings.resolveOutward_cons_some own]
      show scope.answer _ (some scope.value) = _
      rw [answer_append separator, answer, nothingLater]
      rfl
  | false =>
      rw [find_of_not_isCurrent separated current]
      cases scope.settings.resolveOutward (scope.firstSegment path) scope.chain with
      | error fault => rfl
      | ok result => exact answer_append separator result

/-- A path in two parts comes to what a walk along the second one comes to, from the value that the
first one finds. What the first one misses is missing for the whole path, and what it fails with
the whole path fails with. -/
theorem find_joined (scope : Scope) (c : Char) (path later : String)
    (separator : scope.settings.separator = String.singleton c)
    (other : scope.settings.isCurrent (path ++ String.singleton c ++ later) = false)
    (uncut : scope.settings.isCurrent path = true → c ∉ path.toList) :
    (∀ value, scope.find path = .ok (.found value) →
        scope.find (path ++ String.singleton c ++ later) =
          scope.settings.registry.walk value (Text.splitAt (String.singleton c) later)) ∧
      (∀ member, scope.find path = .ok (.missing member) →
        scope.find (path ++ String.singleton c ++ later) = .ok (.missing member)) ∧
      ∀ fault, scope.find path = .error fault →
        scope.find (path ++ String.singleton c ++ later) = .error fault := by
  rw [find_append separator other uncut]
  refine ⟨fun value found => ?_, fun member missing => ?_, fun fault failed => ?_⟩
  · rw [found]
    rfl
  · rw [missing]
    rfl
  · rw [failed]
    rfl

/-- A path behind the key of the scope itself, and a path behind a member that is missing. -/
theorem find_joined_shadowing :
    shadowing.settings.separator = String.singleton '.' ∧
      shadowing.settings.isCurrent "this" = true ∧ '.' ∉ "this".toList ∧
      shadowing.find "this.owner.email" = .ok (.found (.text "x@example.com")) ∧
      shadowing.find "owner.name.first" = .ok (.missing "name") := by
  have separator : shadowing.settings.separator = String.singleton '.' := by decide
  have behindKey := find_joined shadowing '.' "this" "owner.email" separator rfl
    fun _ => by decide
  have behindMissing := find_joined shadowing '.' "owner.name" "first" separator rfl
    fun current => by cases current
  exact ⟨separator, rfl, by decide, (behindKey.1 shadowing.value rfl).trans rfl,
    behindMissing.2.1 "name" rfl⟩

end Stencil.Scope
