import Stencil.Proofs.Scope.Delegation

set_option autoImplicit false

/-!
Scopes that answer alike. What a search comes to depends on the values around a scope only through
what they have for the first segments asked for. So a value that has none of them can be put into
the chain anywhere, and a value in the chain can be replaced by one that has the same to answer.
-/

namespace Stencil

namespace ScopeSettings

/-- The value has nothing for the path: neither the path nor its first segment denotes the value
itself, and the value lacks the segment. -/
structure Unaware (settings : ScopeSettings) (value : Value) (path : String) : Prop where
  other : settings.isCurrent path = false
  otherFirst : settings.isCurrent (Text.pieces settings.separator path).1 = false
  missing : settings.registry.resolve value (Text.pieces settings.separator path).1 = .ok none

theorem Unaware.resolveOwn {settings : ScopeSettings} {value : Value} {path : String}
    (unaware : settings.Unaware value path) :
    settings.resolveOwn value (Text.pieces settings.separator path).1 = .ok none := by
  rw [ScopeSettings.resolveOwn, if_neg (by simp [unaware.otherFirst]), unaware.missing]

theorem resolveOutward_insert {settings : ScopeSettings} {value : Value} {segment : String}
    (missing : settings.resolveOwn value segment = .ok none) (inner outer : List Value) :
    settings.resolveOutward segment (inner ++ value :: outer) =
      settings.resolveOutward segment (inner ++ outer) := by
  induction inner with
  | nil => exact resolveOutward_cons_none missing
  | cons first rest inductionHypothesis =>
      rw [List.cons_append, List.cons_append, resolveOutward, resolveOutward, inductionHypothesis]

end ScopeSettings

namespace Scope

theorem find_of_not_separated {scope : Scope} {path : String}
    (empty : scope.settings.separator = "") (other : scope.settings.isCurrent path = false) :
    scope.find path = .error .emptySeparator := by
  rw [find, if_neg (by simp [other]), if_pos (by simp [empty])]

/-- The scopes find the same for the paths asked for, and so do children on the same value. -/
structure AnswersLike (asked : String → Prop) (scope scope' : Scope) : Prop where
  family : scope'.family = scope.family
  settings : scope'.settings = scope.settings
  current : ∀ path, asked path → scope.settings.isCurrent path = true →
    scope'.value = scope.value
  outward : ∀ path, asked path → scope.settings.isCurrent path = false →
    scope.settings.resolveOutward (scope.firstSegment path) scope'.chain =
      scope.settings.resolveOutward (scope.firstSegment path) scope.chain

namespace AnswersLike

variable {asked : String → Prop} {scope scope' : Scope}

/-- The value of a child comes first in both chains, so nothing else about them is compared. -/
theorem child (answers : scope.AnswersLike asked scope') (value : Value) :
    (scope.child value).AnswersLike asked (scope'.child value) where
  family := answers.family
  settings := answers.settings
  current _ _ _ := rfl
  outward path isAsked other := by
    show scope.settings.resolveOutward (scope.firstSegment path) (value :: scope'.chain) =
      scope.settings.resolveOutward (scope.firstSegment path) (value :: scope.chain)
    rw [ScopeSettings.resolveOutward, ScopeSettings.resolveOutward,
      answers.outward path isAsked other]

theorem find_eq (answers : scope.AnswersLike asked scope') {path : String} (isAsked : asked path) :
    scope'.find path = scope.find path := by
  cases current : scope.settings.isCurrent path with
  | true =>
      have current' : scope'.settings.isCurrent path = true := by rw [answers.settings, current]
      rw [find_of_isCurrent current, find_of_isCurrent current',
        answers.current path isAsked current]
  | false =>
      have current' : scope'.settings.isCurrent path = false := by rw [answers.settings, current]
      by_cases separated : scope.settings.separator = ""
      · have separated' : scope'.settings.separator = "" := by rw [answers.settings, separated]
        rw [find_of_not_separated separated current, find_of_not_separated separated' current']
      · have separated' : scope'.settings.separator ≠ "" := by rwa [answers.settings]
        have sameAnswer : scope'.answer path = scope.answer path := by
          obtain ⟨family, settings, value, outer⟩ := scope'
          cases answers.settings
          rfl
        have sameFirst : scope'.firstSegment path = scope.firstSegment path := by
          rw [firstSegment, answers.settings, firstSegment]
        rw [find_of_not_isCurrent separated current, find_of_not_isCurrent separated' current',
          sameAnswer, sameFirst, answers.settings, answers.outward path isAsked current]

/-- Children on the same value of two roots that have the same for all first segments asked for. A
root is never asked for itself there: a segment that denotes a scope denotes the child. -/
theorem of_roots {family : Nat} {settings : ScopeSettings} {source source' : Value}
    (same : ∀ path, asked path →
      settings.registry.resolve source' (Text.pieces settings.separator path).1 =
        settings.registry.resolve source (Text.pieces settings.separator path).1)
    (value : Value) :
    ((Scope.root family settings source).child value).AnswersLike asked
      ((Scope.root family settings source').child value) where
  family := rfl
  settings := rfl
  current _ _ _ := rfl
  outward path isAsked _ := by
    show settings.resolveOutward (Text.pieces settings.separator path).1 [value, source'] =
      settings.resolveOutward (Text.pieces settings.separator path).1 [value, source]
    cases denoted : settings.isCurrent (Text.pieces settings.separator path).1 with
    | true =>
        -- The child answers, and the search does not come to the roots.
        have own : settings.resolveOwn value (Text.pieces settings.separator path).1 =
            .ok (some value) := if_pos denoted
        rw [ScopeSettings.resolveOutward_cons_some own, ScopeSettings.resolveOutward_cons_some own]
    | false =>
        have own : settings.resolveOwn source' (Text.pieces settings.separator path).1 =
            settings.resolveOwn source (Text.pieces settings.separator path).1 := by
          rw [ScopeSettings.resolveOwn, ScopeSettings.resolveOwn, denoted, same path isAsked]
          rfl
        simp only [ScopeSettings.resolveOutward, own]

end AnswersLike

/-- The second scope is the first one with a value put into its chain, at any place. -/
structure Inserts (scope : Scope) (value : Value) (scope' : Scope) : Prop where
  family : scope'.family = scope.family
  settings : scope'.settings = scope.settings
  chain : ∃ inner outer, scope.chain = inner ++ outer ∧ scope'.chain = inner ++ value :: outer

theorem Inserts.answersLike {asked : String → Prop} {scope scope' : Scope} {value : Value}
    (inserts : scope.Inserts value scope')
    (unaware : ∀ path, asked path → scope.settings.Unaware value path) :
    scope.AnswersLike asked scope' where
  family := inserts.family
  settings := inserts.settings
  current path isAsked current := by simp [(unaware path isAsked).other] at current
  outward path isAsked _ := by
    obtain ⟨inner, outer, without, within⟩ := inserts.chain
    rw [without, within]
    exact ScopeSettings.resolveOutward_insert (unaware path isAsked).resolveOwn inner outer

end Scope
end Stencil
