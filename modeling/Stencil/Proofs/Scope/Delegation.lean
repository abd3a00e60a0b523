import Stencil.Proofs.Resolve.Trail
import Stencil.Scope.Basic

set_option autoImplicit false

/-!
Looking outward is delegation. A scope that does not have the first segment of a path hands the
whole path to the scope around it, and a scope that has it is the only one to answer for the rest.
A loop over the chain of scopes comes to the same value, the same missing member and the same fault.
-/

namespace Stencil

namespace ScopeSettings

/-- Looking for a segment along a chain asks the value: those before it do not have the segment. -/
inductive Asks (settings : ScopeSettings) (segment : String) : List Value → Value → Prop where
  | here {value outer} : Asks settings segment (value :: outer) value
  | outward {value outer asked} :
      settings.resolveOwn value segment = .ok none →
      Asks settings segment outer asked →
      Asks settings segment (value :: outer) asked

variable {settings : ScopeSettings} {segment : String} {value found : Value}
  {outer chain : List Value}

theorem resolveOutward_cons_some
    (resolved : settings.resolveOwn value segment = .ok (some found)) :
    settings.resolveOutward segment (value :: outer) = .ok (some found) := by
  rw [resolveOutward, resolved]
  rfl

theorem resolveOutward_cons_none (resolved : settings.resolveOwn value segment = .ok none) :
    settings.resolveOutward segment (value :: outer) = settings.resolveOutward segment outer := by
  rw [resolveOutward, resolved]
  rfl

theorem resolveOutward_cons_error {fault : Fault}
    (resolved : settings.resolveOwn value segment = .error fault) :
    settings.resolveOutward segment (value :: outer) = .error fault := by
  rw [resolveOutward, resolved]
  rfl

theorem resolveOutward_eq_some_iff :
    settings.resolveOutward segment chain = .ok (some found) ↔
      ∃ owner, settings.Asks segment chain owner ∧
        settings.resolveOwn owner segment = .ok (some found) := by
  induction chain with
  | nil =>
      constructor
      · intro resolved
        simp [resolveOutward] at resolved
      · rintro ⟨owner, asked, _⟩
        cases asked
  | cons value outer inductionHypothesis =>
      constructor
      · intro resolved
        cases own : settings.resolveOwn value segment with
        | error fault => simp [resolveOutward_cons_error own] at resolved
        | ok result =>
            cases result with
            | none =>
                rw [resolveOutward_cons_none own] at resolved
                obtain ⟨owner, asked, owned⟩ := inductionHypothesis.mp resolved
                exact ⟨owner, .outward own asked, owned⟩
            | some first =>
                rw [resolveOutward_cons_some own] at resolved
                exact ⟨value, .here, own.trans resolved⟩
      · rintro ⟨owner, asked, owned⟩
        cases asked with
        | here => exact resolveOutward_cons_some owned
        | outward own asked =>
            rw [resolveOutward_cons_none own]
            exact inductionHypothesis.mpr ⟨owner, asked, owned⟩

theorem resolveOutward_eq_none_iff :
    settings.resolveOutward segment chain = .ok none ↔
      ∀ value ∈ chain, settings.resolveOwn value segment = .ok none := by
  induction chain with
  | nil => simp [resolveOutward]
  | cons value outer inductionHypothesis =>
      rw [List.forall_mem_cons, ← inductionHypothesis]
      cases own : settings.resolveOwn value segment with
      | error fault => simp [resolveOutward_cons_error own]
      | ok result =>
          cases result with
          | none => simp [resolveOutward_cons_none own]
          | some found => simp [resolveOutward_cons_some own]

theorem exists_resolveOutward_eq_ok
    (resolves : ∀ asked, settings.Asks segment chain asked →
      ∃ result, settings.resolveOwn asked segment = .ok result) :
    ∃ result, settings.resolveOutward segment chain = .ok result := by
  induction chain with
  | nil => exact ⟨none, rfl⟩
  | cons value outer inductionHypothesis =>
      obtain ⟨result, own⟩ := resolves value .here
      cases result with
      | some found => exact ⟨some found, resolveOutward_cons_some own⟩
      | none =>
          rw [resolveOutward_cons_none own]
          exact inductionHypothesis fun asked isAsked => resolves asked (.outward own isAsked)

end ScopeSettings

namespace Scope

/-- The scope around this one; the root has none. -/
def parent? (scope : Scope) : Option Scope :=
  match scope.outer with
  | [] => none
  | value :: outer => some { scope with value, outer }

@[simp]
theorem parent?_child (scope : Scope) (value : Value) :
    (scope.child value).parent? = some scope := rfl

@[simp]
theorem parent?_root (family : Nat) (settings : ScopeSettings) (value : Value) :
    (Scope.root family settings value).parent? = none := rfl

theorem depth_lt_of_parent? {scope parent : Scope} (around : scope.parent? = some parent) :
    parent.depth < scope.depth := by
  obtain ⟨family, settings, value, outer⟩ := scope
  cases outer with
  | nil => simp [parent?] at around
  | cons next outer =>
      cases around
      simp [depth]

def firstSegment (scope : Scope) (path : String) : String :=
  (Text.pieces scope.settings.separator path).1

def laterSegments (scope : Scope) (path : String) : List String :=
  (Text.pieces scope.settings.separator path).2

/-- What a path means in a scope, by delegation: a path that is a current-value key is the scope's
own value; a scope that has the first segment walks the others from there, come what may; any other
scope leaves the whole path to its parent, and the root misses the first segment. -/
def delegate (scope : Scope) (path : String) : Except Fault Reach :=
  if scope.settings.isCurrent path then .ok (.found scope.value)
  else
    match scope.settings.resolveOwn scope.value (scope.firstSegment path) with
    | .error fault => .error fault
    | .ok (some value) => scope.settings.registry.walk value (scope.laterSegments path)
    | .ok none =>
        match _around : scope.parent? with
        | some parent => parent.delegate path
        | none => .ok (.missing (scope.firstSegment path))
termination_by scope.depth
decreasing_by exact depth_lt_of_parent? _around

/-- What a search for the first segment along the chain comes to. -/
def answer (scope : Scope) (path : String) : Option Value → Except Fault Reach
  | some value => scope.settings.registry.walk value (scope.laterSegments path)
  | none => .ok (.missing (scope.firstSegment path))

variable {scope : Scope} {path : String}

theorem find_of_isCurrent (current : scope.settings.isCurrent path = true) :
    scope.find path = .ok (.found scope.value) := by
  rw [find, if_pos current]

theorem find_of_not_isCurrent (separated : scope.settings.separator ≠ "")
    (other : scope.settings.isCurrent path = false) :
    scope.find path =
      scope.settings.resolveOutward (scope.firstSegment path) scope.chain >>=
        scope.answer path := by
  have nonempty : scope.settings.separator.isEmpty = false := by simpa using separated
  rw [find, if_neg (by simp [other]), if_neg (by simp [nonempty])]
  show scope.settings.resolveOutward (scope.firstSegment path) scope.chain >>= _ = _
  congr

theorem delegate_of_isCurrent (current : scope.settings.isCurrent path = true) :
    scope.delegate path = .ok (.found scope.value) := by
  rw [delegate, if_pos current]

theorem delegate_of_not_isCurrent (other : scope.settings.isCurrent path = false) :
    scope.delegate path =
      scope.settings.resolveOutward (scope.firstSegment path) scope.chain >>=
        scope.answer path := by
  fun_induction delegate scope path with
  | case1 scope current => simp [current] at other
  | case2 scope _ fault own => simp only [chain, ScopeSettings.resolveOutward_cons_error own]; rfl
  | case3 scope _ found own => simp only [chain, ScopeSettings.resolveOutward_cons_some own]; rfl
  | case4 scope _ own parent around inductionHypothesis =>
      obtain ⟨family, settings, value, outer⟩ := scope
      cases outer with
      | nil => simp [parent?] at around
      | cons next outer =>
          cases around
          simp only [chain, ScopeSettings.resolveOutward_cons_none own]
          exact inductionHypothesis other
  | case5 scope _ own around =>
      obtain ⟨family, settings, value, outer⟩ := scope
      cases outer with
      | nil => simp only [chain, ScopeSettings.resolveOutward_cons_none own]; rfl
      | cons next outer => simp [parent?] at around

/-- The nearest scope that has the first segment gives the value for it. -/
def StartsAt (scope : Scope) (path : String) (found : Value) : Prop :=
  ∃ owner, scope.settings.Asks (scope.firstSegment path) scope.chain owner ∧
    scope.settings.resolveOwn owner (scope.firstSegment path) = .ok (some found)

/-- The member is the first segment, from left to right, that fails on the value reached so far: the
first one if no scope has it, or one that is missing on the trail from the value that it gives. -/
def FailsFirst (scope : Scope) (path member : String) : Prop :=
  (member = scope.firstSegment path ∧
    ∀ value ∈ scope.chain, scope.settings.resolveOwn value member = .ok none) ∨
  ∃ found reached ahead, scope.StartsAt path found ∧
    scope.settings.registry.Trail found (scope.laterSegments path) reached (member :: ahead) ∧
    scope.settings.registry.resolve reached member = .ok none

/-- No resolution of a segment that the path asks for raises. -/
def Undisturbed (scope : Scope) (path : String) : Prop :=
  (∀ asked, scope.settings.Asks (scope.firstSegment path) scope.chain asked →
    ∃ own, scope.settings.resolveOwn asked (scope.firstSegment path) = .ok own) ∧
  ∀ found reached segment ahead, scope.StartsAt path found →
    scope.settings.registry.Trail found (scope.laterSegments path) reached (segment :: ahead) →
    ∃ member, scope.settings.registry.resolve reached segment = .ok member

theorem find_eq_missing_iff (separated : scope.settings.separator ≠ "")
    (other : scope.settings.isCurrent path = false) (member : String) :
    scope.find path = .ok (.missing member) ↔ scope.FailsFirst path member := by
  rw [find_of_not_isCurrent separated other]
  constructor
  · intro found
    cases first : scope.settings.resolveOutward (scope.firstSegment path) scope.chain with
    | error fault => simp [first, Bind.bind, Except.bind] at found
    | ok result =>
        cases result with
        | none =>
            have same : scope.firstSegment path = member := by
              simpa [first, Bind.bind, Except.bind, answer] using found
            subst same
            exact .inl ⟨rfl, ScopeSettings.resolveOutward_eq_none_iff.mp first⟩
        | some value =>
            have walked : scope.settings.registry.walk value (scope.laterSegments path) =
                .ok (.missing member) := by
              simpa [first, Bind.bind, Except.bind, answer] using found
            obtain ⟨reached, ahead, trail, failed⟩ := Registry.walk_eq_missing_iff.mp walked
            exact .inr ⟨value, reached, ahead,
              ScopeSettings.resolveOutward_eq_some_iff.mp first, trail, failed⟩
  · rintro (⟨rfl, absent⟩ | ⟨value, reached, ahead, starts, trail, failed⟩)
    · rw [ScopeSettings.resolveOutward_eq_none_iff.mpr absent]
      rfl
    · rw [ScopeSettings.resolveOutward_eq_some_iff.mpr starts]
      exact Registry.walk_eq_missing_iff.mpr ⟨reached, ahead, trail, failed⟩

theorem exists_find_eq_ok (separated : scope.settings.separator ≠ "")
    (undisturbed : scope.Undisturbed path) : ∃ reach, scope.find path = .ok reach := by
  cases current : scope.settings.isCurrent path with
  | true => exact ⟨.found scope.value, find_of_isCurrent current⟩
  | false =>
      rw [find_of_not_isCurrent separated current]
      obtain ⟨result, first⟩ := ScopeSettings.exists_resolveOutward_eq_ok undisturbed.1
      rw [first]
      cases result with
      | none => exact ⟨.missing (scope.firstSegment path), rfl⟩
      | some value =>
          apply Registry.exists_walk_eq_ok
          intro reached segment ahead trail
          exact undisturbed.2 value reached segment ahead
            (ScopeSettings.resolveOutward_eq_some_iff.mp first) trail

/-- The search along the chain is delegation, with the same value, missing member or fault. What it
reports as missing is the first segment that fails, and it has an answer if nothing on the way
raises. -/
theorem find_eq_delegate (scope : Scope) (path : String)
    (separated : scope.settings.separator ≠ "") :
    scope.find path = scope.delegate path ∧
      (∀ member, scope.find path = .ok (.missing member) ↔
        scope.settings.isCurrent path = false ∧ scope.FailsFirst path member) ∧
      (scope.Undisturbed path → ∃ reach, scope.find path = .ok reach) := by
  refine ⟨?_, ?_, exists_find_eq_ok separated⟩
  · cases current : scope.settings.isCurrent path with
    | true => rw [find_of_isCurrent current, delegate_of_isCurrent current]
    | false => rw [find_of_not_isCurrent separated current, delegate_of_not_isCurrent current]
  · intro member
    cases current : scope.settings.isCurrent path with
    | true => simp [find_of_isCurrent current]
    | false => simpa using find_eq_missing_iff separated current member

/-- A scope with an owner of its own inside a scope whose owner has a name. -/
def shadowing : Scope :=
  (Scope.root 0 .standard (.ofFields [("owner", .ofFields [("name", .text "Ada")])])).child
    (.ofFields [("owner", .ofFields [("email", .text "x@example.com")])])

/-- The inner owner decides, although only the outer one has a name. -/
theorem delegate_shadowing_eq_missing :
    shadowing.settings.separator ≠ "" ∧ shadowing.find "owner.name" = .ok (.missing "name") ∧
      shadowing.delegate "owner.name" = .ok (.missing "name") := by
  have found : shadowing.find "owner.name" = .ok (.missing "name") := by rfl
  have separated : shadowing.settings.separator ≠ "" := by decide
  exact ⟨separated, found, (find_eq_delegate shadowing "owner.name" separated).1.symm.trans found⟩

end Scope
end Stencil
