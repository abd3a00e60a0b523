import Stencil.Resolve.Path

set_option autoImplicit false

/-!
Trails of a walk. A walk along a path comes by one value after the other, each a member of the one
before; it ends at the first segment that the value reached so far does not have.
-/

namespace Stencil.Registry

/-- Walking from a value along a path comes by a value, with a part of the path still ahead. -/
inductive Trail (registry : Registry) :
    Value → List String → Value → List String → Prop where
  | here {value path} : Trail registry value path value path
  | step {value segment next rest reached ahead} :
      registry.resolve value segment = .ok (some next) →
      Trail registry next rest reached ahead →
      Trail registry value (segment :: rest) reached ahead

variable {registry : Registry} {value reached : Value} {path ahead : List String}

theorem walk_cons_some {next : Value} {segment : String} {rest : List String}
    (resolved : registry.resolve value segment = .ok (some next)) :
    registry.walk value (segment :: rest) = registry.walk next rest := by
  rw [walk, resolved]
  rfl

theorem walk_cons_none {segment : String} {rest : List String}
    (resolved : registry.resolve value segment = .ok none) :
    registry.walk value (segment :: rest) = .ok (.missing segment) := by
  rw [walk, resolved]
  rfl

theorem walk_cons_error {segment : String} {rest : List String} {fault : Fault}
    (resolved : registry.resolve value segment = .error fault) :
    registry.walk value (segment :: rest) = .error fault := by
  rw [walk, resolved]
  rfl

/-- Goes on along a path from where another one has led; what is missing stays missing. -/
def walkOn (registry : Registry) (path : List String) : Reach → Except Fault Reach
  | .found value => registry.walk value path
  | .missing member => .ok (.missing member)

theorem walk_append (value : Value) (path later : List String) :
    registry.walk value (path ++ later) = registry.walk value path >>= registry.walkOn later := by
  induction path generalizing value with
  | nil => rfl
  | cons segment rest inductionHypothesis =>
      rw [List.cons_append]
      cases resolved : registry.resolve value segment with
      | error fault =>
          rw [walk_cons_error resolved, walk_cons_error resolved]
          rfl
      | ok found =>
          cases found with
          | none =>
              rw [walk_cons_none resolved, walk_cons_none resolved]
              rfl
          | some next => rw [walk_cons_some resolved, walk_cons_some resolved, inductionHypothesis]

theorem Trail.walk (trail : registry.Trail value path reached ahead) :
    registry.walk value path = registry.walk reached ahead := by
  induction trail with
  | here => rfl
  | step resolved _ inductionHypothesis =>
      rw [walk_cons_some resolved, inductionHypothesis]

/-- A walk reports the first segment that fails on the value reached before it. -/
theorem walk_eq_missing_iff {member : String} :
    registry.walk value path = .ok (.missing member) ↔
      ∃ reached ahead, registry.Trail value path reached (member :: ahead) ∧
        registry.resolve reached member = .ok none := by
  constructor
  · intro walked
    induction path generalizing value with
    | nil => simp [Registry.walk] at walked
    | cons segment rest inductionHypothesis =>
        cases resolved : registry.resolve value segment with
        | error fault => simp [walk_cons_error resolved] at walked
        | ok found =>
            cases found with
            | none =>
                simp only [walk_cons_none resolved, Except.ok.injEq, Reach.missing.injEq] at walked
                subst member
                exact ⟨value, rest, .here, resolved⟩
            | some next =>
                rw [walk_cons_some resolved] at walked
                obtain ⟨reached, ahead, trail, failed⟩ := inductionHypothesis walked
                exact ⟨reached, ahead, .step resolved trail, failed⟩
  · rintro ⟨reached, ahead, trail, failed⟩
    rw [trail.walk, walk_cons_none failed]

theorem exists_walk_eq_ok
    (resolves : ∀ reached segment ahead, registry.Trail value path reached (segment :: ahead) →
      ∃ found, registry.resolve reached segment = .ok found) :
    ∃ reach, registry.walk value path = .ok reach := by
  induction path generalizing value with
  | nil => exact ⟨.found value, rfl⟩
  | cons segment rest inductionHypothesis =>
      obtain ⟨found, resolved⟩ := resolves value segment rest .here
      cases found with
      | none => exact ⟨.missing segment, walk_cons_none resolved⟩
      | some next =>
          rw [walk_cons_some resolved]
          apply inductionHypothesis
          intro reached segment ahead trail
          exact resolves reached segment ahead (.step resolved trail)

end Stencil.Registry
