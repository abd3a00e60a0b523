import Stencil.Scope.Forest

set_option autoImplicit false

/-!
Named scopes as chains of values. However the scopes were made and their values replaced, a scope
made inside another one is a child of what that one is at the moment, so a value that is replaced is
replaced for the scopes made inside as well.
-/

namespace Stencil.Forest

variable {forest : Forest} {frames later : List Frame} {frame : Frame} {scope : Scope}
variable {number : Nat} {name other parent : String} {settings : ScopeSettings}
variable {value replacement : Value}

/-- What can be made of no scopes at all. -/
inductive Built : Forest → Prop where
  | empty : Built .empty
  | addRoot {forest : Forest} (name settings value) :
      Built forest → Built (forest.addRoot name settings value)
  | addChild {forest : Forest} (name parent value) :
      Built forest → Built (forest.addChild name parent value)
  | setValue {forest : Forest} (name value) : Built forest → Built (forest.setValue name value)

/-- A scope inside another one is younger than that one and shares its family and settings. -/
def IsInside (frames : List Frame) (number : Nat) (frame : Frame) : Prop :=
  ∀ outer, frame.parent = some outer → outer < number ∧
    ∃ around, frames[outer]? = some around ∧
      frame.family = around.family ∧ frame.settings = around.settings

structure IsRooted (forest : Forest) : Prop where
  inside : ∀ {number frame}, forest.frames[number]? = some frame →
    IsInside forest.frames number frame
  named : ∀ {name number}, forest.number? name = some number → number < forest.frames.length

theorem number?_add_self : (forest.add name frame).number? name = some forest.frames.length := by
  simp [number?, add]

theorem number?_add_of_ne (ne : name ≠ other) :
    (forest.add name frame).number? other = forest.number? other := by
  simp [number?, add, ne]

theorem number?_setValue : (forest.setValue name value).number? other = forest.number? other := by
  unfold setValue
  cases forest.number? name <;> rfl

theorem setValue_eq (denoted : forest.number? name = some number) :
    forest.setValue name value =
      { forest with frames := forest.frames.modify number ({ · with value }) } := by
  rw [setValue, denoted]

/-- A value makes no difference to family, settings and the scope around. -/
theorem frame_modify {place : Nat} :
    (frames.modify place ({ · with value }))[number]? = frames[number]?.map fun held =>
      { held with value := if place = number then value else held.value } := by
  rw [List.getElem?_modify]
  refine congrArg (Option.map · frames[number]?) (funext fun held => ?_)
  split <;> rfl

theorem addChild_eq (denoted : forest.number? parent = some number)
    (present : forest.frames[number]? = some frame) :
    forest.addChild name parent value =
      forest.add name ⟨frame.family, frame.settings, value, some number⟩ := by
  simp [addChild, frame?, denoted, present]

namespace IsRooted

theorem add (rooted : forest.IsRooted)
    (inside : IsInside forest.frames forest.frames.length frame) :
    (forest.add name frame).IsRooted where
  inside := by
    intro number held found outer around
    -- What lies around an older scope is older still, so it is where it was.
    have older : ∀ {place present}, forest.frames[place]? = some present →
        (forest.add name frame).frames[place]? = some present := fun found =>
      (List.getElem?_append_left (List.getElem?_eq_some_iff.mp found).1).trans found
    have lies : IsInside forest.frames number held := by
      rcases Nat.lt_or_ge number forest.frames.length with lt | ge
      · exact rooted.inside ((List.getElem?_append_left lt).symm.trans found)
      · have last : (forest.frames ++ [frame])[number]? = some held := found
        rw [List.getElem?_append_right ge, List.getElem?_singleton] at last
        obtain ⟨zero, rfl⟩ : number - forest.frames.length = 0 ∧ frame = held := by
          simpa using last
        rwa [show number = forest.frames.length by omega]
    obtain ⟨lt, present, found, shares⟩ := lies outer around
    exact ⟨lt, present, older found, shares⟩
  named := by
    intro other number denoted
    simp only [Forest.add, List.length_append, List.length_singleton]
    by_cases same : name = other
    · subst same
      have := Option.some.inj (number?_add_self.symm.trans denoted)
      omega
    · have := rooted.named ((number?_add_of_ne same).symm.trans denoted)
      omega

theorem setValue (rooted : forest.IsRooted) : (forest.setValue name value).IsRooted := by
  cases denoted : forest.number? name with
  | none =>
      rw [Forest.setValue, denoted]
      exact rooted
  | some place =>
      rw [setValue_eq denoted]
      refine ⟨?_, fun named => by simpa using rooted.named named⟩
      intro number held found outer around
      rw [frame_modify] at found
      obtain ⟨before, stood, rfl⟩ := Option.map_eq_some_iff.mp found
      obtain ⟨lt, present, stands, shares⟩ := rooted.inside stood outer around
      exact ⟨lt, _, frame_modify.trans (congrArg _ stands), shares⟩

end IsRooted

theorem Built.isRooted (built : Built forest) : forest.IsRooted := by
  induction built with
  | empty => exact ⟨fun found => (nomatch found), fun denoted => (nomatch denoted)⟩
  | addRoot name settings value built rooted => exact rooted.add fun _ around => nomatch around
  | @addChild forest name parent value built rooted =>
      cases denoted : forest.number? parent with
      | none =>
          rw [Forest.addChild, denoted]
          exact rooted
      | some number =>
          have present := List.getElem?_eq_getElem (rooted.named denoted)
          rw [addChild_eq denoted present]
          refine rooted.add fun outer around => ?_
          cases around
          exact ⟨rooted.named denoted, _, present, rfl, rfl⟩
  | setValue name value built rooted => exact rooted.setValue

@[simp]
theorem outerValues_none (fuel : Nat) : outerValues frames fuel none = [] := by
  cases fuel <;> rfl

/-- What lies around a scope goes by the older scopes only. -/
theorem outerValues_congr (bound : Nat) {fuel more : Nat} {around : Option Nat}
    (same : ∀ n < bound, later[n]? = frames[n]?)
    (inside : ∀ {n held}, frames[n]? = some held → IsInside frames n held)
    (older : ∀ outer, around = some outer → outer < bound)
    (le : bound ≤ fuel) (le_more : bound ≤ more) :
    outerValues later more around = outerValues frames fuel around := by
  induction bound generalizing fuel more around with
  | zero =>
      cases around with
      | none => simp
      | some outer => exact absurd (older outer rfl) (Nat.not_lt_zero outer)
  | succ bound ih =>
      obtain ⟨fuel, rfl⟩ := Nat.exists_eq_add_of_lt le
      obtain ⟨more, rfl⟩ := Nat.exists_eq_add_of_lt le_more
      cases around with
      | none => simp
      | some outer =>
          have lt := older outer rfl
          simp only [outerValues, same outer lt]
          cases found : frames[outer]? with
          | none => rfl
          | some held =>
              -- The scope around this one is older again.
              refine congrArg (held.value :: ·) (ih (fun n lt => same n (by omega)) ?_ ?_ ?_)
              · intro further around
                exact Nat.lt_of_lt_of_le (inside found further around).1 (Nat.le_of_lt_succ lt)
              all_goals omega

/-- The scope of a number as things stand. -/
def scopeAt? (forest : Forest) (number : Nat) : Option Scope :=
  forest.frames[number]?.map fun frame =>
    ⟨frame.family, frame.settings, frame.value,
      outerValues forest.frames forest.frames.length frame.parent⟩

theorem scope?_eq_bind : forest.scope? name = (forest.number? name).bind forest.scopeAt? := by
  rw [scope?, frame?, Option.map_bind]
  rfl

theorem scope?_eq (denoted : forest.number? name = some number) :
    forest.scope? name = forest.scopeAt? number := by
  rw [scope?_eq_bind, denoted, Option.bind_some]

theorem scope?_addRoot :
    (forest.addRoot name settings value).scope? name =
      some (.root forest.frames.length settings value) := by
  rw [addRoot, scope?_eq number?_add_self]
  simp [scopeAt?, add, Scope.root]

namespace IsRooted

/-- A scope inside another one is a child of what that one is now. -/
theorem scopeAt?_child (rooted : forest.IsRooted) {outer : Nat}
    (found : forest.frames[number]? = some frame) (around : frame.parent = some outer) :
    forest.scopeAt? number = (forest.scopeAt? outer).map (·.child frame.value) := by
  obtain ⟨lt, present, stands, family, shared⟩ := rooted.inside found outer around
  obtain ⟨length, eq⟩ := Nat.exists_eq_add_of_lt (List.getElem?_eq_some_iff.mp found).1
  have outside : outerValues forest.frames forest.frames.length (some outer) =
      present.value :: outerValues forest.frames forest.frames.length present.parent := by
    rw [eq, outerValues, stands]
    refine congrArg (present.value :: ·)
      (outerValues_congr outer (fun _ _ => rfl) rooted.inside ?_ ?_ ?_)
    · exact fun further beyond => (rooted.inside stands further beyond).1
    all_goals omega
  rw [scopeAt?, scopeAt?, found, stands, Option.map_some, Option.map_some, Option.map_some,
    around, outside, family, shared]
  rfl

theorem scopeAt?_add (rooted : forest.IsRooted) (lt : number < forest.frames.length) :
    (forest.add name frame).scopeAt? number = forest.scopeAt? number := by
  rw [scopeAt?, scopeAt?, Forest.add, List.getElem?_append_left lt, List.getElem?_eq_getElem lt,
    Option.map_some, Option.map_some]
  congr 2
  refine outerValues_congr number (fun n lt => List.getElem?_append_left (by omega))
    rooted.inside ?_ ?_ ?_
  · exact fun outer around => (rooted.inside (List.getElem?_eq_getElem lt) outer around).1
  · omega
  · rw [List.length_append]
    omega

theorem scope?_add_of_ne (rooted : forest.IsRooted) (ne : name ≠ other) :
    (forest.add name frame).scope? other = forest.scope? other := by
  rw [scope?_eq_bind, scope?_eq_bind, number?_add_of_ne ne]
  refine Option.bind_congr fun number denoted => ?_
  exact rooted.scopeAt?_add (rooted.named denoted)

end IsRooted

theorem Built.scope?_addChild (built : Built forest) (host : forest.scope? parent = some scope) :
    (forest.addChild name parent value).scope? name = some (scope.child value) := by
  have rooted := built.isRooted
  have grown := (built.addChild name parent value).isRooted
  cases denoted : forest.number? parent with
  | none => simp [scope?, frame?, denoted] at host
  | some number =>
      have lt := rooted.named denoted
      have eq : forest.addChild name parent value = _ :=
        addChild_eq denoted (List.getElem?_eq_getElem lt)
      rw [scope?_eq denoted] at host
      rw [eq] at grown ⊢
      rw [scope?_eq number?_add_self, grown.scopeAt?_child List.getElem?_concat_length rfl,
        rooted.scopeAt?_add lt, host]
      rfl

theorem Built.scope?_setValue_self (built : Built forest) :
    (forest.setValue name value).scope? name = (forest.scope? name).map ({ · with value }) := by
  have rooted := built.isRooted
  cases denoted : forest.number? name with
  | none => simp [scope?_eq_bind, Forest.setValue, denoted]
  | some number =>
      have lt := rooted.named denoted
      have present := List.getElem?_eq_getElem lt
      -- The scopes around are older, so the new value is not among theirs.
      have outside : outerValues (forest.frames.modify number ({ · with value }))
          forest.frames.length forest.frames[number].parent =
            outerValues forest.frames forest.frames.length forest.frames[number].parent := by
        refine outerValues_congr number (fun n before => ?_) rooted.inside ?_
          (Nat.le_of_lt lt) (Nat.le_of_lt lt)
        · exact List.getElem?_modify_ne _ _ (Nat.ne_of_gt before)
        · exact fun outer around => (rooted.inside present outer around).1
      rw [scope?_eq (number?_setValue.trans denoted), scope?_eq denoted, setValue_eq denoted]
      simp only [scopeAt?, frame_modify, present, Option.map_some, List.length_modify, outside,
        if_pos]

theorem Built.scope?_setValue_inside (built : Built forest)
    (present : forest.frame? name = some frame) (within : frame.parent = some number)
    (host : forest.number? parent = some number) :
    (forest.setValue parent replacement).scope? name =
      (forest.scope? parent).map fun scope =>
        ({ scope with value := replacement } : Scope).child frame.value := by
  obtain ⟨place, denoted, found⟩ := Option.bind_eq_some_iff.mp present
  have rooted := (built.setValue parent replacement).isRooted
  have ne : number ≠ place := Nat.ne_of_lt (built.isRooted.inside found number within).1
  have still : (forest.setValue parent replacement).frames[place]? = some frame := by
    rw [setValue_eq host, frame_modify, found, Option.map_some, if_neg ne]
  rw [scope?_eq (number?_setValue.trans denoted), rooted.scopeAt?_child still within,
    ← scope?_eq (number?_setValue.trans host), built.scope?_setValue_self, Option.map_map]
  rfl

end Stencil.Forest
