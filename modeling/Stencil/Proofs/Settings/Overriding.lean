import Stencil.Proofs.Resolve.Agreement
import Stencil.Proofs.Settings.Alteration
import Stencil.Settings.Override

set_option autoImplicit false

/-!
Applying the overrides of an environment. If nothing goes wrong then each of them is assigned in
turn, so one that no later one touches holds in the end, and what none of them touches stays.
Otherwise it stops at a variable before which nothing went wrong.
-/

namespace Stencil.Settings

/-- The overrides that variables ask for, in order. The first that cannot be read is a fault. -/
def readOverrides (strict : Bool) : List Variable → Except Fault (List Override)
  | [] => .ok []
  | v :: rest => do
      let first ← v.override? strict
      let others ← readOverrides strict rest
      return first.toList ++ others

/-- The override is assigned, and nothing goes wrong. -/
structure Override.Assigns (override : Override) (before after : Tree) : Prop where
  nonempty : override.path ≠ []
  assigned : before.assign override.value override.path = (after, none)

/-- Assignments one after the other, all of which succeed. -/
inductive AssignsAll : List Override → Tree → Tree → Prop where
  | nil {settings} : AssignsAll [] settings settings
  | cons {override rest settings next final} :
      override.Assigns settings next →
      AssignsAll rest next final →
      AssignsAll (override :: rest) settings final

/-- What a single variable does to settings. -/
inductive Applies (strict : Bool) (settings : Tree) (v : Variable) : Prop where
  | nothing : v.override? strict = .ok none → Applies strict settings v
  | assigned {override next} :
      v.override? strict = .ok (some override) →
      override.Assigns settings next →
      Applies strict settings v
  | unread {fault} : v.override? strict = .error fault → Applies strict settings v
  | unassigned {override fault} :
      v.override? strict = .ok (some override) →
      (settings.assign override.value override.path).2 = some fault →
      Applies strict settings v

/-- Applying variables comes to one of them, the settings being what those before it made: they all
are read and assigned. -/
inductive Reaches (strict : Bool) : Tree → List Variable → Variable → Tree → Prop where
  | here {settings v rest} : Reaches strict settings (v :: rest) v settings
  | nothing {settings earlier rest v current} :
      earlier.override? strict = .ok none →
      Reaches strict settings rest v current →
      Reaches strict settings (earlier :: rest) v current
  | assigned {settings earlier override next rest v current} :
      earlier.override? strict = .ok (some override) →
      override.Assigns settings next →
      Reaches strict next rest v current →
      Reaches strict settings (earlier :: rest) v current

variable {strict : Bool} {v : Variable} {override : Override} {rest : List Variable}
  {settings next : Tree}

/-- A name that leads nowhere makes no override. -/
theorem path_ne_nil_of_override (made : v.override? strict = .ok (some override)) :
    override.path ≠ [] := by
  unfold Variable.override? at made
  split at made
  · cases made
  · obtain ⟨path, _, made⟩ := exists_of_bind_eq_ok made
    split at made
    · cases made
    next nonempty =>
      obtain ⟨value, _, made⟩ := exists_of_bind_eq_ok made
      cases made
      exact nonempty

theorem applies (strict : Bool) (settings : Tree) (v : Variable) : Applies strict settings v := by
  cases made : v.override? strict with
  | error fault => exact .unread made
  | ok override? =>
      cases override? with
      | none => exact .nothing made
      | some override =>
          cases assigned : (settings.assign override.value override.path).2 with
          | none => exact .assigned made ⟨path_ne_nil_of_override made, Prod.ext rfl assigned⟩
          | some fault => exact .unassigned made assigned

/-! The rest is applied to what the first variable made, unless it stops the applying. -/

theorem applyVariables_of_none (made : v.override? strict = .ok none) :
    applyVariables strict settings (v :: rest) = applyVariables strict settings rest := by
  rw [applyVariables, made]

theorem applyVariables_of_assigns (rest : List Variable)
    (made : v.override? strict = .ok (some override))
    (assigns : override.Assigns settings next) :
    (applyVariables strict settings (v :: rest)).settings =
        (applyVariables strict next rest).settings ∧
      (applyVariables strict settings (v :: rest)).fault =
        (applyVariables strict next rest).fault := by
  simp [applyVariables, made, applyOverride, assigns.assigned]

theorem fault_of_unread {fault : Fault} (unread : v.override? strict = .error fault) :
    (applyVariables strict settings (v :: rest)).fault = some fault := by
  rw [applyVariables, unread]

theorem fault_of_unassigned {fault : AssignFault} (made : v.override? strict = .ok (some override))
    (failed : (settings.assign override.value override.path).2 = some fault) :
    (applyVariables strict settings (v :: rest)).fault = some (.assignment fault) := by
  simp [applyVariables, made, applyOverride, failed]

/-! Applying all variables, or up to the one where it stops. -/

theorem assignsAll_of_applyVariables {vs : List Variable}
    (faultless : (applyVariables strict settings vs).fault = none) :
    ∃ overrides, readOverrides strict vs = .ok overrides ∧
      AssignsAll overrides settings (applyVariables strict settings vs).settings := by
  -- For all settings at once: the other variables start from what the first one made.
  induction vs generalizing settings with
  | nil => exact ⟨[], rfl, .nil⟩
  | cons v rest inductionHypothesis =>
      cases applies strict settings v with
      | nothing made =>
          rw [applyVariables_of_none made] at faultless ⊢
          obtain ⟨overrides, others, assigns⟩ := inductionHypothesis faultless
          exact ⟨overrides, by rw [readOverrides, made, others]; rfl, assigns⟩
      | @assigned override next made assigns =>
          obtain ⟨settled, blamed⟩ := applyVariables_of_assigns rest made assigns
          rw [blamed] at faultless
          obtain ⟨overrides, others, later⟩ := inductionHypothesis faultless
          refine ⟨override :: overrides, ?_, settled ▸ .cons assigns later⟩
          rw [readOverrides, made, others]
          rfl
      | unread failed =>
          rw [fault_of_unread failed] at faultless
          cases faultless
      | unassigned made failed =>
          rw [fault_of_unassigned made failed] at faultless
          cases faultless

theorem Reaches.fault_eq {current : Tree} {vs : List Variable} {fault : Fault}
    (reaches : Reaches strict settings vs v current) (unread : v.override? strict = .error fault) :
    (applyVariables strict settings vs).fault = some fault := by
  induction reaches with
  | here => exact fault_of_unread unread
  | nothing made _ inductionHypothesis =>
      rw [applyVariables_of_none made, inductionHypothesis unread]
  | @assigned _ _ _ _ rest _ _ made assigns _ inductionHypothesis =>
      rw [(applyVariables_of_assigns rest made assigns).2, inductionHypothesis unread]

/-- A fault comes from a variable that is reached: it cannot be read, or its assignment fails. -/
theorem exists_reaches_of_fault {vs : List Variable} {fault : Fault}
    (stopped : (applyVariables strict settings vs).fault = some fault) :
    ∃ v current, Reaches strict settings vs v current ∧
      (v.override? strict = .error fault ∨ ∃ unassigned, fault = .assignment unassigned) := by
  induction vs generalizing settings with
  | nil => cases stopped
  | cons v rest inductionHypothesis =>
      cases applies strict settings v with
      | nothing made =>
          rw [applyVariables_of_none made] at stopped
          obtain ⟨reached, current, reaches, blamed⟩ := inductionHypothesis stopped
          exact ⟨reached, current, .nothing made reaches, blamed⟩
      | assigned made assigns =>
          rw [(applyVariables_of_assigns rest made assigns).2] at stopped
          obtain ⟨reached, current, reaches, blamed⟩ := inductionHypothesis stopped
          exact ⟨reached, current, .assigned made assigns reaches, blamed⟩
      | unread failed =>
          rw [fault_of_unread failed] at stopped
          cases stopped
          exact ⟨v, settings, .here, .inl failed⟩
      | @unassigned _ own made failed =>
          rw [fault_of_unassigned made failed] at stopped
          cases stopped
          exact ⟨v, settings, .here, .inr ⟨own, rfl⟩⟩

/-! What stays, and what holds in the end. -/

/-- The settings after assigning overrides one after the other. -/
def Tree.assignAll (tree : Tree) (overrides : List Override) : Tree :=
  overrides.foldl (fun settings override => (settings.assign override.value override.path).1) tree

namespace Override.Assigns

variable {found : Tree} {place : Path}

theorem exists_altered (assigns : override.Assigns settings next) (acyclic : settings.Acyclic) :
    ∃ change front rest,
      (Tree.change? settings.nextStage override.value settings override.path).1 = some change ∧
        Tree.Altered override.value override.path settings next change front rest := by
  obtain ⟨change, front, rest, changed, altered⟩ :=
    Tree.exists_altered acyclic assigns.nonempty (congrArg Prod.snd assigns.assigned)
  rw [assigns.assigned] at altered
  exact ⟨change, front, rest, congrArg Prod.fst changed, altered⟩

theorem acyclic (assigns : override.Assigns settings next) (acyclic : settings.Acyclic) :
    next.Acyclic := by
  have kept := acyclic.assign override.value override.path
  rwa [assigns.assigned] at kept

theorem unshared (assigns : override.Assigns settings next) (unshared : settings.Unshared) :
    next.Unshared := by
  have kept := unshared.assign override.value override.path
  rwa [assigns.assigned] at kept

theorem exists_eq_map (assigns : override.Assigns settings next)
    (isMap : ∃ origin entries, settings = .map origin entries) :
    ∃ origin entries, next = .map origin entries := by
  obtain ⟨origin, entries, rfl⟩ := isMap
  have made : ((Tree.map origin entries).assign override.value override.path).1 = next :=
    congrArg Prod.fst assigns.assigned
  rw [← made, Tree.assign_fst]
  cases (Tree.change? (Tree.map origin entries).nextStage override.value (.map origin entries)
    override.path).1 with
  | none => exact ⟨origin, entries, rfl⟩
  | some change => exact ⟨origin, _, by rw [Option.elim_some, Tree.apply]⟩

end Override.Assigns

namespace AssignsAll

variable {overrides before after : List Override} {final found : Tree} {place : Path}

theorem acyclic (assigns : AssignsAll overrides settings final) (acyclic : settings.Acyclic) :
    final.Acyclic := by
  induction assigns with
  | nil => exact acyclic
  | cons first _ inductionHypothesis => exact inductionHypothesis (first.acyclic acyclic)

theorem unshared (assigns : AssignsAll overrides settings final) (unshared : settings.Unshared) :
    final.Unshared := by
  induction assigns with
  | nil => exact unshared
  | cons first _ inductionHypothesis => exact inductionHypothesis (first.unshared unshared)

theorem exists_eq_map (assigns : AssignsAll overrides settings final)
    (isMap : ∃ origin entries, settings = .map origin entries) :
    ∃ origin entries, final = .map origin entries := by
  induction assigns with
  | nil => exact isMap
  | cons first _ inductionHypothesis => exact inductionHypothesis (first.exists_eq_map isMap)

end AssignsAll

end Stencil.Settings
