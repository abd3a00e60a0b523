import Stencil.Proofs.Settings.Acceptance
import Stencil.Proofs.Settings.Overriding
import Stencil.Settings.Cache

set_option autoImplicit false

/-!
What settings depend on. Loading them reads the variables with the mark, in the order of their
names, and no others. So under the same variables with the mark the same settings are loaded, and
where there are none, the documents hold as they are.
-/

namespace Stencil.Settings

variable {loader : Loader} {options : LoadOptions} {environment other : Environment}

/-- The variables of lesser name than the one given, and the others, both in order. -/
def lesserThan (v : Variable) (environment : Environment) : List Variable :=
  environment.ordered.filter fun u => !decide (v.name ≤ u.name)

def notLesserThan (v : Variable) (environment : Environment) : List Variable :=
  environment.ordered.filter fun u => decide (v.name ≤ u.name)

/-- A variable is put behind those of lesser name and before the others. -/
theorem ordered_cons (v : Variable) (environment : Environment) :
    Environment.ordered (v :: environment) =
        lesserThan v environment ++ v :: notLesserThan v environment ∧
      environment.ordered = lesserThan v environment ++ notLesserThan v environment := by
  have trans : ∀ a b c : Variable, decide (a.name ≤ b.name) = true →
      decide (b.name ≤ c.name) = true → decide (a.name ≤ c.name) = true :=
    fun _ _ _ => by simpa using String.le_trans
  have total : ∀ a b : Variable, (decide (a.name ≤ b.name) || decide (b.name ≤ a.name)) = true :=
    fun a b => by simpa using String.le_total a.name b.name
  obtain ⟨lesser, others, inserted, rest, less⟩ := List.mergeSort_cons trans total v environment
  have sorted := List.pairwise_mergeSort trans total (v :: environment)
  rw [inserted, List.pairwise_append, List.pairwise_cons] at sorted
  have more := sorted.2.1.1
  have ordered : environment.ordered = lesser ++ others := rest
  have left : lesserThan v environment = lesser := by
    have none : others.filter (fun u => !decide (v.name ≤ u.name)) = [] := by
      refine List.filter_eq_nil_iff.mpr fun u member => ?_
      rw [more u member]
      exact Bool.false_ne_true
    rw [lesserThan, ordered, List.filter_append, List.filter_eq_self.mpr less, none, List.append_nil]
  have right : notLesserThan v environment = others := by
    have none : lesser.filter (fun u => decide (v.name ≤ u.name)) = [] :=
      List.filter_eq_nil_iff.mpr fun u member => (Bool.not_eq_true _).mpr
        ((Bool.not_eq_true' _).mp (less u member))
    rw [notLesserThan, ordered, List.filter_append, List.filter_eq_self.mpr more, none,
      List.nil_append]
  rw [left, right]
  exact ⟨inserted, ordered⟩

/-- It makes no difference whether variables are left out before they are put in order or after. -/
theorem ordered_filter (chosen : Variable → Bool) (environment : Environment) :
    Environment.ordered (environment.filter chosen) = environment.ordered.filter chosen := by
  induction environment with
  | nil => simp [Environment.ordered]
  | cons v rest inductionHypothesis =>
      have ⟨inserted, ordered⟩ := ordered_cons v rest
      rw [inserted, List.filter_append]
      cases choice : chosen v with
      | false =>
          rw [List.filter_cons_of_neg (by simp [choice]), List.filter_cons_of_neg (by simp [choice]),
            inductionHypothesis, ← List.filter_append, ← ordered]
      | true =>
          rw [List.filter_cons_of_pos choice, List.filter_cons_of_pos choice,
            (ordered_cons v (rest.filter chosen)).1]
          simp only [lesserThan, notLesserThan, inductionHypothesis, List.filter_filter,
            Bool.and_comm]

theorem override?_of_unmarked {strict : Bool} {v : Variable} (unmarked : v.path? = none) :
    v.override? strict = .ok none := by
  rw [Variable.override?, unmarked]

theorem applyVariables_filter (strict : Bool) (settings : Tree) (vs : List Variable) :
    applyVariables strict settings (vs.filter fun v => v.path?.isSome) =
      applyVariables strict settings vs := by
  induction vs generalizing settings with
  | nil => rfl
  | cons v rest inductionHypothesis =>
      cases marked : v.path? with
      | none =>
          rw [List.filter_cons_of_neg (by simp [marked]), inductionHypothesis,
            applyVariables_of_none (override?_of_unmarked marked)]
      | some name =>
          rw [List.filter_cons_of_pos (by simp [marked]), applyVariables, applyVariables]
          simp only [inductionHypothesis]

theorem applyEnvironment_eq (strict : Bool) (settings : Tree) (environment : Environment) :
    applyEnvironment strict settings environment =
      applyVariables strict settings environment.relevant := by
  rw [applyEnvironment, Environment.relevant, ordered_filter, applyVariables_filter]

/-- The same settings are loaded under the same variables with the mark. -/
theorem load_congr (same : other.relevant = environment.relevant) (project : Option Folder) :
    load loader options project other = load loader options project environment := by
  simp only [load, applyEnvironment_eq, same]

theorem load_of_unmarked {project : Option Folder} {base : Tree}
    (follows : loader.check.Follows .settings) (unmarked : ∀ v ∈ environment, v.path? = none)
    (layered : layers loader project = .ok base) (conforms : Conforms settingsSchema base.value) :
    load loader .standard project environment = .ok base := by
  have irrelevant : environment.relevant = [] := by
    have nothing : environment.filter (fun v => v.path?.isSome) = [] := by simpa using unmarked
    rw [Environment.relevant, nothing]
    exact List.mergeSort_nil
  have applied : applyEnvironment false base environment = ⟨base, [], none⟩ := by
    rw [applyEnvironment_eq, irrelevant]
    rfl
  have valid : validate loader.check true settingsSchemaName base.value = .ok () :=
    (validate_settings_eq_ok_iff follows true _).mpr conforms
  simp only [load, LoadOptions.standard, bind, Except.bind, layered, applied, valid, if_true]
  rfl

theorem load_bundled (follows : loader.check.Follows .settings)
    (unmarked : ∀ v ∈ environment, v.path? = none) :
    load loader .standard none environment = .ok bundled := by
  refine load_of_unmarked follows unmarked rfl ?_
  rw [bundled, Tree.value_ofValue]
  exact defaults_conform

end Stencil.Settings
