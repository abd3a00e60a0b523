import Stencil.Proofs.Settings.Projects
import Stencil.Proofs.Settings.Relevance

set_option autoImplicit false

/-!
Where kept settings come from. They were loaded for the project first asked for under their key, and a
request gets what a fresh load gives for this project. Paths to one location share a key, so it can be
by another path than the one asked for; as long as no path leads past the location, that makes no
difference.
-/

namespace Stencil.Settings

variable {loader : Loader} {projects : Projects} {environment other : Environment}
  {project : Option String} {cache later : Cache} {number : Nat}

namespace Cache

theorem get_of_kept (kept : cache.find? (keyOf projects project environment) = some number) :
    cache.get loader projects environment project = .ok (cache, number) := by
  rw [get, kept]

def keep (cache : Cache) (key : CacheKey) (settings : Tree) : Cache :=
  ⟨cache.kept ++ [(key, cache.loaded.length)], cache.loaded ++ [settings]⟩

theorem get_of_loaded {settings : Tree}
    (unkept : cache.find? (keyOf projects project environment) = none)
    (loaded : fresh loader projects environment project = .ok settings) :
    cache.get loader projects environment project =
      .ok (cache.keep (keyOf projects project environment) settings, cache.loaded.length) := by
  rw [get, unkept, loaded]
  rfl

theorem get_of_failed {fault : Fault} (unkept : cache.find? (keyOf projects project environment) = none)
    (failed : fresh loader projects environment project = .error fault) :
    cache.get loader projects environment project = .error fault := by
  rw [get, unkept, failed]
  rfl

theorem find?_eq_lookup (cache : Cache) (key : CacheKey) :
    cache.find? key = cache.kept.lookup key := by
  rw [find?]
  induction cache.kept with
  | nil => rfl
  | cons entry rest inductionHypothesis =>
      obtain ⟨own, number⟩ := entry
      by_cases same : key = own
      · simp [same]
      · have unequal : (key == own) = false := beq_eq_false_iff_ne.mpr same
        simp [List.lookup_cons, unequal, Ne.symm same, inductionHypothesis]

theorem lookup_concat {β : Type} (entries : List (CacheKey × β)) (own key : CacheKey) (b : β) :
    (entries ++ [(own, b)]).lookup key =
      (entries.lookup key).or (if key = own then some b else none) := by
  rw [List.lookup_append, List.lookup_cons, List.lookup_nil]
  by_cases same : key = own
  · rw [if_pos same, beq_iff_eq.mpr same]
  · rw [if_neg same, beq_eq_false_iff_ne.mpr same]

theorem find?_keep (cache : Cache) (own key : CacheKey) (settings : Tree) :
    (cache.keep own settings).find? key =
      (cache.find? key).or (if key = own then some cache.loaded.length else none) := by
  rw [find?_eq_lookup, find?_eq_lookup, keep, lookup_concat]

theorem settings_keep_self (key : CacheKey) (settings : Tree) :
    (cache.keep key settings).settings cache.loaded.length = settings := by
  simp [keep, Cache.settings]

theorem settings_keep_of_lt (old : number < cache.loaded.length) (key : CacheKey)
    (settings : Tree) : (cache.keep key settings).settings number = cache.settings number := by
  simp [keep, Cache.settings, List.getElem?_append_left old]

/-- A request is answered from what is kept, or by loading, which is kept then. -/
theorem eq_or_keep_of_get (got : cache.get loader projects environment project = .ok (later, number)) :
    later = cache ∧ cache.find? (keyOf projects project environment) = some number ∨
      cache.find? (keyOf projects project environment) = none ∧
        ∃ settings, fresh loader projects environment project = .ok settings ∧
          later = cache.keep (keyOf projects project environment) settings ∧
          number = cache.loaded.length := by
  cases kept : cache.find? (keyOf projects project environment) with
  | some own =>
      rw [get_of_kept kept] at got
      cases got
      exact .inl ⟨rfl, rfl⟩
  | none =>
      cases loaded : fresh loader projects environment project with
      | error fault =>
          rw [get_of_failed kept loaded] at got
          cases got
      | ok settings =>
          rw [get_of_loaded kept loaded] at got
          cases got
          exact .inr ⟨rfl, settings, rfl, rfl, rfl⟩

theorem find?_of_get (got : cache.get loader projects environment project = .ok (later, number)) :
    later.find? (keyOf projects project environment) = some number := by
  obtain ⟨rfl, kept⟩ | ⟨unkept, settings, -, rfl, rfl⟩ := eq_or_keep_of_get got
  · exact kept
  · simp [find?_keep, unkept]

/-- A request fails just if loading does and nothing is kept. -/
theorem get_eq_error_iff {fault : Fault} :
    cache.get loader projects environment project = .error fault ↔
      cache.find? (keyOf projects project environment) = none ∧
        fresh loader projects environment project = .error fault := by
  constructor
  · intro failed
    cases kept : cache.find? (keyOf projects project environment) with
    | some own =>
        rw [get_of_kept kept] at failed
        cases failed
    | none =>
        cases loaded : fresh loader projects environment project with
        | error own =>
            rw [get_of_failed kept loaded] at failed
            cases failed
            exact ⟨rfl, rfl⟩
        | ok settings =>
            rw [get_of_loaded kept loaded] at failed
            cases failed
  · rintro ⟨unkept, failed⟩
    exact get_of_failed unkept failed

/-- Fresh settings depend on the variables that have the mark, and on no others. -/
theorem fresh_congr (same : other.relevant = environment.relevant) (project : Option String) :
    fresh loader projects other project = fresh loader projects environment project :=
  load_congr same _

/-- All paths that lead to a location lead to the same settings. -/
theorem fresh_congr_of_leads {first : Option String}
    (sameLocation : first.map projects.locate = project.map projects.locate)
    (leads : ∀ path ∈ first, projects.Leads path) (leadsOther : ∀ path ∈ project, projects.Leads path) :
    fresh loader projects environment first = fresh loader projects environment project := by
  cases first with
  | none =>
      cases project with
      | none => rfl
      | some path => cases sameLocation
  | some own =>
      cases project with
      | none => cases sameLocation
      | some path =>
          have sameFolder : projects.folder? own = projects.folder? path := by
            rw [leads own rfl, leadsOther path rfl, Option.some.inj sameLocation]
          rw [fresh, fresh, Option.bind_some, Option.bind_some, sameFolder]

/-- Notes the project of a request under its key, if its settings can be loaded. -/
def note (loader : Loader) (projects : Projects) (environment : Environment) (project : Option String)
    (asked : List (CacheKey × Option String)) : List (CacheKey × Option String) :=
  match fresh loader projects environment project with
  | .ok _ => asked ++ [(keyOf projects project environment, project)]
  | .error _ => asked

/-- Where all that is kept comes from: it was loaded for the project first noted under its key. -/
structure IsFaithful (loader : Loader) (projects : Projects) (asked : List (CacheKey × Option String))
    (cache : Cache) : Prop where
  kept : ∀ key number, cache.find? key = some number → number < cache.loaded.length ∧
    ∃ project environment, asked.lookup key = some project ∧ keyOf projects project environment = key ∧
      fresh loader projects environment project = .ok (cache.settings number)
  unkept : ∀ key, cache.find? key = none → asked.lookup key = none

variable {asked : List (CacheKey × Option String)}

theorem isFaithful_clear (loader : Loader) (projects : Projects) (cache : Cache) :
    cache.clear.IsFaithful loader projects [] where
  kept := nofun
  unkept _ _ := rfl

theorem IsFaithful.keep (faithful : cache.IsFaithful loader projects asked)
    (unkept : cache.find? (keyOf projects project environment) = none) {settings : Tree}
    (loaded : fresh loader projects environment project = .ok settings) :
    (cache.keep (keyOf projects project environment) settings).IsFaithful loader projects
      (asked ++ [(keyOf projects project environment, project)]) where
  kept := by
    have longer : (cache.keep (keyOf projects project environment) settings).loaded.length =
        cache.loaded.length + 1 := by simp [Cache.keep]
    intro key number found
    rw [find?_keep] at found
    rw [longer, lookup_concat]
    by_cases same : key = keyOf projects project environment
    · subst same
      rw [unkept, Option.none_or, if_pos rfl] at found
      cases found
      refine ⟨Nat.lt_succ_self _, project, environment, ?_, rfl, ?_⟩
      · rw [faithful.unkept _ unkept, Option.none_or, if_pos rfl]
      · rw [settings_keep_self, loaded]
    · rw [if_neg same, Option.or_none] at found
      obtain ⟨within, first, moment, noted, sameKey, loadedFirst⟩ := faithful.kept key number found
      refine ⟨Nat.lt_succ_of_lt within, first, moment, by rw [noted, Option.some_or], sameKey, ?_⟩
      rw [settings_keep_of_lt within, loadedFirst]
  unkept := by
    intro key unfound
    rw [find?_keep, Option.or_eq_none_iff] at unfound
    have unequal : key ≠ keyOf projects project environment := by
      rintro rfl
      simp at unfound
    rw [lookup_concat, faithful.unkept key unfound.1, if_neg unequal, Option.none_or]

theorem IsFaithful.concat {key : CacheKey} (faithful : cache.IsFaithful loader projects asked)
    (kept : cache.find? key = some number) (project : Option String) :
    cache.IsFaithful loader projects (asked ++ [(key, project)]) where
  kept := by
    intro own number found
    obtain ⟨within, first, moment, noted, loaded⟩ := faithful.kept own number found
    exact ⟨within, first, moment, by rw [lookup_concat, noted, Option.some_or], loaded⟩
  unkept := by
    intro own unfound
    have unequal : own ≠ key := by
      rintro rfl
      rw [unfound] at kept
      cases kept
    rw [lookup_concat, faithful.unkept own unfound, if_neg unequal, Option.none_or]

def afterGet (cache : Cache) (loader : Loader) (projects : Projects) (environment : Environment)
    (project : Option String) : Cache :=
  match cache.get loader projects environment project with
  | .ok (later, _) => later
  | .error _ => cache

/-- Where settings come from stays on record when a request is answered. -/
theorem IsFaithful.afterGet (faithful : cache.IsFaithful loader projects asked)
    (environment : Environment) (project : Option String) :
    (cache.afterGet loader projects environment project).IsFaithful loader projects
      (note loader projects environment project asked) := by
  cases kept : cache.find? (keyOf projects project environment) with
  | some number =>
      rw [Cache.afterGet, get_of_kept kept, note]
      cases fresh loader projects environment project with
      | error fault => exact faithful
      | ok settings => exact faithful.concat kept project
  | none =>
      cases loaded : fresh loader projects environment project with
      | error fault =>
          rw [Cache.afterGet, get_of_failed kept loaded, note, loaded]
          exact faithful
      | ok settings =>
          rw [Cache.afterGet, get_of_loaded kept loaded, note, loaded]
          exact faithful.keep kept loaded

theorem find?_afterGet {key : CacheKey} (kept : cache.find? key = some number)
    (loader : Loader) (projects : Projects) (environment : Environment) (project : Option String) :
    (cache.afterGet loader projects environment project).find? key = some number := by
  rw [Cache.afterGet]
  cases got : cache.get loader projects environment project with
  | error fault => exact kept
  | ok gained =>
      obtain ⟨next, own⟩ := gained
      obtain ⟨rfl, -⟩ | ⟨-, settings, -, rfl, -⟩ := eq_or_keep_of_get got
      · exact kept
      · exact (find?_keep cache _ key settings).trans (by rw [kept, Option.some_or])

/-- The project by which the settings for a project came that are kept, or this itself. -/
def origin (projects : Projects) (asked : List (CacheKey × Option String))
    (environment : Environment) (project : Option String) : Option String :=
  (asked.lookup (keyOf projects project environment)).getD project

theorem IsFaithful.map_locate_origin (faithful : cache.IsFaithful loader projects asked)
    (environment : Environment) (project : Option String) :
    (origin projects asked environment project).map projects.locate = project.map projects.locate := by
  cases kept : cache.find? (keyOf projects project environment) with
  | none => rw [origin, faithful.unkept _ kept, Option.getD_none]
  | some number =>
      obtain ⟨-, first, moment, noted, sameKey, -⟩ := faithful.kept _ number kept
      rw [origin, noted, Option.getD_some]
      exact congrArg CacheKey.project sameKey

/-- The settings got are those of a fresh load for the project that they came by. -/
theorem IsFaithful.settings_of_get (faithful : cache.IsFaithful loader projects asked)
    (environment : Environment) (project : Option String) :
    (cache.get loader projects environment project).map (fun (later, number) => later.settings number) =
      fresh loader projects environment (origin projects asked environment project) := by
  cases kept : cache.find? (keyOf projects project environment) with
  | some number =>
      obtain ⟨-, first, moment, noted, sameKey, loaded⟩ := faithful.kept _ number kept
      have sameVariables : moment.relevant = environment.relevant :=
        congrArg CacheKey.environment sameKey
      rw [get_of_kept kept, origin, noted, Option.getD_some, ← fresh_congr sameVariables, loaded]
      rfl
  | none =>
      rw [origin, faithful.unkept _ kept, Option.getD_none]
      cases loaded : fresh loader projects environment project with
      | error fault =>
          rw [get_of_failed kept loaded]
          rfl
      | ok settings =>
          rw [get_of_loaded kept loaded]
          exact congrArg _ (settings_keep_self _ settings)

end Cache

end Stencil.Settings
