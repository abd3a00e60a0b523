import Stencil.Settings.Cache

set_option autoImplicit false

/-!
Where paths lead. A path that passes only through places that exist leads to the location that it
names. So the settings folder of a project is the one on record at its location, unless there is one
there and the path goes through a place that is missing.
-/

namespace Stencil.Settings.Projects

variable {projects : Projects} {place reached : Location} {names : List String} {path : String}

/-- The settings folder on record at a location. -/
def recorded? (projects : Projects) (location : Location) : Option Folder :=
  (projects.folders.find? (·.1 == location)).map (·.2)

theorem locate_congr {other : Projects} (same : other.home = projects.home) :
    other.locate = projects.locate := by
  funext path
  rw [locate, locate, start, start, same]

theorem eq_of_follow? (followed : projects.follow? place names = some reached) :
    reached = names.foldl goOn place := by
  induction names generalizing place with
  | nil => exact (Option.some.inj followed).symm
  | cons name rest inductionHypothesis =>
      rw [follow?] at followed
      split at followed
      · exact inductionHypothesis followed
      · cases followed

/-- The path does not lead past the settings folder on record at its location. -/
def Leads (projects : Projects) (path : String) : Prop :=
  projects.folder? path = projects.recorded? (projects.locate path)

theorem leads_iff : projects.Leads path ↔
    (∃ reached, projects.follow? (projects.start path) (pathNames path) = some reached) ∨
      projects.recorded? (projects.locate path) = Option.none := by
  rw [Leads, folder?]
  cases followed : projects.follow? (projects.start path) (pathNames path) with
  | none => simp [eq_comm]
  | some reached =>
      rw [eq_of_follow? followed]
      simp [recorded?, locate]

end Stencil.Settings.Projects
