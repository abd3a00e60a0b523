import Stencil.Settings.Load

set_option autoImplicit false

/-!
Loaded settings are kept by project and environment, so that a later request for the same project
under the same variables gets what the first one loaded. Projects are named by paths; different
spellings of a path name one project.
-/

namespace Stencil.Settings
open Text

abbrev Location := List String

/-- The names that a path goes through; steps to where one is already are left out. -/
def pathNames (path : String) : List String :=
  (splitAt "/" path).filter fun name => name != "" && name != "."

/-- Goes on from a place by a name. A step back takes away the name before it, if there is one. -/
def goOn (place : Location) (name : String) : Location :=
  if name == ".." then place.dropLast else place ++ [name]

/-- Projects on record: the place that paths start from, unless they start with a slash, the places
that exist, and the settings folder of each that has one. -/
structure Projects where
  home : Location
  places : List Location
  folders : List (Location × Folder)

namespace Projects

def none : Projects := ⟨["home"], [[], ["home"]], []⟩

/-- Where a path starts. -/
def start (projects : Projects) (path : String) : Location :=
  if path.toList.head? == some '/' then [] else projects.home

/-- The location that a path names, be there anything on the way or not. -/
def locate (projects : Projects) (path : String) : Location :=
  (pathNames path).foldl goOn (projects.start path)

/-- Follows names from a place, none of which may be missing. -/
def follow? (projects : Projects) : Location → List String → Option Location
  | place, [] => some place
  | place, name :: rest =>
      let next := goOn place name
      if projects.places.contains next then follow? projects next rest else Option.none

/-- The settings folder of a project, if the path leads to one. -/
def folder? (projects : Projects) (path : String) : Option Folder :=
  (projects.follow? (projects.start path) (pathNames path)).bind fun place =>
    (projects.folders.find? (·.1 == place)).map (·.2)

/-- The places that names lead through from a place on. -/
def placesOn (start : Location) (names : List String) : List Location :=
  (names.foldl (fun (place, seen) name =>
    (goOn place name, seen ++ [goOn place name])) (start, ([] : List Location))).2

/-- Writes a document into the settings folder of a project, making what is missing on the way. -/
def write (projects : Projects) (path : String) (item : FolderItem) : Projects :=
  let start := projects.start path
  let names := pathNames path
  let place := (placesOn start names).getLast?.getD start
  let folder := ((projects.folders.find? (·.1 == place)).map (·.2)).getD []
  { projects with
    places := projects.places ++ placesOn start (names ++ [".whisker", "config"])
    folders := projects.folders.filter (·.1 != place) ++ [(place, Folder.write folder item)] }

end Projects

namespace Environment

def unset (environment : Environment) (name : String) : Environment :=
  environment.filter (·.name != name)

def set (environment : Environment) (name text : String) : Environment :=
  environment.unset name ++ [⟨name, text⟩]

/-- The variables that settings can depend on, in order. -/
def relevant (environment : Environment) : Environment :=
  Environment.ordered (environment.filter fun v => v.path?.isSome)

end Environment

structure CacheKey where
  project : Option Location
  environment : Environment
  deriving DecidableEq

/-- The settings kept, by key, and all that were ever loaded, in order. -/
structure Cache where
  kept : List (CacheKey × Nat)
  loaded : List Tree

namespace Cache

def empty : Cache := ⟨[], []⟩

def keyOf (projects : Projects) (project : Option String) (environment : Environment) : CacheKey :=
  ⟨project.map projects.locate, environment.relevant⟩

/-- The number of the settings kept under a key. -/
def find? (cache : Cache) (key : CacheKey) : Option Nat :=
  (cache.kept.find? (·.1 == key)).map (·.2)

/-- What a project's settings are without a cache. -/
def fresh (loader : Loader) (projects : Projects) (environment : Environment)
    (project : Option String) : Except Fault Tree :=
  load loader .standard (project.bind projects.folder?) environment

/-- The cache after a request, and the number of the settings it got. -/
def get (cache : Cache) (loader : Loader) (projects : Projects) (environment : Environment)
    (project : Option String) : Except Fault (Cache × Nat) :=
  let key := keyOf projects project environment
  match cache.find? key with
  | some number => .ok (cache, number)
  | none => do
      let settings ← fresh loader projects environment project
      let number := cache.loaded.length
      return (⟨cache.kept ++ [(key, number)], cache.loaded ++ [settings]⟩, number)

def settings (cache : Cache) (number : Nat) : Tree := cache.loaded.getD number .null

def clear (cache : Cache) : Cache := { cache with kept := [] }

/-- Changes a rendering setting of settings that were handed out, for all who hold them. -/
def change (cache : Cache) (number : Nat) (name : String) (value : Value) : Cache :=
  let (changed, _) := (cache.settings number).assign value [.key "rendering", .key name]
  { cache with loaded := cache.loaded.set number changed }

end Cache

/-- All that a request for settings depends on, with the numbers that earlier requests got. -/
structure Shelf where
  cache : Cache
  projects : Projects
  environment : Environment
  got : List Nat

inductive Request where
  | get (project : Option String)
  /-- Settings for rendering, not counted among the requests. -/
  | consult (project : Option String)
  | set (name text : String)
  | unset (name : String)
  | clear
  | write (project : String) (item : FolderItem)
  /-- Changes what the earlier request of that position got. -/
  | change (position : Nat) (name : String) (value : Value)

namespace Shelf

def initial (environment : Environment) : Shelf := ⟨.empty, .none, environment, []⟩

/-- The shelf after a request, and the number of the settings got if it asks for any. -/
def answer (loader : Loader) (shelf : Shelf) : Request → Except Fault (Shelf × Option Nat)
  | .get project => do
      let (cache, number) ← shelf.cache.get loader shelf.projects shelf.environment project
      return ({ shelf with cache, got := shelf.got ++ [number] }, some number)
  | .consult project => do
      let (cache, number) ← shelf.cache.get loader shelf.projects shelf.environment project
      return ({ shelf with cache }, some number)
  | .set name text => .ok ({ shelf with environment := shelf.environment.set name text }, none)
  | .unset name => .ok ({ shelf with environment := shelf.environment.unset name }, none)
  | .clear => .ok ({ shelf with cache := shelf.cache.clear }, none)
  | .write project item => .ok ({ shelf with projects := shelf.projects.write project item }, none)
  | .change position name value =>
      let number := shelf.got.getD position 0
      .ok ({ shelf with cache := shelf.cache.change number name value }, none)

end Shelf
end Stencil.Settings
