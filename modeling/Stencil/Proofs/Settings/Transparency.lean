import Stencil.Proofs.Settings.Origin
import Stencil.Proofs.Settings.Precedence

set_option autoImplicit false

/-!
Kept settings beside fresh ones. Whatever was asked for before, a request for settings gets what a
fresh load gives for the same location. A request that fails leaves nothing behind, and one that
succeeds is answered from then on until all is cleared.
-/

namespace Stencil.Settings

variable {loader : Loader} {projects : Projects} {environment : Environment}
  {project : Option String} {cache : Cache} {number : Nat}

namespace Request

/-- Requests that leave the documents and the settings handed out alone. -/
def IsPlain : Request → Prop
  | write .. | change .. => False
  | _ => True

def asks? : Request → Option (Option String)
  | get project | consult project => some project
  | _ => none

end Request

namespace Shelf

variable {shelf later : Shelf} {request : Request} {requests : List Request}
  {asked : List (CacheKey × Option String)} {key : CacheKey}

def begun (projects : Projects) (environment : Environment) : Shelf :=
  ⟨.empty, projects, environment, []⟩

/-- The shelf after a request; one that fails leaves it as it was. -/
def next (loader : Loader) (shelf : Shelf) (request : Request) : Shelf :=
  match shelf.answer loader request with
  | .ok (later, _) => later
  | .error _ => shelf

def after (loader : Loader) (shelf : Shelf) (requests : List Request) : Shelf :=
  requests.foldl (next loader) shelf

def given (loader : Loader) (shelf : Shelf) (project : Option String) : Except Fault Tree :=
  (shelf.answer loader (.get project)).map fun (later, number) =>
    number.elim .null later.cache.settings

def note (loader : Loader) (shelf : Shelf) (asked : List (CacheKey × Option String))
    (request : Request) : List (CacheKey × Option String) :=
  match request.asks? with
  | some project => Cache.note loader shelf.projects shelf.environment project asked
  | none =>
      match request with
      | .clear => []
      | _ => asked

/-- The projects asked for since all was cleared that could be loaded, with the keys of their
requests. -/
def noteAll (loader : Loader) (shelf : Shelf) (asked : List (CacheKey × Option String)) :
    List Request → List (CacheKey × Option String)
  | [] => asked
  | request :: rest => noteAll loader (shelf.next loader request) (shelf.note loader asked request) rest

theorem answer_get_of_ok
    (got : shelf.cache.get loader shelf.projects shelf.environment project = .ok (cache, number)) :
    shelf.answer loader (.get project) =
      .ok ({ shelf with cache, got := shelf.got ++ [number] }, some number) := by
  rw [answer, got]
  rfl

theorem answer_get_of_error {fault : Fault}
    (failed : shelf.cache.get loader shelf.projects shelf.environment project = .error fault) :
    shelf.answer loader (.get project) = .error fault := by
  rw [answer, failed]
  rfl

theorem note_of_asks (asks : request.asks? = some project) :
    shelf.note loader asked request =
      Cache.note loader shelf.projects shelf.environment project asked := by
  cases request with
  | get own | consult own =>
      cases asks
      rfl
  | _ => cases asks

theorem next_of_asks (asks : request.asks? = some project) :
    (shelf.next loader request).projects = shelf.projects ∧
      (shelf.next loader request).cache =
        shelf.cache.afterGet loader shelf.projects shelf.environment project := by
  cases request with
  | get own | consult own =>
      cases asks
      rw [next, answer, Cache.afterGet]
      cases shelf.cache.get loader shelf.projects shelf.environment project with
      | error fault => exact ⟨rfl, rfl⟩
      | ok gained => exact ⟨rfl, rfl⟩
  | _ => cases asks

theorem isFaithful_next (faithful : shelf.cache.IsFaithful loader shelf.projects asked)
    (plain : request.IsPlain) :
    (shelf.next loader request).projects = shelf.projects ∧
      (shelf.next loader request).cache.IsFaithful loader shelf.projects
        (shelf.note loader asked request) := by
  cases asks : request.asks? with
  | some project =>
      obtain ⟨sameProjects, sameCache⟩ := next_of_asks asks
      rw [sameCache, note_of_asks asks]
      exact ⟨sameProjects, faithful.afterGet _ project⟩
  | none =>
      cases request with
      | get project | consult project => cases asks
      | set name text | unset name => exact ⟨rfl, faithful⟩
      | clear => exact ⟨rfl, Cache.isFaithful_clear loader shelf.projects shelf.cache⟩
      | write project item | change position name value => exact plain.elim

theorem isFaithful_after (faithful : shelf.cache.IsFaithful loader shelf.projects asked)
    (plain : ∀ request ∈ requests, request.IsPlain) :
    (shelf.after loader requests).projects = shelf.projects ∧
      (shelf.after loader requests).cache.IsFaithful loader shelf.projects
        (shelf.noteAll loader asked requests) := by
  induction requests generalizing shelf asked with
  | nil => exact ⟨rfl, faithful⟩
  | cons request rest inductionHypothesis =>
      obtain ⟨plainFirst, plainRest⟩ := List.forall_mem_cons.mp plain
      obtain ⟨sameProjects, faithfulNext⟩ := isFaithful_next faithful plainFirst
      rw [← sameProjects] at faithfulNext ⊢
      exact inductionHypothesis faithfulNext plainRest

/-- What is kept stays kept until all is cleared, whatever is requested. -/
theorem find?_next (kept : shelf.cache.find? key = some number) (unequal : request ≠ .clear) :
    (shelf.next loader request).cache.find? key = some number := by
  cases asks : request.asks? with
  | some project =>
      rw [(next_of_asks asks).2]
      exact Cache.find?_afterGet kept _ _ _ _
  | none =>
      cases request with
      | get project | consult project => cases asks
      | clear => exact absurd rfl unequal
      | _ => exact kept

theorem find?_after (loader : Loader) (kept : shelf.cache.find? key = some number)
    (uncleared : Request.clear ∉ requests) :
    (shelf.after loader requests).cache.find? key = some number := by
  induction requests generalizing shelf with
  | nil => exact kept
  | cons request rest inductionHypothesis =>
      obtain ⟨unequal, unclearedRest⟩ := not_or.mp (List.mem_cons.not.mp uncleared)
      exact inductionHypothesis (find?_next kept (Ne.symm unequal)) unclearedRest

/-- How a request for a project's settings is answered, after others that asked for projects. -/
structure Answers (loader : Loader) (shelf : Shelf) (asked : List (CacheKey × Option String))
    (project : Option String) : Prop where
  /-- It gets what a fresh load gives, or fails as this does, for the project by which settings for
  the location were first loaded. -/
  given : shelf.given loader project =
    Cache.fresh loader shelf.projects shelf.environment
      (Cache.origin shelf.projects asked shelf.environment project)
  /-- If neither of the two paths leads past the project, this is what it gives for the own one. -/
  transparent :
    (∀ path ∈ Cache.origin shelf.projects asked shelf.environment project,
      shelf.projects.Leads path) →
    (∀ path ∈ project, shelf.projects.Leads path) →
    shelf.given loader project = Cache.fresh loader shelf.projects shelf.environment project
  failed : ∀ fault, shelf.answer loader (.get project) = .error fault →
    Cache.fresh loader shelf.projects shelf.environment project = .error fault ∧
      shelf.next loader (.get project) = shelf
  /-- Until all is cleared, requests for the location under the same variables get what the first
  one got, and nothing is loaded. -/
  kept : ∀ later number, shelf.answer loader (.get project) = .ok (later, some number) →
    ∀ requests other, Request.clear ∉ requests →
      other.map shelf.projects.locate = project.map shelf.projects.locate →
      (later.after loader requests).environment.relevant = shelf.environment.relevant →
      (later.after loader requests).answer loader (.get other) =
        .ok ({ later.after loader requests with got := (later.after loader requests).got ++ [number] },
          some number)

theorem given_eq (shelf : Shelf) (project : Option String) :
    shelf.given loader project =
      (shelf.cache.get loader shelf.projects shelf.environment project).map fun (later, number) =>
        later.settings number := by
  rw [given]
  cases got : shelf.cache.get loader shelf.projects shelf.environment project with
  | error fault =>
      rw [answer_get_of_error got]
      rfl
  | ok gained =>
      rw [answer_get_of_ok got]
      rfl

theorem exists_of_answer_get
    (answered : shelf.answer loader (.get project) = .ok (later, some number)) :
    ∃ cache, shelf.cache.get loader shelf.projects shelf.environment project = .ok (cache, number) ∧
      later = { shelf with cache, got := shelf.got ++ [number] } := by
  cases got : shelf.cache.get loader shelf.projects shelf.environment project with
  | error fault =>
      rw [answer_get_of_error got] at answered
      cases answered
  | ok gained =>
      rw [answer_get_of_ok got] at answered
      cases answered
      exact ⟨gained.1, rfl, rfl⟩

theorem home_next (loader : Loader) (shelf : Shelf) (request : Request) :
    (shelf.next loader request).projects.home = shelf.projects.home := by
  cases asks : request.asks? with
  | some project => rw [(next_of_asks asks).1]
  | none =>
      cases request with
      | get project | consult project => cases asks
      | _ => rfl

theorem home_after (loader : Loader) (shelf : Shelf) (requests : List Request) :
    (shelf.after loader requests).projects.home = shelf.projects.home := by
  induction requests generalizing shelf with
  | nil => rfl
  | cons request rest inductionHypothesis =>
      exact (inductionHypothesis (shelf.next loader request)).trans (home_next loader shelf request)

theorem answer_get_of_answered {again : Option String}
    (answered : shelf.answer loader (.get project) = .ok (later, some number))
    (uncleared : Request.clear ∉ requests)
    (sameLocation : again.map shelf.projects.locate = project.map shelf.projects.locate)
    (sameVariables : (later.after loader requests).environment.relevant = shelf.environment.relevant) :
    (later.after loader requests).answer loader (.get again) =
      .ok ({ later.after loader requests with got := (later.after loader requests).got ++ [number] },
        some number) := by
  obtain ⟨cache, got, same⟩ := exists_of_answer_get answered
  have sameHome : (later.after loader requests).projects.home = shelf.projects.home := by
    rw [home_after, same]
  have sameKey : Cache.keyOf (later.after loader requests).projects again
      (later.after loader requests).environment =
        Cache.keyOf shelf.projects project shelf.environment := by
    rw [Cache.keyOf, Cache.keyOf, Projects.locate_congr sameHome, sameLocation, sameVariables]
  have gotten : later.cache.find? (Cache.keyOf shelf.projects project shelf.environment) =
      some number := by
    rw [same]
    exact Cache.find?_of_get got
  have kept := find?_after loader gotten uncleared
  rw [← sameKey] at kept
  exact answer_get_of_ok (Cache.get_of_kept kept)

theorem answers_of_isFaithful (faithful : shelf.cache.IsFaithful loader shelf.projects asked)
    (project : Option String) : shelf.Answers loader asked project where
  given := (shelf.given_eq project).trans (faithful.settings_of_get shelf.environment project)
  transparent := by
    intro leads leadsOther
    rw [given_eq, faithful.settings_of_get]
    exact Cache.fresh_congr_of_leads (faithful.map_locate_origin _ _) leads leadsOther
  failed := by
    intro fault failed
    refine ⟨?_, by rw [next, failed]⟩
    cases got : shelf.cache.get loader shelf.projects shelf.environment project with
    | error own =>
        rw [answer_get_of_error got] at failed
        cases failed
        exact (Cache.get_eq_error_iff.mp got).2
    | ok gained =>
        rw [answer_get_of_ok got] at failed
        cases failed
  kept := fun _ _ answered _ _ => answer_get_of_answered answered

/-- Settings are what a fresh load gives after any requests that leave the documents and the settings
handed out alone, as long as no path leads past a project. -/
theorem answers_after (loader : Loader) (projects : Projects) (environment : Environment)
    (history : List Request) (plain : ∀ request ∈ history, request.IsPlain)
    (project : Option String) :
    ((begun projects environment).after loader history).Answers loader
      ((begun projects environment).noteAll loader [] history) project := by
  have begins : (begun projects environment).cache.IsFaithful loader
      (begun projects environment).projects [] :=
    Cache.isFaithful_clear loader projects .empty
  obtain ⟨sameProjects, faithful⟩ := isFaithful_after begins plain
  rw [← sameProjects] at faithful
  exact answers_of_isFaithful faithful project

def cardProjects : Projects :=
  ⟨["home"], [[], ["home"], ["home", "cards"]], [(["home", "cards"], [cardEscape])]⟩

theorem fresh_cards {path : String} (found : cardProjects.folder? path = some [cardEscape])
    (unmarked : ∀ v ∈ environment, v.path? = none) :
    Cache.fresh .standard cardProjects environment (some path) = .ok cardRendering := by
  have documents : Folder.documents [cardEscape] = [cardEscape] := List.mergeSort_singleton _
  have layered : layers .standard (some [cardEscape]) = .ok cardRendering := by
    simp only [layers, Folder.merge, documents, List.foldlM_cons, List.foldlM_nil, Loader.standard,
      mergeDocument_cardEscape]
    rfl
  rw [Cache.fresh, Option.bind_some, found]
  exact load_of_unmarked Validator.standard_follows_settings unmarked layered
    ((Schema.objections_eq_nil_iff settingsSchema [] _).mp (List.isEmpty_iff.mp (by decide +kernel)))

def cardShelf (path : String) (environment : Environment) : Shelf :=
  ⟨Cache.empty.keep (Cache.keyOf cardProjects (some path) []) cardRendering, cardProjects, environment,
    [0]⟩

theorem next_get_cards {path : String} (found : cardProjects.folder? path = some [cardEscape]) :
    (begun cardProjects []).next .standard (.get (some path)) = cardShelf path [] := by
  have answered : (begun cardProjects []).answer .standard (.get (some path)) =
      .ok (cardShelf path [], some 0) :=
    answer_get_of_ok (Cache.get_of_loaded rfl (fresh_cards found nofun))
  rw [next, answered]

theorem given_cards_respelled :
    (∀ request ∈ [Request.get (some "./cards"), .set "HOME" "/"], request.IsPlain) ∧
      ((begun cardProjects []).after .standard [.get (some "./cards"), .set "HOME" "/"]).given .standard
        (some "/home/cards") = .ok cardRendering := by
  have plain : ∀ request ∈ [Request.get (some "./cards"), .set "HOME" "/"], request.IsPlain := by
    simp [Request.IsPlain]
  have foundWhole : cardProjects.folder? "/home/cards" = some [cardEscape] := by decide +kernel
  have foundDotted : cardProjects.folder? "./cards" = some [cardEscape] := by decide +kernel
  have leadsWhole : cardProjects.Leads "/home/cards" :=
    Projects.leads_iff.mpr (.inl ⟨["home", "cards"], by decide +kernel⟩)
  have leadsDotted : cardProjects.Leads "./cards" :=
    Projects.leads_iff.mpr (.inl ⟨["home", "cards"], by decide +kernel⟩)
  have shelf : (begun cardProjects []).after .standard [.get (some "./cards"), .set "HOME" "/"] =
      cardShelf "./cards" [⟨"HOME", "/"⟩] := by
    rw [after, List.foldl_cons, next_get_cards foundDotted]
    rfl
  have noted : (begun cardProjects []).noteAll .standard []
      [.get (some "./cards"), .set "HOME" "/"] =
        [(Cache.keyOf cardProjects (some "./cards") [], some "./cards")] := by
    have first : (begun cardProjects []).note .standard [] (.get (some "./cards")) =
        [(Cache.keyOf cardProjects (some "./cards") [], some "./cards")] := by
      have loaded : Cache.fresh .standard (begun cardProjects []).projects
          (begun cardProjects []).environment (some "./cards") = .ok cardRendering :=
        fresh_cards foundDotted nofun
      rw [note_of_asks rfl, Cache.note, loaded]
      rfl
    rw [noteAll, first]
    rfl
  have origin : Cache.origin cardProjects
      [(Cache.keyOf cardProjects (some "./cards") [], some "./cards")] [⟨"HOME", "/"⟩]
      (some "/home/cards") = some "./cards" := by decide +kernel
  have answers := answers_after .standard cardProjects [] _ plain (some "/home/cards")
  rw [shelf, noted] at answers
  have given := answers.transparent
    (by rintro path member; cases origin ▸ member; exact leadsDotted)
    (by rintro path ⟨⟩; exact leadsWhole)
  rw [shelf, given]
  exact ⟨plain, fresh_cards foundWhole (by decide +kernel)⟩

/-- What was got for a project is given for a path that cannot be followed and that a fresh load finds
nothing at. -/
theorem given_cards_led_past :
    (∀ request ∈ [Request.get (some "cards")], request.IsPlain) ∧
      ((begun cardProjects []).after .standard [.get (some "cards")]).given .standard
          (some "drafts/../cards") ≠
        Cache.fresh .standard cardProjects [] (some "drafts/../cards") := by
  refine ⟨by simp [Request.IsPlain], ?_⟩
  have missing : (some "drafts/../cards").bind cardProjects.folder? = none := by decide +kernel
  have kept : (cardShelf "cards" []).cache.find?
      (Cache.keyOf cardProjects (some "drafts/../cards") []) = some 0 := by decide +kernel
  have shelf : (begun cardProjects []).after .standard [.get (some "cards")] = cardShelf "cards" [] :=
    next_get_cards (by decide +kernel)
  have given : (cardShelf "cards" []).given .standard (some "drafts/../cards") = .ok cardRendering := by
    rw [given_eq]
    exact congrArg _ (Cache.get_of_kept kept)
  rw [Cache.fresh, missing, load_bundled Validator.standard_follows_settings (by simp), shelf, given]
  intro same
  have escapes : reach? cardRendering.value [.key "rendering", .key "escape"] =
      reach? bundled.value [.key "rendering", .key "escape"] :=
    congrArg (fun settings : Tree => reach? settings.value [.key "rendering", .key "escape"])
      (Except.ok.inj same)
  have other : (some (.text "none") : Option Value) = some (.text "html") := escapes
  simp at other

end Shelf
end Stencil.Settings
