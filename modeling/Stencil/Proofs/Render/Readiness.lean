import Stencil.Proofs.Render.Inquiries
import Stencil.Proofs.Render.Strictness
import Stencil.Proofs.Scope.Totality
import Stencil.Proofs.Settings.Acceptance
import Stencil.Proofs.Settings.Readiness

set_option autoImplicit false

/-!
Generators made with settings that passed the check. They can be made for any template, and can set
out to render any source; all lookups of a render are in scopes with the same settings. Such a
lookup fails only if a value that is asked on the way fails to answer, or a handler ends it.
-/

namespace Stencil

/-- A search that fails does so because a value on the way fails to answer. -/
theorem Scope.exists_of_find_eq_error {scope : Scope} {path : String} {fault : Fault}
    (separated : scope.settings.separator ≠ "") (failed : scope.find path = .error fault) :
    ∃ asked segment, scope.Resolves path asked segment ∧
      scope.settings.registry.resolve asked segment = .error fault := by
  by_contra unrefused
  have answered : ∃ reach, scope.find path = .ok reach := by
    refine (exists_find_eq_ok_iff separated).mpr fun asked segment resolves => ?_
    cases resolved : scope.settings.registry.resolve asked segment with
    | ok found => exact ⟨found, rfl⟩
    | error own =>
        have same := (resolves.find_eq_error separated resolved).symm.trans failed
        cases same
        exact absurd ⟨asked, segment, resolves, resolved⟩ unrefused
  rw [failed] at answered
  obtain ⟨_, ⟨⟩⟩ := answered

namespace Lookup

variable {behaviour : Behaviour} {nested : Lookup} {handlers : List Handler} {event : Event}
  {scope : Scope} {path : String} {session later : Session} {interrupt : Interrupt}

/-- If handlers put an end to a lookup, then one of them does, after the others before it. -/
theorem exists_ending_of_notify
    (failed : (notify behaviour nested handlers event).execute session = (.error interrupt, later)) :
    ∃ earlier handler rest left middle, handlers = earlier ++ handler :: rest ∧
      (notify behaviour nested earlier event).execute session = (.ok left, middle) ∧
      (call behaviour nested left handler).execute middle = (.error interrupt, later) := by
  induction handlers generalizing event session with
  | nil => cases failed
  | cons handler rest inductionHypothesis =>
      rcases called : (call behaviour nested event handler).execute session with
        ⟨own | left, middle⟩
      · rw [notify, Run.execute_bind_error called] at failed
        cases failed
        exact ⟨[], handler, rest, event, session, rfl, rfl, called⟩
      · rw [notify, Run.execute_bind_ok called] at failed
        obtain ⟨earlier, ending, others, final, middle', rfl, notified, ended⟩ :=
          inductionHypothesis failed
        refine ⟨handler :: earlier, ending, others, final, middle', rfl, ?_, ended⟩
        rw [notify, Run.execute_bind_ok called, notified]

/-- The strict handler refuses missing keys that nobody took charge of, and nothing else. -/
theorem exists_missing_of_call_strict
    (failed : (call behaviour nested event .strict).execute session = (.error interrupt, later)) :
    ∃ key member substitute, event = .missing key member false substitute ∧
      interrupt = .fault (.keyMissing key member) := by
  cases event with
  | found key value substitute => cases failed
  | missing key member handled substitute =>
      cases handled with
      | true => cases failed
      | false =>
          cases failed
          exact ⟨key, member, substitute, rfl, rfl⟩

/-- The reasons for which a lookup may fail: a value asked on the way, a handler that was called for
what the search came to, or the strict handler, which refuses a missing key. -/
inductive FailsFor (behaviour : Behaviour) (scope : Scope) (path : String) (session : Session) :
    Interrupt → Prop where
  | value {asked segment fault} :
      scope.Resolves path asked segment →
      scope.settings.registry.resolve asked segment = .error fault →
      FailsFor behaviour scope path session (.fault fault)
  | handler {reach earlier handler rest left middle later interrupt} :
      scope.find path = .ok reach →
      (session.lists scope.family).of (.ofReach path reach) = earlier ++ handler :: rest →
      handler ≠ .strict →
      (notify behaviour (bounded behaviour (nestingLimit - 1)) earlier
        (.ofReach path reach)).execute session = (.ok left, middle) →
      (call behaviour (bounded behaviour (nestingLimit - 1)) left handler).execute middle =
        (.error interrupt, later) →
      FailsFor behaviour scope path session interrupt
  | missing {member} :
      scope.find path = .ok (.missing member) →
      .strict ∈ (session.lists scope.family).missing →
      FailsFor behaviour scope path session (.fault (.keyMissing path member))

/-- No lookup fails for another reason. -/
theorem failsFor_of_execute_standard (separated : scope.settings.separator ≠ "")
    (failed : (standard behaviour scope path).execute session = (.error interrupt, later)) :
    FailsFor behaviour scope path session interrupt := by
  rw [standard_eq, execute_through] at failed
  cases found : scope.find path with
  | error fault =>
      rw [found] at failed
      cases failed
      obtain ⟨asked, segment, resolves, refused⟩ := Scope.exists_of_find_eq_error separated found
      exact .value resolves refused
  | ok reach =>
      simp only [found, Run.execute_map] at failed
      rcases notified : (notify behaviour (bounded behaviour (nestingLimit - 1))
        ((session.lists scope.family).of (.ofReach path reach)) (.ofReach path reach)).execute session
        with ⟨own | left, after⟩
      · rw [notified] at failed
        cases failed
        obtain ⟨earlier, handler, rest, left, middle, split, before, ended⟩ :=
          exists_ending_of_notify notified
        by_cases strict : handler = .strict
        · subst strict
          obtain ⟨key, member, substitute, rfl, rfl⟩ := exists_missing_of_call_strict ended
          have origin := notify_yields_origin earlier (.ofReach path reach) session _ middle before
          rw [Event.origin_ofReach] at origin
          cases origin
          have listed : Handler.strict ∈ (session.lists scope.family).missing := by
            have member : Handler.strict ∈ earlier ++ Handler.strict :: rest := by simp
            rwa [← split] at member
          exact .missing found listed
        · exact .handler found split strict before ended
      · rw [notified] at failed
        cases failed

end Lookup

namespace Generator

/-- A generator that is prepared for any source, with the settings of its scopes and whether it is
strict. -/
structure IsReady (generator : Generator) (settings : ScopeSettings) (strict : Bool) : Prop where
  registry : settings.registry = generator.registry
  separated : settings.separator ≠ ""
  keyed : ∀ key ∈ settings.currentKeys, ∃ name, key = .text name ∧ name ≠ ""
  escaper : generator.escaper = .markup ∨ generator.escaper = .none
  strictKeys : generator.settings.strictKeys = .ok strict
  missingLevel : ∃ level, generator.settings.missingLevel = .ok level ∧
    level ∈ ([10, 20, 30, 40, 50] : List Int)
  createContext : ∀ provider, ∃ context, generator.createContext provider = .ok context ∧
    context.escaper = generator.escaper
  createScope : ∀ source session, (generator.createScope source).execute session =
    (.ok (.root renderFamily settings source),
      session.withLists renderFamily (renderLists strict (session.lists ownFamily)))
  inquiries : ∀ kit behaviour source provider session,
    ∀ inquiry ∈ generator.inquiries kit behaviour source provider session,
      inquiry.scope.settings = settings
  find : ∀ (scope : Scope) path, scope.settings = settings →
    ((∃ reach, scope.find path = .ok reach) ↔
      ∀ value segment, scope.Resolves path value segment →
        ∃ found, generator.registry.resolve value segment = .ok found)
  lookup : ∀ behaviour (scope : Scope) path session interrupt later, scope.settings = settings →
    (Lookup.standard behaviour scope path).execute session = (.error interrupt, later) →
    Lookup.FailsFor behaviour scope path session interrupt

variable {generator : Generator} {settings : ScopeSettings} {strict : Bool}

theorem scopeSettings_eq_ok {separator : String} {currentKeys : List Value}
    (separated : generator.settings.separator = .ok separator)
    (keyed : generator.settings.currentKeys = .ok currentKeys) :
    generator.scopeSettings = .ok ⟨generator.registry, separator, currentKeys⟩ := by
  rw [scopeSettings, separated, keyed]
  rfl

theorem exists_createContext {own : Value} (provided : generator.settings.provider = .ok own)
    (provider : Provider) :
    ∃ context, generator.createContext provider = .ok context ∧
      context.escaper = generator.escaper := by
  cases provider with
  | other value =>
      cases value with
      | null => exact ⟨_, by rw [createContext, provided]; rfl, rfl⟩
      | _ => exact ⟨_, rfl, rfl⟩
  | _ => exact ⟨_, rfl, rfl⟩

/-- All that a render looks up, it looks up in scopes with the settings of its root. -/
theorem settings_of_mem_inquiries
    (created : ∀ source session, (generator.createScope source).execute session =
      (.ok (.root renderFamily settings source),
        session.withLists renderFamily (renderLists strict (session.lists ownFamily))))
    (kit : Kit) (behaviour : Behaviour) (source : Value) (provider : Provider)
    (session : Session) :
    ∀ inquiry ∈ generator.inquiries kit behaviour source provider session,
      inquiry.scope.settings = settings := by
  refine Inquiry.forall_mem_after fun context started _ => ?_
  refine Inquiry.forall_mem_after fun scope ready executed => ?_
  refine Inquiry.forall_mem_after fun _ opened _ => ?_
  have root : scope = .root renderFamily settings source := by
    have same := (created source started).symm.trans executed
    cases same
    rfl
  have kept : scope.settings = settings := by rw [root]; rfl
  have child : ∀ (inner : Scope) (value : Value), inner.settings = settings →
      (inner.child value).settings = settings := fun _ _ same => same
  intro inquiry asked
  exact (Node.forall_mem_inquiries child generator.root scope opened (Usage.any_covers _) kept
    inquiry asked).1

theorem exists_isReady (generator : Generator) (ready : generator.settings.AreReady)
    (escaper : generator.escaper = .markup ∨ generator.escaper = .none) :
    ∃ settings strict, generator.IsReady settings strict := by
  obtain ⟨separator, separated, nonempty⟩ := ready.separator
  obtain ⟨currentKeys, keyed, names⟩ := ready.currentKeys
  obtain ⟨provider, provided⟩ := ready.provider
  obtain ⟨strict, strictness⟩ := ready.strictKeys
  have read := scopeSettings_eq_ok separated keyed
  have created : ∀ source session, (generator.createScope source).execute session =
      (.ok (.root renderFamily ⟨generator.registry, separator, currentKeys⟩ source),
        session.withLists renderFamily (renderLists strict (session.lists ownFamily))) := by
    intro source session
    rw [execute_createScope strictness, read]
  exact ⟨_, strict, {
    registry := rfl
    separated := nonempty
    keyed := names
    escaper
    strictKeys := strictness
    missingLevel := ready.missingLevel
    createContext := exists_createContext provided
    createScope := created
    inquiries := settings_of_mem_inquiries created
    find := by
      rintro ⟨family, _, value, outer⟩ path rfl
      exact Scope.exists_find_eq_ok_iff nonempty
    lookup := by
      rintro behaviour ⟨family, _, value, outer⟩ path session interrupt later rfl failed
      exact Lookup.failsFor_of_execute_standard nonempty failed }⟩

/-- Settings that pass the check of a validator that goes by their schema do for rendering: a
generator can be made with them for any template and is ready. -/
theorem exists_isReady_of_validate {validator : Settings.Validator}
    (follows : validator.Follows .settings) {loading : Bool} {config : Value}
    (valid : Settings.validate validator loading Settings.settingsSchemaName config = .ok ())
    (root : Node) (formatter : Formatter) (registry : Registry) :
    ∃ escaper settings strict,
      make (.node root) ⟨config⟩ formatter registry =
          .ok ⟨root, ⟨config⟩, formatter, registry, escaper⟩ ∧
        IsReady ⟨root, ⟨config⟩, formatter, registry, escaper⟩ settings strict := by
  have conforms := (Settings.validate_settings_eq_ok_iff follows loading config).mp valid
  have ready : RenderSettings.AreReady ⟨config⟩ := RenderSettings.areReady_of_conforms conforms
  obtain chosen | chosen := ready.escape
  · obtain ⟨settings, strict, isReady⟩ := exists_isReady
      ⟨root, ⟨config⟩, formatter, registry, .markup⟩ ready (.inl rfl)
    exact ⟨.markup, settings, strict, by rw [make, chosen]; rfl, isReady⟩
  · obtain ⟨settings, strict, isReady⟩ := exists_isReady
      ⟨root, ⟨config⟩, formatter, registry, .none⟩ ready (.inr rfl)
    exact ⟨.none, settings, strict, by rw [make, chosen]; rfl, isReady⟩

def pageSettings : Value :=
  .ofFields [
    ("rendering", .ofFields [
      ("path_separator", .text "->"),
      ("current_value_keys", .list [.text "self"]),
      ("escape", .text "none"),
      ("strict_keys", .bool true)]),
    ("page", .ofFields [("title", .text "Menu")])]

def pageTitle : Node := .placeholder ⟨"page->title", by decide⟩ (.bool true)

theorem pageSettings_conform : Settings.Conforms Settings.settingsSchema pageSettings :=
  (Settings.Schema.objections_eq_nil_iff _ [] _).mp (List.isEmpty_iff.mp (by decide +kernel))

theorem pageTitle_isReady :
    Settings.Validator.standard.Follows .settings ∧
      Settings.validate .standard false Settings.settingsSchemaName pageSettings = .ok () ∧
      ∃ escaper settings strict,
        make (.node pageTitle) ⟨pageSettings⟩ .standard .standard =
            .ok ⟨pageTitle, ⟨pageSettings⟩, .standard, .standard, escaper⟩ ∧
          IsReady ⟨pageTitle, ⟨pageSettings⟩, .standard, .standard, escaper⟩ settings strict :=
  have follows := Settings.Validator.standard_follows_settings
  have valid :=
    (Settings.validate_settings_eq_ok_iff follows false pageSettings).mpr pageSettings_conform
  ⟨follows, valid, exists_isReady_of_validate follows valid pageTitle .standard .standard⟩

end Generator
end Stencil
