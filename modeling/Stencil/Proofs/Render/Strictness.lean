import Stencil.Proofs.Lookup.Addition
import Stencil.Proofs.Render.Shadow

set_option autoImplicit false

/-!
Strict rendering is lenient rendering stopped at the first miss that nobody took charge of.
-/

namespace Stencil

theorem Inquiry.exists_missing_of_isMissed {behaviour : Behaviour} {inquiry : Inquiry}
    (missed : inquiry.isMissed (.standard behaviour) = true) :
    ∃ member, inquiry.scope.find inquiry.path = .ok (.missing member) := by
  rw [isMissed_iff, answer, Lookup.standard_eq] at missed
  rcases executed : (Lookup.through behaviour _ inquiry.scope inquiry.path).execute
    inquiry.session with ⟨outcome, later⟩
  rw [executed] at missed
  cases missed
  exact Lookup.exists_missing_of_through_eq_none executed

namespace Generator

variable {kit : Kit} {behaviour : Behaviour} {lenient strict : Generator}

/-- Two generators that differ in nothing but that one is strict about missing keys. -/
structure StrictTwin (lenient strict : Generator) : Prop where
  root : strict.root = lenient.root
  formatter : strict.formatter = lenient.formatter
  registry : strict.registry = lenient.registry
  escaper : strict.escaper = lenient.escaper
  separator : strict.settings.separator = lenient.settings.separator
  currentKeys : strict.settings.currentKeys = lenient.settings.currentKeys
  provider : strict.settings.provider = lenient.settings.provider
  lenient : lenient.settings.strictKeys = .ok false
  strict : strict.settings.strictKeys = .ok true

theorem StrictTwin.createContext (twin : StrictTwin lenient strict) (provider : Provider) :
    strict.createContext provider = lenient.createContext provider := by
  simp only [Generator.createContext, twin.formatter, twin.escaper, twin.provider]

theorem StrictTwin.scopeSettings (twin : StrictTwin lenient strict) :
    strict.scopeSettings = lenient.scopeSettings := by
  simp only [Generator.scopeSettings, twin.registry, twin.separator, twin.currentKeys]

/-- A scope with the handlers of a render, or none if the settings cannot be read. -/
theorem execute_createScope {generator : Generator} {flag : Bool}
    (strictness : generator.settings.strictKeys = .ok flag) (source : Value) (session : Session) :
    (generator.createScope source).execute session =
      match generator.scopeSettings with
      | .error fault => (.error (.fault fault), session)
      | .ok settings =>
          (.ok (.root renderFamily settings source),
            session.withLists renderFamily (renderLists flag (session.lists ownFamily))) := by
  rw [createScope, Run.execute_bind]
  cases generator.scopeSettings with
  | error fault => rfl
  | ok settings =>
      simp only [strictness, Run.execute_ofExcept_ok]
      rfl

variable {session : Session}

/-- A strict render does what the lenient one does when it is stopped at the first miss. -/
theorem StrictTwin.renderTo_alike (twin : StrictTwin lenient strict)
    (plain : (session.lists ownFamily).ArePlain behaviour) (kit : Kit) (source : Value)
    (provider : Provider) :
    ((strict.renderTo kit behaviour source provider).execute session).1 =
        ((lenient.renderStopping kit behaviour source provider).execute session).1 ∧
      Session.Alike ((lenient.renderStopping kit behaviour source provider).execute session).2
        ((strict.renderTo kit behaviour source provider).execute session).2 := by
  rw [renderTo, renderStopping, twin.createContext, twin.root, Run.execute_bind, Run.execute_bind]
  cases lenient.createContext provider with
  | error fault => exact ⟨rfl, rfl, rfl, rfl, rfl⟩
  | ok context =>
      simp only [Run.execute_ofExcept_ok, Run.execute_bind, execute_createScope twin.lenient,
        execute_createScope twin.strict, twin.scopeSettings]
      cases lenient.scopeSettings with
      | error fault => exact ⟨rfl, rfl, rfl, rfl, rfl⟩
      | ok settings =>
          have start : Session.Shadows (session.lists ownFamily)
              (session.withLists renderFamily (renderLists false (session.lists ownFamily)))
              (session.withLists renderFamily (renderLists true (session.lists ownFamily))) :=
            ⟨⟨rfl, rfl, rfl, rfl⟩, rfl, rfl⟩
          have rendering : (Scope.root renderFamily settings source).family = renderFamily := rfl
          have ⟨sameEnding, shadows⟩ :=
            Render.write_shadows plain kit context lenient.root rendering _ _ start
          exact ⟨sameEnding.symm, shadows.toAlike⟩

/-- Strict rendering is lenient rendering stopped at the first lookup that is missed. If none is,
both renders write the same text, call the same handlers and end in the same way. Otherwise the
strict one ends with the fault that names this key and member; it has written what the lenient one
had written before this lookup, and called the handlers that the lenient one had called after it. -/
theorem StrictTwin.renderTo_eq_stopped (twin : StrictTwin lenient strict)
    (plain : (session.lists ownFamily).ArePlain behaviour) (kit : Kit) (source : Value)
    (provider : Provider) :
    ((∀ inquiry ∈ lenient.inquiries kit behaviour source provider session,
        inquiry.isMissed (.standard behaviour) = false) →
      ((strict.renderTo kit behaviour source provider).execute session).1 =
          ((lenient.renderTo kit behaviour source provider).execute session).1 ∧
        Session.Alike ((lenient.renderTo kit behaviour source provider).execute session).2
          ((strict.renderTo kit behaviour source provider).execute session).2) ∧
    ∀ earlier inquiry later,
      lenient.inquiries kit behaviour source provider session = earlier ++ inquiry :: later →
      (∀ other ∈ earlier, other.isMissed (.standard behaviour) = false) →
      inquiry.isMissed (.standard behaviour) = true →
      ∃ member, inquiry.scope.find inquiry.path = .ok (.missing member) ∧
        ((strict.renderTo kit behaviour source provider).execute session).1 =
          .error (.fault (.keyMissing inquiry.path member)) ∧
        Render.chunks ((strict.renderTo kit behaviour source provider).execute session).2.trace =
          Render.chunks inquiry.session.trace ∧
        Session.Alike (inquiry.answer (.standard behaviour)).2
          ((strict.renderTo kit behaviour source provider).execute session).2 := by
  have ⟨sameEnding, alike⟩ := twin.renderTo_alike plain kit source provider
  have stopped := lenient.renderTo_stopsAt kit behaviour source provider session
  constructor
  · intro answered
    have noMiss : (lenient.inquiries kit behaviour source provider session).find?
        (·.isMissed (.standard behaviour)) = none := by
      rw [List.find?_eq_none]
      intro inquiry member
      simp [answered inquiry member]
    simp only [noMiss] at stopped
    rw [← stopped]
    exact ⟨sameEnding, alike⟩
  · intro earlier inquiry later split answered missed
    have firstMiss : (lenient.inquiries kit behaviour source provider session).find?
        (·.isMissed (.standard behaviour)) = some inquiry := by
      rw [List.find?_eq_some_iff_append]
      refine ⟨missed, earlier, later, split, ?_⟩
      intro other member
      simp [answered other member]
    simp only [firstMiss] at stopped
    rw [stopped] at sameEnding alike
    obtain ⟨member, found⟩ := Inquiry.exists_missing_of_isMissed missed
    refine ⟨member, found, ?_, ?_, alike⟩
    · rw [sameEnding, Inquiry.refusal, Scope.missingMember, found]
    · rw [Render.chunks_trace, Render.chunks_trace, alike.chunks]
      congr 1
      exact Lookup.bounded_keeps_chunks _ Lookup.nestingLimit inquiry.scope inquiry.path
        inquiry.session rfl

def greeting (isStrict : Bool) : Generator where
  root := .sequence
    [.literal "Hi ", .placeholder ⟨"name", by decide⟩ (.bool false),
      .placeholder ⟨"surname", by decide⟩ (.bool false)]
  settings := ⟨.ofFields [("rendering", .ofFields [("strict_keys", .bool isStrict)])]⟩
  formatter := .standard
  registry := .standard
  escaper := .none

def reported : Session := ⟨[], fun _ => ⟨[], [.report "missing"]⟩, [], .unlimited, .null⟩

def person : Value := .ofFields [("name", .text "Ada")]

/-- The surname is missing, and a strict greeting ends before it. -/
theorem renderTo_greeting_without_surname :
    let rendered :=
      ((greeting true).renderTo .labelling (fun _ _ => .done) person .absent).execute reported
    StrictTwin (greeting false) (greeting true) ∧
      (reported.lists ownFamily).ArePlain (fun _ _ => .done) ∧
      rendered.1 = .error (.fault (.keyMissing "surname" "surname")) ∧
      Render.chunks rendered.2.trace = ["Hi ", "Ada"] := by
  intro rendered
  have twin : StrictTwin (greeting false) (greeting true) :=
    ⟨rfl, rfl, rfl, rfl, rfl, rfl, rfl, rfl, rfl⟩
  have plain : (reported.lists ownFamily).ArePlain (fun _ _ => .done) := by
    constructor
    · intro handler member
      cases member
    · intro handler member event
      rw [List.mem_singleton.mp member]
      trivial
  obtain ⟨member, found, ending, written, _⟩ :=
    (twin.renderTo_eq_stopped plain .labelling person .absent).2 [_] _ _ rfl
      (by simp only [List.mem_singleton, forall_eq]; decide +kernel) (by decide +kernel)
  cases found
  exact ⟨twin, plain, ending, written⟩

end Generator
end Stencil
