import Stencil.Proofs.Lookup.Isolation
import Stencil.Proofs.Lookup.Streamless
import Stencil.Proofs.Render.Matching

set_option autoImplicit false

/-!
Each render of a generator is that of a new one. It writes the same text, calls the same handlers
and ends in the same way as if nothing had gone before and the generator were left alone meanwhile;
what it leaves behind on the generator are the changes that its handlers made.
-/

namespace Stencil

namespace Render

variable {kit : Kit} {behaviour : Behaviour} {context : Context} {own : HandlerLists} {older : List Entry}

theorem record_matches_beside {entry : Entry} (unchanging : entry.changes behaviour = []) :
    Run.Matches (Session.RendersBeside behaviour own older) Eq (Run.record entry)
      (Run.record entry) :=
  fun _ _ beside => ⟨.ok rfl, beside.addEntry unchanging⟩

theorem emit_matches_beside (chunk : String) :
    Run.Matches (Session.RendersBeside behaviour own older) Eq (Run.emit chunk)
      (Run.emit chunk) := by
  apply Run.matches_emit
  · intro session fresh beside
    exact beside.sink
  · exact record_matches_beside rfl
  · intro sink session fresh beside
    exact { beside with sink := rfl }

/-- Two scopes of a render with the same data, of which resolvers make no stream. -/
structure SameScope (scope scope' : Scope) : Prop where
  alike : scope.Alike Value.SameStreamless scope'
  rendering : scope.family = Generator.renderFamily
  respects : scope.settings.registry.Respects Value.SameStreamless

theorem setting_matches_beside (contained : behaviour.IsContained) (kit : Kit)
    (context : Context) :
    (setting kit behaviour context).Matches
      (setting kit (behaviour.without Generator.ownFamily) context) .any SameScope Value.SameStreamless
      (Session.RendersBeside behaviour own older) where
  child _ _ _ _ kinship same := ⟨kinship.alike.child same, kinship.rendering, kinship.respects⟩
  lookup _ _ path kinship _ :=
    Lookup.standard_matches_beside contained kinship.alike kinship.rendering kinship.respects path
  elements _ _ same := Run.matches_elements?_of_streamless same
  condition _ _ same := Run.matches_condition_of_streamless same
  text := by
    rintro escape _ value ⟨rfl, _⟩
    rfl
  emit := emit_matches_beside
  custom _ _ _ kinship _ := Kit.custom_matches emit_matches_beside
    (congrArg _ (kinship.alike.chain_eq fun _ _ same => same.1))

theorem chunkCount_of_beside {session fresh : Session}
    (beside : Session.Beside behaviour own older session fresh) :
    chunkCount session = chunkCount fresh + (chunks older).length := by
  rw [chunkCount, chunkCount, beside.newest, chunks, chunks, chunks, List.filterMap_append,
    List.length_append]

theorem write_matches_beside (contained : behaviour.IsContained) (kit : Kit) (context : Context)
    (node : Node) {scope : Scope} (kinship : SameScope scope scope) :
    Run.Matches (Session.RendersBeside behaviour own older) Eq
      (write (setting kit behaviour context) node scope)
      (write (setting kit (behaviour.without Generator.ownFamily) context) node scope) := by
  apply write_matches (setting_matches_beside contained kit context) _ _ node (Usage.any_covers node)
    kinship rfl
  · intro record
    exact record_matches_beside rfl
  · intro before before' after after' besideBefore besideAfter
    rw [chunkCount_of_beside besideBefore.toBeside, chunkCount_of_beside besideAfter.toBeside]
    omega

end Render

namespace Generator

variable {generator : Generator} {kit : Kit} {behaviour : Behaviour} {source : Value}

/-- What a render reads off its generator before it begins, or why it cannot. -/
def preparation (generator : Generator) (provider : Provider) :
    Except Fault (Context × ScopeSettings × Bool) := do
  let context ← generator.createContext provider
  let settings ← generator.scopeSettings
  let strict ← generator.settings.strictKeys
  return (context, settings, strict)

/-- A render writes the root in a scope of its own, with a copy of the handlers. -/
theorem execute_renderTo (generator : Generator) (kit : Kit) (behaviour : Behaviour)
    (source : Value) (provider : Provider) (session : Session) :
    (generator.renderTo kit behaviour source provider).execute session =
      match generator.preparation provider with
      | .error fault => (.error (.fault fault), session)
      | .ok (context, settings, strict) =>
          (Render.write (Render.setting kit behaviour context) generator.root
            (.root renderFamily settings source)).execute
              (session.withLists renderFamily
                (renderLists strict (session.lists ownFamily))) := by
  rw [renderTo, preparation, Run.execute_bind]
  cases generator.createContext provider with
  | error fault => rfl
  | ok context =>
      simp only [Run.execute_ofExcept_ok, Run.execute_bind]
      rw [createScope, Run.execute_bind]
      cases generator.scopeSettings with
      | error fault => rfl
      | ok settings => cases generator.settings.strictKeys <;> rfl

theorem execute_renderTo_of_error {provider : Provider} {fault : Fault}
    (prepared : generator.preparation provider = .error fault) (kit : Kit)
    (behaviour : Behaviour) (source : Value) (session : Session) :
    (generator.renderTo kit behaviour source provider).execute session =
      (.error (.fault fault), session) := by
  rw [execute_renderTo, prepared]

theorem execute_renderTo_of_ok {provider : Provider} {context : Context}
    {settings : ScopeSettings} {strict : Bool}
    (prepared : generator.preparation provider = .ok (context, settings, strict))
    (kit : Kit) (behaviour : Behaviour) (source : Value) (session : Session) :
    (generator.renderTo kit behaviour source provider).execute session =
      (Render.write (Render.setting kit behaviour context) generator.root
        (.root renderFamily settings source)).execute
          (session.withLists renderFamily (renderLists strict (session.lists ownFamily))) := by
  rw [execute_renderTo, prepared]

theorem registry_of_preparation {provider : Provider} {context : Context}
    {settings : ScopeSettings} {strict : Bool}
    (prepared : generator.preparation provider = .ok (context, settings, strict)) :
    settings.registry = generator.registry := by
  obtain ⟨_, _, prepared⟩ := exists_of_bind_eq_ok prepared
  obtain ⟨_, read, prepared⟩ := exists_of_bind_eq_ok prepared
  obtain ⟨_, _, prepared⟩ := exists_of_bind_eq_ok prepared
  obtain ⟨_, _, read⟩ := exists_of_bind_eq_ok read
  obtain ⟨_, _, read⟩ := exists_of_bind_eq_ok read
  cases prepared
  cases read
  rfl

variable {own : HandlerLists} {older : List Entry} {session fresh : Session}

/-- A render beside that of a generator with the same handlers. -/
theorem renderTo_beside (contained : behaviour.IsContained)
    (respects : generator.registry.Respects Value.SameStreamless)
    (streamless : source.IsStreamless) (kit : Kit) (provider : Provider)
    (start : Session.Beside behaviour own older session fresh)
    (sameOwn : fresh.lists ownFamily = session.lists ownFamily) :
    ((generator.renderTo kit behaviour source provider).execute session).1 =
        ((generator.renderTo kit (behaviour.without ownFamily) source provider).execute fresh).1 ∧
      Session.Beside behaviour own older
        ((generator.renderTo kit behaviour source provider).execute session).2
        ((generator.renderTo kit (behaviour.without ownFamily) source provider).execute fresh).2 := by
  cases prepared : generator.preparation provider with
  | error fault =>
      rw [execute_renderTo_of_error prepared, execute_renderTo_of_error prepared]
      exact ⟨rfl, start⟩
  | ok preparation =>
      obtain ⟨context, settings, strict⟩ := preparation
      have ready : Session.RendersBeside behaviour own older
          (session.withLists renderFamily (renderLists strict (session.lists ownFamily)))
          (fresh.withLists renderFamily (renderLists strict (fresh.lists ownFamily))) :=
        { start with lists := by rw [sameOwn]; rfl }
      have kinship : Render.SameScope (.root renderFamily settings source)
          (.root renderFamily settings source) :=
        ⟨⟨rfl, rfl, ⟨rfl, streamless⟩, .nil⟩, rfl,
          (registry_of_preparation prepared).symm ▸ respects⟩
      have ⟨agree, later⟩ := Render.write_matches_beside contained kit context generator.root
        kinship _ _ ready
      rw [execute_renderTo_of_ok prepared, execute_renderTo_of_ok prepared]
      exact ⟨agree.eq, later.toBeside⟩

end Generator
end Stencil
