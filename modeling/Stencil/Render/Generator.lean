import Stencil.Render.Engine
import Stencil.Settings.Rendering

set_option autoImplicit false

/-!
Generators: a template with its settings and handlers, ready to be filled with sources. Each render
works on a copy of the handler lists made when it starts, to which strict settings add a handler
that refuses missing keys.
-/

namespace Stencil

structure Generator where
  root : Node
  settings : RenderSettings
  formatter : Formatter
  registry : Registry
  escaper : Escaper

namespace Generator

/-- The family under which the generator's own handlers are listed. -/
def ownFamily : Nat := 0

/-- The family of the scopes of one render. -/
def renderFamily : Nat := 1

def make (root : Part) (settings : RenderSettings) (formatter : Formatter) (registry : Registry) :
    Except Fault Generator := do
  let node ← root.node?
  let escaper ← Escaper.named (← settings.escape)
  return ⟨node, settings, formatter, registry, escaper⟩

def scopeSettings (generator : Generator) : Except Fault ScopeSettings := do
  let separator ← generator.settings.separator
  let currentKeys ← generator.settings.currentKeys
  return ⟨generator.registry, separator, currentKeys⟩

/-- The handlers of a render. -/
def renderLists (strict : Bool) (own : HandlerLists) : HandlerLists :=
  if strict then own.attach .strict else own

def createScope (generator : Generator) (source : Value) : Run Scope := do
  let settings ← Run.ofExcept generator.scopeSettings
  let strict ← Run.ofExcept generator.settings.strictKeys
  modify fun session =>
    session.withLists renderFamily (renderLists strict (session.lists ownFamily))
  return .root renderFamily settings source

/-- Without a provider of its own, a render takes that of the settings. -/
def createContext (generator : Generator) (provider : Provider) : Except Fault Context := do
  match provider with
  | .other .null =>
      return ⟨generator.formatter, .other (← generator.settings.provider), generator.escaper⟩
  | _ => return ⟨generator.formatter, provider, generator.escaper⟩

/-- Writes the text for a source into the sink. -/
def renderTo (generator : Generator) (kit : Kit) (behaviour : Behaviour)
    (source : Value) (provider : Provider) : Run Unit := do
  let context ← Run.ofExcept (generator.createContext provider)
  let scope ← generator.createScope source
  Render.write (Render.setting kit behaviour context) generator.root scope

/-- One render into a sink of its own: the chunks written and how it ended. -/
def attempt (generator : Generator) (kit : Kit) (behaviour : Behaviour)
    (source : Value) (provider : Provider) (sink : Sink) :
    Run (List String × Except Interrupt Unit) := do
  let before ← get
  let (outcome, after) :=
    (generator.renderTo kit behaviour source provider).execute { before with sink }
  set { after with sink := before.sink }
  return (Render.chunks (after.since before), outcome)

/-- The text of a whole render. -/
def text (generator : Generator) (kit : Kit) (behaviour : Behaviour)
    (source : Value) (provider : Provider) : Run String := do
  let (chunks, outcome) ← generator.attempt kit behaviour source provider .unlimited
  match outcome with
  | .ok _ => return String.join chunks
  | .error interrupt => throw interrupt

end Generator
end Stencil
