import Stencil.Node.Build
import Stencil.Render.Generate

set_option autoImplicit false

/-!
Rendering a template from a root: into a sink, with a record before and after, into a text, or chunk
by chunk on demand, without records.
-/

namespace Stencil

/-- What a render needs besides a template, its settings and handlers. -/
structure Kit where
  sorting : Sorting
  /-- The chunks of a custom node, by its label and the values from its scope outwards. -/
  texts : String → List Value → List String

namespace Kit

/-- Custom nodes write chunks and look nothing up. -/
def custom (kit : Kit) (label : String) (scope : Scope) : Run Unit :=
  (kit.texts label scope.chain).forM Run.emit

/-- Custom nodes with nothing but a label, which write it and the depth of their scope. -/
def labelling : Kit :=
  ⟨.standard, fun label chain => [label, Value.numberText (chain.length - 1)]⟩

end Kit

namespace Render

def chunks (trace : List Entry) : List String := trace.filterMap Entry.chunk?

def records (trace : List Entry) : List LogRecord := trace.filterMap Entry.record?

def chunkCount (session : Session) : Nat := (chunks session.newest).length

def engineRecord (message : String) : Entry :=
  .logged ⟨"engine", LogRecord.debugLevel, message⟩

def opening (node : Node) (scope : Scope) : Entry :=
  engineRecord ("Rendering " ++ node.name ++ " at scope depth " ++ Value.numberText scope.depth)

def closing (node : Node) (count : Nat) : Entry :=
  engineRecord ("Rendered " ++ node.name ++ " (" ++ Value.numberText count ++ " chunks)")

/-- Writes the chunks of a node into the sink, with a record before and after. -/
def write (setting : Setting) (node : Node) (scope : Scope) : Run Unit := do
  Run.record (opening node scope)
  let before := chunkCount (← get)
  node.generate setting scope
  let after := chunkCount (← get)
  Run.record (closing node (after - before))

/-- A part that is no node cannot be rendered. -/
def writePart (setting : Setting) (root : Part) (scope : Scope) : Run Unit := do
  write setting (← Run.ofExcept root.node?) scope

/-- The text of a part, written into a sink of its own. -/
def text (setting : Setting) (root : Part) (scope : Scope) : Run String := do
  let before ← get
  let (outcome, after) := (writePart setting root scope).execute { before with sink := .unlimited }
  set { after with sink := before.sink }
  match outcome with
  | .ok _ => return String.join (chunks (after.since before))
  | .error interrupt => throw interrupt

/-- Yields up to `count` chunks; nothing happens until the first is asked for. -/
def take (setting : Setting) (count : Nat) (root : Part) (scope : Scope) : Run Unit := do
  if count = 0 then throw .halted
  modify fun session => { session with sink := .haltingAfter count }
  (← Run.ofExcept root.node?).generate setting scope

def setting (kit : Kit) (behaviour : Behaviour) (context : Context) : Setting :=
  ⟨.standard behaviour, context, kit.custom, kit.sorting⟩

end Render
end Stencil
