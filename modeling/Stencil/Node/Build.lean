import Stencil.Node.Basic
import Stencil.Value.Elements

set_option autoImplicit false

/-!
Making nodes from parts that may be anything: nodes, plain values, or lists of parts. Each maker
checks what it is given and says what is wrong with it.
-/

namespace Stencil

inductive Part where
  | node (node : Node)
  | value (value : Value)
  | list (items : List Part)

namespace Part

def kindName : Part → String
  | node n => n.name
  | value v => v.kindName
  | list _ => "list"

mutual

def equals : Part → Part → Bool
  | .node m, .node n => m.equals n
  | .value v, .value w => v.equals w
  | .list ps, .list qs => equalAll ps qs
  | _, _ => false

def equalAll : List Part → List Part → Bool
  | [], [] => true
  | p :: ps, q :: qs => equals p q && equalAll ps qs
  | _, _ => false

end

/-- The kind of the first thing in a part that may change, a list of parts being one. -/
def changeable? : Part → Option String
  | .node n => n.changeable?
  | .value v => v.changeable?
  | .list _ => some "list"

end Part

namespace Node

def makeLiteral : Value → Except Fault Node
  | .text s => .ok (.literal s)
  | other => .error (.template (.literalKind other.kindName))

/-- A key path is a text that is not empty. -/
def makePath (node : String) : Value → Except Fault KeyPath
  | .text s =>
      if h : s = "" then .error (.template (.emptyPath node (.text s))) else .ok ⟨s, h⟩
  | other => .error (.template (.emptyPath node other))

def makePlaceholder (path escape : Value) : Except Fault Node := do
  return .placeholder (← makePath "Placeholder" path) escape

/-- The parts that a sequence is made of; texts and fixed byte strings are no sequences. -/
def childParts : Part → Except Fault (List Part)
  | .list items => .ok items
  | .node node => .error (.template (.childrenKind node.name))
  | .value value =>
      match value with
      | .text _ | .bytes false _ => .error (.template (.childrenKind value.kindName))
      | _ =>
          match value.iterated? with
          | some items => .ok (items.map .value)
          | none => .error (.template (.childrenKind value.kindName))

/-- All parts have to be nodes; the number is the position of the first. -/
def childNodes : Nat → List Part → Except Fault (List Node)
  | _, [] => .ok []
  | index, .node node :: rest => do return node :: (← childNodes (index + 1) rest)
  | index, part :: _ => .error (.template (.childKind index part.kindName))

def makeChildren (part : Part) : Except Fault (List Node) := do
  childNodes 0 (← childParts part)

def makeSequence (part : Part) : Except Fault Node := do
  return .sequence (← makeChildren part)

/-- A body that is a sequence already is taken as it is. -/
def makeBody (path : KeyPath) : Part → Except Fault (List Node)
  | .value .null => .error (.template (.missingBody path.text))
  | .node (.sequence children) => .ok children
  | part => makeChildren part

def makeBlock (path invert : Value) (body : Part) : Except Fault Node := do
  let path ← makePath "Section" path
  return .block path invert (← makeBody path body)

/-- Blocks over one path around a node. -/
def nest (path : KeyPath) (invert : Value) (leaf : Node) : Nat → Node
  | 0 => leaf
  | depth + 1 => .block path invert [nest path invert leaf depth]

end Node

/-- The node that a part is, if it is one. -/
def Part.node? : Part → Except Fault Node
  | .node n => .ok n
  | part => .error (.template (.rootKind part.kindName))

end Stencil
