import Stencil.Value.Canonical

set_option autoImplicit false

/-!
Nodes of a template: fixed text, placeholders for the value at a key path, blocks that repeat or
condition a body, sequences, and custom nodes, which are of none of these kinds and whose text is
made elsewhere. A block's body counts as a sequence of its own.
-/

namespace Stencil

structure KeyPath where
  text : String
  nonempty : text ≠ ""
  deriving DecidableEq, Repr

inductive Node where
  | literal (text : String)
  | placeholder (path : KeyPath) (escape : Value)
  | block (path : KeyPath) (invert : Value) (body : List Node)
  | sequence (children : List Node)
  | custom (label : String)

namespace Node

def name : Node → String
  | literal _ => "Literal"
  | placeholder .. => "Placeholder"
  | block .. => "Section"
  | sequence _ => "NodeSequence"
  | custom _ => "CustomNode"

mutual

/-- The node and all below it, each before its parts. -/
def iterNodes : Node → List Node
  | .literal text => [.literal text]
  | .placeholder path escape => [.placeholder path escape]
  | .block path invert body => .block path invert body :: .sequence body :: iterAll body
  | .sequence children => .sequence children :: iterAll children
  | .custom label => [.custom label]

def iterAll : List Node → List Node
  | [] => []
  | node :: rest => iterNodes node ++ iterAll rest

end

mutual

/-- Nodes are equal part by part; a custom node equals no other. -/
def equals : Node → Node → Bool
  | .literal s, .literal t => s == t
  | .placeholder p e, .placeholder q f => p == q && e.equals f
  | .block p i body, .block q j other => p == q && i.equals j && equalAll body other
  | .sequence xs, .sequence ys => equalAll xs ys
  | _, _ => false

def equalAll : List Node → List Node → Bool
  | [], [] => true
  | x :: xs, y :: ys => equals x y && equalAll xs ys
  | _, _ => false

end

mutual

/-- The kind of the first flag that may change, which keeps the node out of sets. -/
def changeable? : Node → Option String
  | .placeholder _ escape => escape.changeable?
  | .block _ invert body => invert.changeable?.or (changeableIn? body)
  | .sequence children => changeableIn? children
  | _ => none

def changeableIn? : List Node → Option String
  | [] => none
  | node :: rest => (changeable? node).or (changeableIn? rest)

end

end Node
end Stencil
