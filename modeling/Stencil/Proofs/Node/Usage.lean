import Stencil.Node.Basic

set_option autoImplicit false

/-!
What a tree asks for: the key paths of its placeholders and blocks, wherever they stand in it, and
the texts of its custom nodes.
-/

namespace Stencil

/-- What a tree may ask for: key paths, and the text of custom nodes by their labels. -/
structure Usage where
  path : String → Prop
  label : String → Prop

namespace Usage

def any : Usage := ⟨fun _ => True, fun _ => True⟩

def nothing : Usage := ⟨fun _ => False, fun _ => False⟩

/-- What the node asks for itself, whatever is below it. -/
def Allows (usage : Usage) : Node → Prop
  | .literal _ | .sequence _ => True
  | .placeholder path _ | .block path _ _ => usage.path path.text
  | .custom label => usage.label label

def AllowsAll (usage : Usage) (nodes : List Node) : Prop :=
  ∀ part ∈ Node.iterAll nodes, usage.Allows part

/-- The node and all below it ask for nothing else. -/
def Covers (usage : Usage) (node : Node) : Prop := ∀ part ∈ node.iterNodes, usage.Allows part

theorem any_covers (node : Node) : any.Covers node := by
  intro part _
  cases part <;> trivial

theorem any_allowsAll (nodes : List Node) : any.AllowsAll nodes := by
  intro part _
  cases part <;> trivial

/-- Fixed text, and a sequence for itself, are all that asks for nothing. -/
theorem nothing_allows_iff (node : Node) :
    nothing.Allows node ↔ (∃ text, node = .literal text) ∨ ∃ children, node = .sequence children := by
  cases node <;> simp [Allows, nothing]

variable {usage : Usage}

theorem Covers.children {children : List Node} (covers : usage.Covers (.sequence children)) :
    usage.AllowsAll children := by
  intro part member
  apply covers part
  rw [Node.iterNodes]
  exact List.mem_cons_of_mem _ member

theorem Covers.body {path : KeyPath} {invert : Value} {body : List Node}
    (covers : usage.Covers (.block path invert body)) :
    usage.path path.text ∧ usage.AllowsAll body := by
  constructor
  · exact covers (.block path invert body) (by simp [Node.iterNodes])
  · intro part member
    apply covers part
    rw [Node.iterNodes]
    exact List.mem_cons_of_mem _ (List.mem_cons_of_mem _ member)

theorem AllowsAll.cons {node : Node} {rest : List Node} (allows : usage.AllowsAll (node :: rest)) :
    usage.Covers node ∧ usage.AllowsAll rest := by
  simp only [AllowsAll, Node.iterAll, List.mem_append] at allows
  exact ⟨fun part member => allows part (.inl member), fun part member => allows part (.inr member)⟩

end Usage

namespace Node

def keyPath? : Node → Option String
  | .placeholder path _ | .block path _ _ => some path.text
  | .literal _ | .sequence _ | .custom _ => none

def keyPaths (node : Node) : List String := node.iterNodes.filterMap keyPath?

/-- No node made elsewhere is part of the tree. -/
def IsBuiltIn (node : Node) : Prop := ∀ label, .custom label ∉ node.iterNodes

end Node

theorem Usage.covers_of_forall {node : Node} {usage : Usage}
    (paths : ∀ path ∈ node.keyPaths, usage.path path)
    (labels : ∀ label, .custom label ∈ node.iterNodes → usage.label label) : usage.Covers node := by
  have pathAllowed : ∀ part ∈ node.iterNodes, ∀ path, part.keyPath? = some path →
      usage.path path :=
    fun part member path isPath => paths path (List.mem_filterMap.mpr ⟨part, member, isPath⟩)
  intro part member
  cases part with
  | literal text => trivial
  | placeholder path escape => exact pathAllowed _ member path.text rfl
  | block path invert body => exact pathAllowed _ member path.text rfl
  | sequence children => trivial
  | custom label => exact labels label member

/-- A tree of built-in nodes asks for its key paths and nothing else. -/
theorem Usage.covers_of_isBuiltIn {node : Node} (builtIn : node.IsBuiltIn)
    {asked : String → Prop} (allowed : ∀ path ∈ node.keyPaths, asked path) :
    (⟨asked, fun _ => False⟩ : Usage).Covers node :=
  covers_of_forall allowed builtIn

end Stencil
