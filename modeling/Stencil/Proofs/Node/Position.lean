import Mathlib.Data.List.Forall2
import Stencil.Node.Basic

set_option autoImplicit false

/-!
Positions in a tree: the ways down from its root. The nodes of a tree, as they are listed, are those
at its positions, one for each, and the positions come in the order of a dictionary: a way before
those that go on from it, and these before the ways that turn off later.
-/

namespace Stencil.Node

/-- A way down: which part to go into at each node. -/
abbrev Position := List Nat

/-- The nodes right below. The body of a block is a sequence of its own. -/
def parts : Node → List Node
  | .block _ _ body => [.sequence body]
  | .sequence children => children
  | .literal _ | .placeholder .. | .custom _ => []

/-- The node that a way down leads to, if it leads anywhere. -/
def at? : Position → Node → Option Node
  | [], node => some node
  | index :: rest, node => node.parts[index]?.bind (at? rest)

mutual

def positions : Node → List Position
  | .block _ _ body => [] :: ([] :: positionsFrom 0 body).map (0 :: ·)
  | .sequence children => [] :: positionsFrom 0 children
  | .literal _ | .placeholder .. | .custom _ => [[]]

def positionsFrom (index : Nat) : List Node → List Position
  | [] => []
  | node :: rest => node.positions.map (index :: ·) ++ positionsFrom (index + 1) rest

end

/-- The nodes of a tree, listed by their positions: all positions that lead anywhere, each once, in
the order of a dictionary. -/
structure ListsInOrder (node : Node) (positions : List Position) (nodes : List Node) : Prop where
  ascending : positions.Pairwise (List.Lex (· < ·))
  complete : ∀ position, position ∈ positions ↔ (node.at? position).isSome
  each : List.Forall₂ (fun position part => node.at? position = some part) positions nodes

theorem positions_eq (node : Node) : node.positions = [] :: positionsFrom 0 node.parts := by
  cases node with
  | block path invert body => simp [positions, parts, positionsFrom]
  | _ => rfl

theorem mem_positionsFrom {index : Nat} {nodes : List Node} {position : Position} :
    position ∈ positionsFrom index nodes ↔
      ∃ offset part rest, nodes[offset]? = some part ∧ rest ∈ part.positions ∧
        position = (index + offset) :: rest := by
  induction nodes generalizing index with
  | nil => simp [positionsFrom]
  | cons node others inductionHypothesis =>
      have shifted (offset : Nat) : index + 1 + offset = index + (offset + 1) := by omega
      rw [positionsFrom, List.mem_append, inductionHypothesis, List.mem_map]
      constructor
      · rintro (⟨rest, member, rfl⟩ | ⟨offset, part, rest, there, member, rfl⟩)
        · exact ⟨0, node, rest, rfl, member, rfl⟩
        · exact ⟨offset + 1, part, rest, there, member, by rw [shifted]⟩
      · rintro ⟨offset, part, rest, there, member, rfl⟩
        cases offset with
        | zero =>
            cases there
            exact .inl ⟨rest, member, rfl⟩
        | succ offset => exact .inr ⟨offset, part, rest, there, member, by rw [shifted]⟩

theorem mem_positions_iff (node : Node) (position : Position) :
    position ∈ node.positions ↔ (node.at? position).isSome := by
  induction position generalizing node with
  | nil => simp [positions_eq, at?]
  | cons index rest inductionHypothesis =>
      have below : index :: rest ∈ node.positions ↔
          ∃ part, node.parts[index]? = some part ∧ rest ∈ part.positions := by
        simp only [positions_eq node, List.mem_cons, reduceCtorEq, false_or, mem_positionsFrom,
          Nat.zero_add, List.cons.injEq]
        constructor
        · rintro ⟨offset, part, _, there, member, rfl, rfl⟩
          exact ⟨part, there, member⟩
        · rintro ⟨part, there, member⟩
          exact ⟨index, part, rest, there, member, rfl, rfl⟩
      rw [below, at?]
      cases node.parts[index]? with
      | none => simp
      | some part => simp [inductionHypothesis]

theorem pairwise_root_cons {index : Nat} {nodes : List Node}
    (ascending : (positionsFrom index nodes).Pairwise (List.Lex (· < ·))) :
    ([] :: positionsFrom index nodes).Pairwise (List.Lex (· < ·)) := by
  refine .cons ?_ ascending
  intro position below
  obtain ⟨_, _, _, _, _, rfl⟩ := mem_positionsFrom.mp below
  exact .nil

mutual

theorem pairwise_positions : ∀ node : Node, node.positions.Pairwise (List.Lex (· < ·))
  | .literal _ | .placeholder .. | .custom _ => List.pairwise_singleton _ _
  | .sequence children => pairwise_root_cons (pairwise_positionsFrom children 0)
  | .block path invert body => by
      have inside := pairwise_root_cons (pairwise_positionsFrom body 0)
      have shifted : (([] :: positionsFrom 0 body).map (0 :: ·)).Pairwise (List.Lex (· < ·)) :=
        List.pairwise_map.mpr (inside.imp .cons)
      refine .cons ?_ shifted
      intro position below
      obtain ⟨_, _, rfl⟩ := List.mem_map.mp below
      exact .nil

theorem pairwise_positionsFrom : ∀ (nodes : List Node) (index : Nat),
    (positionsFrom index nodes).Pairwise (List.Lex (· < ·))
  | [], _ => .nil
  | node :: rest, index => by
      rw [positionsFrom, List.pairwise_append, List.pairwise_map]
      refine ⟨(pairwise_positions node).imp .cons, pairwise_positionsFrom rest (index + 1), ?_⟩
      -- The parts after the first one have greater numbers.
      intro position first later others
      obtain ⟨_, _, rfl⟩ := List.mem_map.mp first
      obtain ⟨offset, _, _, _, _, rfl⟩ := mem_positionsFrom.mp others
      exact .rel (by omega)

end

mutual

theorem forall₂_positions : ∀ node : Node,
    List.Forall₂ (fun position part => node.at? position = some part) node.positions node.iterNodes
  | .literal _ | .placeholder .. | .custom _ => .cons rfl .nil
  | .sequence children => .cons rfl (forall₂_positionsFrom children [])
  | .block path invert body => by
      rw [positions, iterNodes, List.map_cons]
      refine .cons rfl (.cons rfl ?_)
      rw [List.forall₂_map_left_iff]
      exact forall₂_positionsFrom body []

theorem forall₂_positionsFrom : ∀ nodes earlier : List Node,
    List.Forall₂ (fun position part => (sequence (earlier ++ nodes)).at? position = some part)
      (positionsFrom earlier.length nodes) (iterAll nodes)
  | [], _ => .nil
  | node :: rest, earlier => by
      rw [positionsFrom, iterAll]
      apply List.rel_append
      · rw [List.forall₂_map_left_iff]
        apply (forall₂_positions node).imp
        intro position part leads
        simp [at?, parts, leads]
      · have others := forall₂_positionsFrom rest (earlier ++ [node])
        simpa using others

end

/-- Going through a tree lists its nodes by their positions. -/
theorem iterNodes_listsInOrder (node : Node) :
    node.ListsInOrder node.positions node.iterNodes where
  ascending := pairwise_positions node
  complete := mem_positions_iff node
  each := forall₂_positions node

/-- A node that stands in two places is listed for each of them. -/
example : (sequence [literal "a", sequence [literal "a"]]).positions = [[], [0], [1], [1, 0]] := rfl

end Stencil.Node
