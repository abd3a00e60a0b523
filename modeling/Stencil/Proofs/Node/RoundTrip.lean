import Stencil.Proofs.Node.Acceptance
import Stencil.Proofs.Node.Usage
import Stencil.Proofs.Resolve.Agreement

set_option autoImplicit false

/-!
Writing templates and reading them back. Trees of built-in nodes, and no others, have a written form.
With truth values for flags it keeps to the grammar, and it describes the tree that was written.
-/

namespace Stencil.Node

/-- The node's own flags are truth values. -/
def HasFlags : Node → Prop
  | .placeholder _ flag | .block _ flag _ => IsFlag flag
  | .literal _ | .sequence _ | .custom _ => True

/-- All flags in the tree are truth values. -/
def IsFlagged (node : Node) : Prop := ∀ part ∈ node.iterNodes, part.HasFlags

mutual

/-- A tree is written, or refused for a node that is not built in. -/
theorem toValue_outcome : ∀ node : Node,
    (node.IsBuiltIn ∧ ∃ value, toValue node = .ok value) ∨
      (¬node.IsBuiltIn ∧ ∃ fault, toValue node = .error (.template fault))
  | .literal s => .inl ⟨by simp [IsBuiltIn, iterNodes], _, rfl⟩
  | .placeholder path escape => .inl ⟨by simp [IsBuiltIn, iterNodes], _, rfl⟩
  | .block path invert body => by
      rcases toValues_outcome body with ⟨builtIn, values, written⟩ | ⟨foreign, fault, refused⟩
      · exact .inl ⟨by simpa [IsBuiltIn, iterNodes] using builtIn, _, by rw [toValue, written]; rfl⟩
      · exact .inr ⟨by simpa [IsBuiltIn, iterNodes] using foreign, _, by rw [toValue, refused]; rfl⟩
  | .sequence children => by
      rcases toValues_outcome children with ⟨builtIn, values, written⟩ | ⟨foreign, fault, refused⟩
      · exact .inl ⟨by simpa [IsBuiltIn, iterNodes] using builtIn, _, by rw [toValue, written]; rfl⟩
      · exact .inr ⟨by simpa [IsBuiltIn, iterNodes] using foreign, _, by rw [toValue, refused]; rfl⟩
  | .custom label => .inr ⟨fun builtIn => builtIn label (by simp [iterNodes]), _, rfl⟩

theorem toValues_outcome : ∀ nodes : List Node,
    ((∀ label, .custom label ∉ iterAll nodes) ∧ ∃ values, toValues nodes = .ok values) ∨
      (¬(∀ label, .custom label ∉ iterAll nodes) ∧
        ∃ fault, toValues nodes = .error (.template fault))
  | [] => .inl ⟨by simp [iterAll], [], rfl⟩
  | node :: rest => by
      rcases toValue_outcome node with ⟨builtIn, value, written⟩ | ⟨foreign, fault, refused⟩
      · rcases toValues_outcome rest with ⟨builtIns, values, others⟩ | ⟨foreign, fault, refused⟩
        · refine .inl ⟨fun label => ?_, value :: values, by rw [toValues, written, others]; rfl⟩
          simpa [iterAll] using ⟨builtIn label, builtIns label⟩
        · refine .inr ⟨fun builtIns => foreign fun label => ?_, fault, ?_⟩
          · exact (by simpa [iterAll] using builtIns label : _ ∧ _).2
          · rw [toValues, written, refused]
            rfl
      · refine .inr ⟨fun builtIns => foreign fun label => ?_, fault, by rw [toValues, refused]; rfl⟩
        exact (by simpa [iterAll] using builtIns label : _ ∧ _).1

end

/-! The written form of each kind of node, and what it describes. -/

theorem inGrammar_of_forms {items : List Value} {nodes : List Node}
    (forms : List.Forall₂ IsFormOf items nodes) : ∀ item ∈ items, InGrammar item := by
  induction forms with
  | nil => simp
  | cons form _ inductionHypothesis =>
      exact List.forall_mem_cons.mpr ⟨form.grammatical, inductionHypothesis⟩

theorem isFormOf_literal (s : String) :
    IsFormOf (.ofFields [("literal", .text s)]) (.literal s) := by
  have fits : literalForm.Fits [(.text "literal", .text s)] :=
    ⟨by simp [literalForm], by simp [literalForm, IsText]⟩
  exact ⟨.literal fits, .literal fits (by simp [ Value.entry?, Value.isText])⟩

theorem isFormOf_placeholder (path : KeyPath) (flag : Bool) :
    IsFormOf (.ofFields (("placeholder", .text path.text) ::
        if flag then [("escape", .bool true)] else []))
      (.placeholder path (.bool flag)) := by
  cases flag with
  | false =>
      have fits : placeholderForm.Fits [(.text "placeholder", .text path.text)] :=
        ⟨by simp [placeholderForm], by simp [placeholderForm, IsPath]⟩
      exact ⟨.placeholder fits, .placeholder fits (by simp [ Value.entry?, Value.isText])⟩
  | true =>
      have fits : placeholderForm.Fits
          [(.text "placeholder", .text path.text), (.text "escape", .bool true)] :=
        ⟨by simp [placeholderForm], by simp [placeholderForm, IsPath, IsFlag]⟩
      exact ⟨.placeholder fits, .placeholder fits (by simp [ Value.entry?, Value.isText])⟩

theorem isFormOf_block (path : KeyPath) (flag : Bool) {items : List Value} {body : List Node}
    (forms : List.Forall₂ IsFormOf items body) :
    IsFormOf (.ofFields [("section", .text path.text), ("invert", .bool flag),
        ("body", .list items)])
      (.block path (.bool flag) body) := by
  have fits : blockForm.Fits
      [(.text "section", .text path.text), (.text "invert", .bool flag),
        (.text "body", .list items)] :=
    ⟨by simp [blockForm], by simp [blockForm, IsPath, IsFlag, IsList]⟩
  constructor
  · refine .block fits fun own here => ?_
    obtain rfl : own = items := by simpa using here
    exact inGrammar_of_forms forms
  · exact .block fits (by simp [ Value.entry?, Value.isText])
      (by simp [ Value.entry?, Value.isText]) (forms.imp fun _ _ form => form.describes)

mutual

theorem isFormOf_of_toValue : ∀ {node : Node} {value : Value}, node.IsFlagged →
    toValue node = .ok value → IsFormOf value node
  | .literal s, _, _, written => by
      cases written
      exact isFormOf_literal s
  | .placeholder path escape, _, flagged, written => by
      obtain ⟨flag, rfl⟩ : IsFlag escape := flagged (.placeholder path escape) (by simp [iterNodes])
      cases written
      exact isFormOf_placeholder path flag
  | .block path invert body, _, flagged, written => by
      obtain ⟨flag, rfl⟩ : IsFlag invert := flagged (.block path invert body) (by simp [iterNodes])
      rw [toValue] at written
      obtain ⟨items, inside, written⟩ := exists_of_bind_eq_ok written
      cases written
      exact isFormOf_block path flag (forms_of_toValues
        (fun part member => flagged part (by simp [iterNodes, member])) inside)
  | .sequence children, _, flagged, written => by
      rw [toValue] at written
      obtain ⟨items, inside, written⟩ := exists_of_bind_eq_ok written
      cases written
      have forms := forms_of_toValues
        (fun part member => flagged part (by simp [iterNodes, member])) inside
      exact ⟨.list (inGrammar_of_forms forms), .list (forms.imp fun _ _ form => form.describes)⟩

theorem forms_of_toValues : ∀ {nodes : List Node} {values : List Value},
    (∀ part ∈ iterAll nodes, part.HasFlags) → toValues nodes = .ok values →
    List.Forall₂ IsFormOf values nodes
  | [], _, _, written => by
      cases written
      exact .nil
  | node :: rest, _, flagged, written => by
      rw [toValues] at written
      obtain ⟨value, first, written⟩ := exists_of_bind_eq_ok written
      obtain ⟨others, later, written⟩ := exists_of_bind_eq_ok written
      cases written
      exact .cons
        (isFormOf_of_toValue (fun part member => flagged part (by simp [iterAll, member])) first)
        (forms_of_toValues (fun part member => flagged part (by simp [iterAll, member])) later)

end

/-! A tree of built-in nodes with truth values for flags equals itself. -/

mutual

theorem equals_self : ∀ {node : Node}, node.IsBuiltIn → node.IsFlagged → node.equals node = true
  | .literal s, _, _ => by simp [equals]
  | .placeholder path escape, _, flagged => by
      obtain ⟨flag, rfl⟩ : IsFlag escape := flagged (.placeholder path escape) (by simp [iterNodes])
      simp [equals, Value.equals, Value.canonical?]
  | .block path invert body, builtIn, flagged => by
      obtain ⟨flag, rfl⟩ : IsFlag invert := flagged (.block path invert body) (by simp [iterNodes])
      have same : equalAll body body = true := equalAll_self
        (fun label member => builtIn label (by simp [iterNodes, member]))
        (fun part member => flagged part (by simp [iterNodes, member]))
      simp [equals, Value.equals, Value.canonical?, same]
  | .sequence children, builtIn, flagged => by
      rw [equals]
      exact equalAll_self (fun label member => builtIn label (by simp [iterNodes, member]))
        (fun part member => flagged part (by simp [iterNodes, member]))
  | .custom label, builtIn, _ => absurd (by simp [iterNodes]) (builtIn label)

theorem equalAll_self : ∀ {nodes : List Node}, (∀ label, .custom label ∉ iterAll nodes) →
    (∀ part ∈ iterAll nodes, part.HasFlags) → equalAll nodes nodes = true
  | [], _, _ => rfl
  | node :: rest, builtIn, flagged => by
      rw [equalAll, Bool.and_eq_true]
      constructor
      · exact equals_self (fun label member => builtIn label (by simp [iterAll, member]))
          (fun part member => flagged part (by simp [iterAll, member]))
      · exact equalAll_self (fun label member => builtIn label (by simp [iterAll, member]))
          (fun part member => flagged part (by simp [iterAll, member]))

end

end Stencil.Node
