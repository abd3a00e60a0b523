import Mathlib.Logic.Relation
import Stencil.Proofs.Render.Account
import Stencil.Proofs.Render.Place
import Stencil.Render.Generator

set_option autoImplicit false

/-!
Grouping does not matter. Nodes can be put together in a sequence of their own, and empty texts put
between them, at any place in a tree: the render stays the same run, so it writes, calls, uses up and
leaves behind the same, and ends in the same way, whatever lookups and custom nodes do.
-/

namespace Stencil

namespace Node

/-- One step of grouping: nodes at a place get a sequence of their own, or an empty text is put
there. -/
inductive Groups : Node → Node → Prop where
  | sequence (place : Place) (nodes : List Node) :
      Groups (place.plug nodes) (place.plug [.sequence nodes])
  | blank (place : Place) : Groups (place.plug []) (place.plug [.literal ""])

theorem Holder.name_node (holder : Holder) (children others : List Node) :
    (holder.node children).name = (holder.node others).name := by
  cases holder <;> rfl

theorem Place.name_plug (place : Place) (nodes others : List Node) :
    (place.plug nodes).name = (place.plug others).name := by
  cases place with
  | among holder before after => exact holder.name_node _ _
  | deeper holder before place after => exact holder.name_node _ _

theorem Groups.name_eq {node grouped : Node} (groups : Groups node grouped) :
    grouped.name = node.name := by
  cases groups with
  | sequence place nodes => exact place.name_plug _ _
  | blank place => exact place.name_plug _ _

/-- Nodes that are the same run in every scope can stand for each other. -/
theorem Place.generate_plug_congr {setting : Setting} {nodes others : List Node}
    (same : ∀ inner, generateAll setting others inner = generateAll setting nodes inner)
    (place : Place) (scope : Scope) :
    generate setting (place.plug others) scope = generate setting (place.plug nodes) scope := by
  funext session
  apply execute_plug_congr
  intro inner reached _
  rw [same inner]

theorem Groups.generate_eq {node grouped : Node} (groups : Groups node grouped)
    (setting : Setting) (scope : Scope) :
    generate setting grouped scope = generate setting node scope := by
  cases groups with
  | sequence place nodes =>
      apply place.generate_plug_congr
      intro inner
      rw [generateAll_singleton, generate]
  | blank place =>
      apply place.generate_plug_congr
      intro inner
      rw [generateAll_singleton, generate]
      rfl

/-- The trees come from each other by steps of grouping, in either direction. -/
def SameButGrouping : Node → Node → Prop := Relation.EqvGen Groups

namespace SameButGrouping

variable {node other : Node}

theorem eq_of_groups {α : Type} {view : Node → α}
    (kept : ∀ node grouped, Groups node grouped → view grouped = view node)
    (same : SameButGrouping node other) : view other = view node := by
  induction same with
  | rel node grouped groups => exact kept node grouped groups
  | refl => rfl
  | symm _ _ _ inductionHypothesis => exact inductionHypothesis.symm
  | trans _ _ _ _ _ first second => exact second.trans first

theorem name_eq (same : SameButGrouping node other) : other.name = node.name :=
  same.eq_of_groups fun _ _ groups => groups.name_eq

theorem generate_eq (same : SameButGrouping node other) (setting : Setting) (scope : Scope) :
    generate setting other scope = generate setting node scope :=
  same.eq_of_groups fun _ _ groups => groups.generate_eq setting scope

theorem write_eq (same : SameButGrouping node other) (setting : Setting) (scope : Scope) :
    Render.write setting other scope = Render.write setting node scope := by
  unfold Render.write Render.opening Render.closing
  rw [same.name_eq, same.generate_eq]

theorem text_eq (same : SameButGrouping node other) (setting : Setting) (scope : Scope) :
    Render.text setting (.node other) scope = Render.text setting (.node node) scope := by
  rw [Render.text, Render.text, Render.writePart_node, Render.writePart_node, same.write_eq]

theorem take_eq (same : SameButGrouping node other) (setting : Setting) (count : Nat)
    (scope : Scope) :
    Render.take setting count (.node other) scope =
      Render.take setting count (.node node) scope := by
  have generated : Run.ofExcept (Part.node other).node? >>= (generate setting · scope) =
      Run.ofExcept (Part.node node).node? >>= (generate setting · scope) :=
    same.generate_eq setting scope
  rw [Render.take, Render.take, generated]

theorem renderTo_eq (same : SameButGrouping node other) (generator : Generator) (kit : Kit)
    (behaviour : Behaviour) (source : Value) (provider : Provider) :
    { generator with root := other }.renderTo kit behaviour source provider =
      { generator with root := node }.renderTo kit behaviour source provider := by
  -- What is made before the root is rendered does not depend on it.
  show (Run.ofExcept (generator.createContext provider) >>= fun context =>
      generator.createScope source >>= fun scope =>
        Render.write (Render.setting kit behaviour context) other scope) =
    (Run.ofExcept (generator.createContext provider) >>= fun context =>
      generator.createScope source >>= fun scope =>
        Render.write (Render.setting kit behaviour context) node scope)
  simp only [same.write_eq]

/-- Trees that differ in grouping only render in the same way, into a sink, into a text, chunk by
chunk or with a generator: from any session, all that the trace has in addition, in its order, the
ending, the streams used up and the handler lists are the same. -/
theorem renders_eq (same : SameButGrouping node other) :
    (∀ (setting : Setting) (scope : Scope),
      other.generate setting scope = node.generate setting scope ∧
        Render.write setting other scope = Render.write setting node scope ∧
        Render.text setting (.node other) scope = Render.text setting (.node node) scope ∧
        ∀ count, Render.take setting count (.node other) scope =
          Render.take setting count (.node node) scope) ∧
    ∀ (generator : Generator) (kit : Kit) (behaviour : Behaviour) (source : Value)
      (provider : Provider),
      { generator with root := other }.renderTo kit behaviour source provider =
          { generator with root := node }.renderTo kit behaviour source provider ∧
        { generator with root := other }.text kit behaviour source provider =
          { generator with root := node }.text kit behaviour source provider := by
  refine ⟨fun setting scope => ⟨same.generate_eq setting scope, same.write_eq setting scope,
    same.text_eq setting scope, fun count => same.take_eq setting count scope⟩, ?_⟩
  intro generator kit behaviour source provider
  have rendered := same.renderTo_eq generator kit behaviour source provider
  refine ⟨rendered, ?_⟩
  rw [Generator.text, Generator.text, Generator.attempt, Generator.attempt, rendered]

end SameButGrouping

def dishLine : List Node := [.placeholder ⟨"plate", by decide⟩ (.bool false), .literal "; "]

def dishes : Holder := .block ⟨"dishes", by decide⟩ (.bool false)

def dishList : Node := .sequence [.literal "Today: ", dishes.node dishLine]

/-- The same list with empty texts, and with sequences in the list and in the block. -/
def groupedDishList : Node :=
  .sequence [.literal "",
    .sequence [.literal "Today: ", dishes.node [.sequence dishLine, .literal ""]]]

theorem dishList_sameButGrouping : SameButGrouping dishList groupedDishList := by
  -- From inside to outside: the body of the block, the end of the body, and the list.
  have body : Groups dishList _ :=
    .sequence (.deeper .sequence [.literal "Today: "] (.among dishes [] []) []) dishLine
  have ending : Groups _ _ :=
    .blank (.deeper .sequence [.literal "Today: "] (.among dishes [.sequence dishLine] []) [])
  have list : Groups _ _ := .sequence (.among .sequence [] [])
    [.literal "Today: ", dishes.node [.sequence dishLine, .literal ""]]
  have start : Groups _ groupedDishList := .blank (.among .sequence []
    [.sequence [.literal "Today: ", dishes.node [.sequence dishLine, .literal ""]]])
  exact .trans _ _ _ (.rel _ _ body) (.trans _ _ _ (.rel _ _ ending)
    (.trans _ _ _ (.rel _ _ list) (.rel _ _ start)))

/-- Stands in for one missing dish, and is not called again. -/
def standingIn : Behaviour := fun _ _ =>
  .handle true (.substitute (.text "bread") (.edit 0 (.removeMissing (.named "stand-in")) .done))

def kitchen : Scope :=
  .root 0 .standard (.ofFields
    [("dishes", .stream 7 [.ofFields [("plate", .text "soup")], .ofFields [], .ofFields []])])

def shownList (node : Node) : Except Interrupt Unit × Session :=
  (Render.write (Render.setting .labelling standingIn .standard) node kitchen).execute
    (Session.initial.withLists 0 ⟨[.logging 10], [.named "stand-in"]⟩)

/-- Either list has the bread in place of the same dish, and then the dishes are gone. -/
theorem groupedDishList_shown :
    SameButGrouping dishList groupedDishList ∧ shownList groupedDishList = shownList dishList ∧
      Render.chunks (shownList groupedDishList).2.trace =
        ["Today: ", "soup", "; ", "bread", "; ", "; "] ∧
      (shownList groupedDishList).2.spent = [7] ∧
      ((shownList groupedDishList).2.lists 0).missing = [] := by
  have written := (dishList_sameButGrouping.renders_eq.1
    (Render.setting .labelling standingIn .standard) kitchen).2.1
  have same : shownList groupedDishList = shownList dishList := by
    rw [shownList, shownList, written]
  refine ⟨dishList_sameButGrouping, same, ?_⟩
  rw [same]
  exact ⟨by decide +kernel, by decide +kernel, by decide +kernel⟩

end Node
end Stencil
