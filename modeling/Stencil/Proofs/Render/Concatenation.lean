import Stencil.Proofs.Render.Insertion
import Stencil.Proofs.Render.Inversion
import Stencil.Proofs.Render.Streamless
import Stencil.Proofs.Text.Split

set_option autoImplicit false

/-!
Blocks over lists, item by item. A block over a list under a key of a map, the body of which does
not ask for the key, shows a list put together from two as it shows the one and then the other; and
without streams in the data the one leaves nothing behind that the other could see.
-/

namespace Stencil

/-- A plain block over the list under a key of a map. The body does not ask for the key. -/
structure ListBlock where
  kit : Kit
  behaviour : Behaviour
  context : Context
  family : Nat
  settings : ScopeSettings
  key : KeyPath
  invert : Value
  body : List Node
  /-- The entries of the map besides the list. -/
  entries : List (Value × Value)
  registry : settings.registry = .standard
  undivided : ¬settings.separator.toList <:+: key.text.toList
  other : settings.isCurrent key.text = false
  plain : invert.truth = false
  builtIn : (Node.sequence body).IsBuiltIn
  unasked : ∀ path ∈ (Node.sequence body).keyPaths,
    (Text.pieces settings.separator path).1 ≠ key.text

namespace ListBlock

variable (block : ListBlock)

def source (items : List Value) : Value :=
  .map (Value.putEntry block.key.text (.list items) block.entries)

def root (items : List Value) : Scope := .root block.family block.settings (block.source items)

def setting : Setting := Render.setting block.kit block.behaviour block.context

/-- The block over the items. -/
def render (items : List Value) : Run Unit :=
  (Node.block block.key block.invert block.body).generate block.setting (block.root items)

/-- The chunks that the block writes, beginning from the session. -/
def chunks (items : List Value) (session : Session) : List String :=
  Render.chunks (((block.render items).execute session).2.since session)

theorem chunks_of_execute {items : List Value} {session : Session}
    {outcome : Except Interrupt Unit} {entries : List Entry}
    (executed : (block.render items).execute session = (outcome, session.add entries)) :
    block.chunks items session = Render.chunks entries.reverse := by
  rw [chunks, executed, Session.since_add]

theorem separated : block.settings.separator ≠ "" := by
  intro empty
  apply block.undivided
  rw [empty]
  exact List.nil_infix

theorem resolve_source {name : String} (items : List Value) :
    block.settings.registry.resolve (block.source items) name =
      .ok (Value.entry? name (Value.putEntry block.key.text (.list items) block.entries)) := by
  rw [block.registry, source, Registry.resolve_standard_of_other (by simp) rfl]
  rfl

theorem find_key (items : List Value) :
    (block.root items).find block.key.text = .ok (.found (.list items)) := by
  have whole : Text.pieces block.settings.separator block.key.text = (block.key.text, []) :=
    Text.pieces_of_not_infix block.undivided
  have first : (block.root items).firstSegment block.key.text = block.key.text :=
    congrArg Prod.fst whole
  have later : (block.root items).laterSegments block.key.text = [] := congrArg Prod.snd whole
  have own : block.settings.resolveOwn (block.source items) block.key.text =
      .ok (some (.list items)) := by
    rw [ScopeSettings.resolveOwn, if_neg (by simp [block.other]), block.resolve_source,
      Value.entry?_putEntry_self]
  have outward : (block.root items).settings.resolveOutward block.key.text
      (block.root items).chain = .ok (some (.list items)) :=
    ScopeSettings.resolveOutward_cons_some own
  rw [Scope.find_of_not_isCurrent block.separated block.other, first, outward]
  show Registry.walk _ _ _ = _
  rw [later]
  rfl

/-- Whichever list stands under the key, a child on an item answers the same to the body. -/
theorem child_answersLike (items items' : List Value) (item : Value) :
    ((block.root items).child item).AnswersLike
      (fun path => path ∈ (Node.sequence block.body).keyPaths)
      ((block.root items').child item) := by
  apply Scope.AnswersLike.of_roots
  intro path asked
  rw [block.resolve_source, block.resolve_source,
    Value.entry?_putEntry_of_ne (block.unasked path asked),
    Value.entry?_putEntry_of_ne (block.unasked path asked)]

/-- The body shown for each item, with the given list under the key. -/
def shown (under items : List Value) : Run Unit :=
  Node.generateIn block.setting block.body (items.map (block.root under).child)

theorem execute_shown (under under' items : List Value) (session : Session) :
    (block.shown under' items).execute session = (block.shown under items).execute session := by
  have children : List.Forall₂
      (Scope.AnswersLike fun path => path ∈ (Node.sequence block.body).keyPaths)
      (items.map (block.root under).child) (items.map (block.root under').child) := by
    rw [List.forall₂_map_left_iff, List.forall₂_map_right_iff, List.forall₂_same]
    exact fun item _ => block.child_answersLike under under' item
  exact Render.execute_forM_of_answersLike block.builtIn children session

theorem isSteady (items : List Value) : (Reach.found (.list items)).IsSteady := ⟨id, id⟩

theorem isClassifiable_iff (sorting : Sorting) (items : List Value) :
    (Reach.found (.list items)).IsClassifiable sorting ↔ items.length < Value.lengthLimit := by
  constructor
  · intro classifiable
    exact classifiable.countable items.length rfl
  · intro short
    constructor
    · intro frozen own reason same
      cases same
    · intro length asked
      cases asked
      exact short

theorem plainScopes_list {items : List Value} (short : items.length < Value.lengthLimit)
    (sorting : Sorting) (scope : Scope) :
    Node.plainScopes sorting scope (.found (.list items)) = items.map scope.child := by
  have checked : (Value.list items).checkLength = .ok () :=
    Value.checkLength_eq_ok_iff.mpr ((isClassifiable_iff sorting items).mpr short).countable
  have passing : (Value.list items).elements? sorting [] = .ok (some items) := by
    show ((Value.list items).checkLength >>= fun _ => .ok (some items)) = _
    rw [checked]
    rfl
  simp only [Node.plainScopes, passing]

variable {session : Session}

/-- The block shows its body for each item. -/
theorem execute_render {items : List Value} (short : items.length < Value.lengthLimit)
    (unheard : session.Unheard block.family) :
    (block.render items).execute session = (block.shown items items).execute session := by
  rw [shown, ← plainScopes_list short block.kit.sorting]
  exact Node.execute_plain_block unheard (block.find_key items) (isSteady items)
    ((isClassifiable_iff _ items).mpr short) block.plain block.body

theorem length_lt_of_render_eq_ok {items : List Value} (unheard : session.Unheard block.family)
    (rendered : ((block.render items).execute session).1 = .ok ()) :
    items.length < Value.lengthLimit := by
  by_contra long
  obtain ⟨fault, failing⟩ := Node.exists_fault_of_plain_block unheard (block.find_key items)
    (isSteady items) (mt (isClassifiable_iff _ items).mp long) block.plain block.body
  have failed : ((block.render items).execute session).1 = .error (.fault fault) :=
    congrArg Prod.fst failing
  rw [failed] at rendered
  cases rendered

theorem unheard_after_render (unheard : session.Unheard block.family) (items : List Value) :
    ((block.render items).execute session).2.Unheard block.family := by
  have kept : ((Node.generateAll block.setting [.block block.key block.invert block.body]
      (block.root items)).execute session).2.Unheard block.family :=
    Render.unheard_after unheard _
  rwa [Node.generateAll_singleton] at kept

/-- To show two lists put together is to show the one and then, in the session that is left, the
other. -/
theorem execute_render_append {xs ys : List Value} (short : (xs ++ ys).length < Value.lengthLimit)
    (unheard : session.Unheard block.family) :
    (block.render (xs ++ ys)).execute session =
      (block.render xs >>= fun _ => block.render ys).execute session := by
  have ⟨shortFirst, shortSecond⟩ :
      xs.length < Value.lengthLimit ∧ ys.length < Value.lengthLimit := by
    rw [List.length_append] at short
    omega
  have split : block.shown (xs ++ ys) (xs ++ ys) =
      block.shown (xs ++ ys) xs >>= fun _ => block.shown (xs ++ ys) ys := by
    rw [shown, List.map_append, Node.generateIn_append]
    rfl
  -- Under the list put together the items are shown as under their own.
  rw [block.execute_render short unheard, split, Run.execute_bind, Run.execute_bind,
    block.execute_shown xs, ← block.execute_render shortFirst unheard]
  have stillUnheard := block.unheard_after_render unheard xs
  rcases executed : (block.render xs).execute session with ⟨interrupt | _, later⟩
  · rfl
  · rw [executed] at stillUnheard
    show (block.shown (xs ++ ys) ys).execute later = (block.render ys).execute later
    rw [block.execute_shown ys, block.execute_render shortSecond stillUnheard]

/-- Without streams in the data, the block does the same from every session with the same handlers,
used-up streams and memory that takes all text. -/
theorem exists_execute_render (unheard : session.Unheard block.family) {items : List Value}
    (streamless : (block.source items).IsStreamless) :
    ∃ outcome entries, ∀ started,
      Session.Undrained session.lists session.spent session.memory started →
        (block.render items).execute started = (outcome, started.add entries) :=
  Render.exists_execute_generate unheard _
    ⟨⟨rfl, rfl, ⟨rfl, streamless⟩, .nil⟩, rfl, block.registry⟩

theorem source_isStreamless {items : List Value}
    (streamless : (Value.map block.entries).IsStreamless)
    (each : ∀ item ∈ items, item.IsStreamless) : (block.source items).IsStreamless :=
  streamless.putEntry (.mk id each)

/-- Without streams in the data, the block over two lists put together ends well if and only if it
does over each of them, unless the list is too long to be gone through; and it writes the chunks for
the one, followed by those for the other. -/
theorem chunks_append {xs ys : List Value} (unheard : session.Unheard block.family)
    (unlimited : session.sink = .unlimited) (streamless : (Value.map block.entries).IsStreamless)
    (each : ∀ item ∈ xs ++ ys, item.IsStreamless) :
    (((block.render (xs ++ ys)).execute session).1 = .ok () →
      ((block.render xs).execute session).1 = .ok () ∧
        ((block.render ys).execute session).1 = .ok () ∧
        block.chunks (xs ++ ys) session = block.chunks xs session ++ block.chunks ys session) ∧
    ((xs ++ ys).length < Value.lengthLimit →
      ((block.render xs).execute session).1 = .ok () →
      ((block.render ys).execute session).1 = .ok () →
      ((block.render (xs ++ ys)).execute session).1 = .ok ()) := by
  have ⟨eachFirst, eachSecond⟩ := List.forall_mem_append.mp each
  obtain ⟨first, shownFirst, renderFirst⟩ := block.exists_execute_render unheard
    (block.source_isStreamless streamless eachFirst)
  obtain ⟨second, shownSecond, renderSecond⟩ := block.exists_execute_render unheard
    (block.source_isStreamless streamless eachSecond)
  have here : Session.Undrained session.lists session.spent session.memory session :=
    ⟨rfl, rfl, rfl, unlimited⟩
  have later : Session.Undrained session.lists session.spent session.memory
      (session.add shownFirst) := ⟨rfl, rfl, rfl, unlimited⟩
  have firstAlone := renderFirst session here
  have secondAlone := renderSecond session here
  have split : (xs ++ ys).length < Value.lengthLimit →
      (block.render (xs ++ ys)).execute session =
        (block.render xs >>= fun _ => block.render ys).execute session :=
    fun short => block.execute_render_append short unheard
  rw [firstAlone, secondAlone]
  cases first with
  | error interrupt =>
      constructor
      · intro rendered
        rw [split (block.length_lt_of_render_eq_ok unheard rendered),
          Run.execute_bind_error firstAlone] at rendered
        cases rendered
      · intro _ failed
        cases failed
  | ok _ =>
      -- From the session that the first list leaves, the second one is shown as from the start.
      have both : (xs ++ ys).length < Value.lengthLimit →
          (block.render (xs ++ ys)).execute session =
            (second, session.add (shownSecond ++ shownFirst)) := by
        intro short
        rw [split short, Run.execute_bind_ok firstAlone, renderSecond _ later, Session.add_add]
      constructor
      · intro rendered
        have joined := both (block.length_lt_of_render_eq_ok unheard rendered)
        rw [joined] at rendered
        refine ⟨rfl, rendered, ?_⟩
        rw [block.chunks_of_execute joined, block.chunks_of_execute firstAlone,
          block.chunks_of_execute secondAlone, List.reverse_append, Render.chunks,
          List.filterMap_append]
        rfl
      · intro short _ renderedSecond
        rw [both short]
        exact renderedSecond

/-- A line of a menu, with the currency that is given for all of them. -/
def menuLine : List Node :=
  [.placeholder ⟨"what", by decide⟩ (.bool false), .literal ": ",
    .placeholder ⟨"price", by decide⟩ (.bool false),
    .placeholder ⟨"currency", by decide⟩ (.bool false)]

theorem menuLine_isBuiltIn : (Node.sequence menuLine).IsBuiltIn := by
  intro label member
  simp [menuLine, Node.iterNodes, Node.iterAll] at member

theorem menuLine_unasked : ∀ path ∈ (Node.sequence menuLine).keyPaths,
    (Text.pieces "." path).1 ≠ "offers" := by
  intro path member
  have listed : "what" = path ∨ "price" = path ∨ "currency" = path := by
    simpa [menuLine, Node.keyPaths, Node.iterNodes, Node.iterAll, Node.keyPath?] using member
  rcases listed with rfl | rfl | rfl <;> decide +kernel

theorem offers_undivided : ¬".".toList <:+: "offers".toList := by decide +kernel

def menu : ListBlock where
  kit := .labelling
  behaviour := fun _ _ => .done
  context := .standard
  family := 0
  settings := .standard
  key := ⟨"offers", by decide⟩
  invert := .bool false
  body := menuLine
  entries := [(.text "currency", .text " EUR")]
  registry := rfl
  undivided := offers_undivided
  other := rfl
  plain := rfl
  builtIn := menuLine_isBuiltIn
  unasked := menuLine_unasked

def offer (what : String) (price : Int) : Value :=
  .map [(.text "what", .text what), (.text "price", .int price)]

theorem offer_isStreamless (what : String) (price : Int) : (offer what price).IsStreamless := by
  refine .mk id fun part member => Value.IsAtom.isStreamless ?_
  have listed : part = .text "what" ∨ part = .text "price" ∨ part = .text what ∨
      part = .int price := by
    simpa [offer, Value.parts] using member
  rcases listed with rfl | rfl | rfl | rfl <;> exact ⟨rfl, id⟩

/-- Drinks and dishes on one menu read like the menu of drinks and then that of dishes. -/
theorem menu_of_drinks_and_dishes :
    menu.chunks ([offer "tea" 2] ++ [offer "soup" 5]) .initial =
        menu.chunks [offer "tea" 2] .initial ++ menu.chunks [offer "soup" 5] .initial ∧
      menu.chunks [offer "soup" 5] .initial = ["soup", ": ", "5", " EUR"] := by
  have unheard : Session.initial.Unheard menu.family := rfl
  have currency : (Value.map menu.entries).IsStreamless := by
    refine .mk id fun part member => Value.IsAtom.isStreamless ?_
    have listed : part = .text "currency" ∨ part = .text " EUR" := by
      simpa [menu, Value.parts] using member
    rcases listed with rfl | rfl <;> exact ⟨rfl, id⟩
  have offers : ∀ item ∈ [offer "tea" 2] ++ [offer "soup" 5], item.IsStreamless := by
    intro item member
    have listed : item = offer "tea" 2 ∨ item = offer "soup" 5 := by simpa using member
    rcases listed with rfl | rfl <;> exact offer_isStreamless _ _
  have rendered : ((menu.render ([offer "tea" 2] ++ [offer "soup" 5])).execute .initial).1 =
      .ok () := rfl
  exact ⟨((menu.chunks_append unheard rfl currency offers).1 rendered).2.2, rfl⟩

end ListBlock
end Stencil
