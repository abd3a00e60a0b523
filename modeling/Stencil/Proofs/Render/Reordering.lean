import Stencil.Proofs.Lookup.Addition
import Stencil.Proofs.Render.Insertion
import Stencil.Proofs.Render.Inversion
import Stencil.Proofs.Value.Sorting

set_option autoImplicit false

/-!
Blocks over sets. What a block shows for a set of whole numbers, or of texts, does not depend on the
order in which the set is iterated, as long as the body asks for nothing that tells the orders apart,
such as the set itself.
-/

namespace Stencil

namespace Node

variable {kit : Kit} {behaviour : Behaviour} {context : Context} {scope scope' : Scope}
  {session session' later later' : Session} {path : KeyPath} {invert value : Value}
  {body : List Node} {items : List Value}

theorem execute_block_of_elements {setting : Setting}
    (looked : (setting.lookup scope path.text).execute session = (.ok (some value), later))
    (plain : invert.truth = false)
    (elements : value.elements? setting.sorting later.spent = .ok (some items)) :
    (generate setting (.block path invert body) scope).execute session =
      ((items.map scope.child).forM (generateAll setting body)).execute
        (later.spending value.spends?) := by
  rw [generate, Run.execute_bind_ok looked, plain]
  exact Run.execute_bind_ok (execute_bodyScopes_items elements)

theorem execute_forM_onto (body : List Node) (scopes : List Scope) (session : Session)
    (older : List Entry) :
    (scopes.forM (generateAll (Render.setting kit behaviour context) body)).execute
        (session.onto older) =
      (((scopes.forM (generateAll (Render.setting kit behaviour context) body)).execute session).1,
        ((scopes.forM (generateAll (Render.setting kit behaviour context) body)).execute
          session).2.onto older) :=
  (Run.simulates_forM fun inner _ => generateAll_simulates
    (Render.setting_simulates_onto older) body inner trivial).execute_onto session

/-- In two scopes a key path leads to one set, which is iterated in an order of its own in either.
For its elements the scopes answer alike, and the lookups leave the same behind but for the trace. -/
structure FindsReordered (behaviour : Behaviour) (path : KeyPath) (body : List Node)
    (items : List Value) (scope scope' : Scope) (session session' later later' : Session) :
    Prop where
  found : ∃ frozen own, own.Perm items ∧
    (Lookup.standard behaviour scope path.text).execute session =
      (.ok (some (.set frozen own)), later)
  found' : ∃ frozen own, own.Perm items ∧
    (Lookup.standard behaviour scope' path.text).execute session' =
      (.ok (some (.set frozen own)), later')
  sameLater : later'.untold = later.untold
  children : ∀ item ∈ items, (scope.child item).AnswersLike
    (· ∈ (Node.sequence body).keyPaths) (scope'.child item)

/-- A lookup adds no chunks to those that are written after it. -/
theorem chunks_since_of_looked {found : Option Value} {shown : Session}
    (looked : (Lookup.standard behaviour scope path.text).execute session = (.ok found, later))
    (written : later.newest <:+ shown.newest) :
    Render.chunks (shown.since session) = Render.chunks (shown.since later) := by
  have notes : Run.Adds Entry.IsNote (Lookup.standard behaviour scope path.text) :=
    Lookup.bounded_adds (fun _ => id) Lookup.nestingLimit scope path.text
  have grown := notes.isSuffix session
  have isNote : ∀ entry ∈ later.since session, entry.IsNote := by
    intro entry noted
    apply notes.of_mem_since
    rwa [looked]
  rw [looked] at grown
  have silent : (later.since session).filterMap Entry.chunk? = [] :=
    List.filterMap_eq_nil_iff.mpr fun entry noted => (isNote entry noted).chunk?_eq_none
  rw [Session.since_append grown written, Render.chunks, List.filterMap_append, silent]
  rfl

theorem exists_execute_reordered {elements : List Value}
    (iterates : Value.IteratesAs items elements)
    (builtIn : (Node.sequence body).IsBuiltIn) (plain : invert.truth = false)
    (finds : FindsReordered behaviour path body items scope scope' session session' later later') :
    ∃ ending, ∃ shown : Session,
      (generate (Render.setting kit behaviour context) (.block path invert body) scope).execute
          session = (ending, shown.onto later.newest) ∧
        (generate (Render.setting kit behaviour context) (.block path invert body) scope').execute
          session' = (ending, shown.onto later'.newest) := by
  obtain ⟨frozen, own, perm, looked⟩ := finds.found
  obtain ⟨frozen', own', perm', looked'⟩ := finds.found'
  let visits :=
    (elements.map scope.child).forM (generateAll (Render.setting kit behaviour context) body)
  have answers : List.Forall₂ (Scope.AnswersLike (· ∈ (Node.sequence body).keyPaths))
      (elements.map scope.child) (elements.map scope'.child) := by
    rw [List.forall₂_map_left_iff, List.forall₂_map_right_iff, List.forall₂_same]
    exact fun item member => finds.children item (iterates.perm.mem_iff.mp member)
  have visited : (generate (Render.setting kit behaviour context) (.block path invert body)
      scope).execute session = visits.execute (later.untold.onto later.newest) :=
    execute_block_of_elements looked plain (iterates.elements?_eq _ frozen later.spent own perm)
  have visited' : (generate (Render.setting kit behaviour context) (.block path invert body)
      scope').execute session' = visits.execute (later.untold.onto later'.newest) := by
    rw [← finds.sameLater]
    exact (execute_block_of_elements looked' plain
      (iterates.elements?_eq _ frozen' later'.spent own' perm')).trans
        (Render.execute_forM_of_answersLike builtIn answers _)
  exact ⟨_, _, visited.trans (execute_forM_onto body _ _ _),
    visited'.trans (execute_forM_onto body _ _ _)⟩

/-- The block shows the same, and leaves the same behind but for the notes of the lookups. -/
theorem shown_reordered {elements : List Value} (iterates : Value.IteratesAs items elements)
    (builtIn : (Node.sequence body).IsBuiltIn) (plain : invert.truth = false)
    (finds : FindsReordered behaviour path body items scope scope' session session' later later') :
    let setting := Render.setting kit behaviour context
    let shown := (generate setting (.block path invert body) scope).execute session
    let shown' := (generate setting (.block path invert body) scope').execute session'
    shown'.1 = shown.1 ∧
      Render.chunks (shown'.2.since session') = Render.chunks (shown.2.since session) ∧
      shown'.2.since later' = shown.2.since later ∧ shown'.2.untold = shown.2.untold := by
  intro setting shown shown'
  obtain ⟨ending, left, executed, executed'⟩ :=
    exists_execute_reordered iterates builtIn plain finds
  obtain ⟨frozen, own, _, looked⟩ := finds.found
  obtain ⟨frozen', own', _, looked'⟩ := finds.found'
  have isShown : shown = (ending, left.onto later.newest) := executed
  have isShown' : shown' = (ending, left.onto later'.newest) := executed'
  have since : (left.onto later.newest).since later = left.trace := Session.since_eq_reverse rfl
  have since' : (left.onto later'.newest).since later' = left.trace := Session.since_eq_reverse rfl
  have chunks : Render.chunks ((left.onto later.newest).since session) =
      Render.chunks ((left.onto later.newest).since later) :=
    chunks_since_of_looked looked ⟨left.newest, rfl⟩
  have chunks' : Render.chunks ((left.onto later'.newest).since session') =
      Render.chunks ((left.onto later'.newest).since later') :=
    chunks_since_of_looked looked' ⟨left.newest, rfl⟩
  rw [isShown, isShown']
  exact ⟨rfl, by rw [chunks', chunks, since, since'], since'.trans since.symm, rfl⟩

/-- A pass over a set comes to each element once, or it fails because two elements cannot be compared,
and not for their kinds. Among two or more numbers it fails if one is a decimal that is none. The
elements of a set of whole numbers, and of a set of texts, come in the one ascending order, so a
plain block shows the same for the set, however it is iterated. -/
theorem execute_block_over_set (short : items.length < Value.lengthLimit) :
    (∀ sorting frozen spent,
      (∃ elements, (Value.set frozen items).elements? sorting spent = .ok (some elements) ∧
          elements.Perm items) ∨
        ∃ reason, reason ≠ .kinds ∧ Value.AreDisordered items reason ∧
          (Value.set frozen items).elements? sorting spent = .error (.unordered reason)) ∧
      ((∀ item ∈ items, item.size?.isSome) → 2 ≤ items.length →
        (∃ item ∈ items, item.isDecimal = true ∧ item.size? = some .nowhere) →
        ∀ sorting frozen spent,
          (Value.set frozen items).elements? sorting spent = .error (.unordered .undefined)) ∧
      (Value.AreApart items →
        (Value.AreRanked Value.integer? items → ∃ elements : List Value,
            elements.Pairwise (Value.IsBelow Value.integer?) ∧ Value.IteratesAs items elements) ∧
          (Value.AreRanked Value.text? items → ∃ elements : List Value,
            elements.Pairwise (Value.IsBelow Value.text?) ∧ Value.IteratesAs items elements)) ∧
      (Value.AreApart items →
        Value.AreRanked Value.integer? items ∨ Value.AreRanked Value.text? items →
        ∀ kit behaviour context path invert body scope scope' session session' later later',
          (Node.sequence body).IsBuiltIn → invert.truth = false →
          FindsReordered behaviour path body items scope scope' session session' later later' →
          let setting := Render.setting kit behaviour context
          let shown := (generate setting (.block path invert body) scope).execute session
          let shown' := (generate setting (.block path invert body) scope').execute session'
          shown'.1 = shown.1 ∧
            Render.chunks (shown'.2.since session') = Render.chunks (shown.2.since session) ∧
            shown'.2.since later' = shown.2.since later ∧ shown'.2.untold = shown.2.untold) := by
  have integers := fun apart ranked =>
    Value.isRanking_integer?.exists_iteratesAs short ranked apart
  have texts := fun apart ranked => Value.isRanking_text?.exists_iteratesAs short ranked apart
  refine ⟨?_, ?_, fun apart => ⟨integers apart, texts apart⟩, ?_⟩
  · intro sorting frozen spent
    rw [Value.elements?_set_eq short]
    cases sorted : Value.inOrder sorting items with
    | ok elements => exact .inl ⟨elements, rfl, Value.perm_of_inOrder sorted⟩
    | error fault =>
        obtain ⟨reason, other, rfl, failed⟩ := Value.sort_of_inOrder sorted
        exact .inr ⟨reason, other, Value.areDisordered_of_sort failed, rfl⟩
  · rintro numbers several ⟨item, member, decimal, nowhere⟩ sorting frozen spent
    have failed := Value.sort_eq_undefined sorting numbers member decimal nowhere several
    rw [Value.elements?_set_eq short, Value.inOrder_of_sort failed (by simp)]
    rfl
  · intro apart ranked kit behaviour context path invert body scope scope' session session' later
      later' builtIn plain finds
    have iterates : ∃ elements, Value.IteratesAs items elements := by
      rcases ranked with ranked | ranked
      · exact (integers apart ranked).imp fun _ iterates => iterates.2
      · exact (texts apart ranked).imp fun _ iterates => iterates.2
    obtain ⟨elements, iterates⟩ := iterates
    exact shown_reordered iterates builtIn plain finds

def markedFigures : Except Interrupt Unit × Session :=
  (generate (Render.setting .labelling (fun _ _ => .done) .standard)
    (.block ⟨"set", by decide⟩ (.bool false) [.literal "x"]) figureScope).execute .initial

/-- The figures are a set of two numbers, and no pass over it comes to them. -/
theorem figures_not_iterated :
    Value.AreApart figures ∧
      (Value.set false figures).elements? .standard [] = .error (.unordered .undefined) ∧
      figureScope.find "set" = .ok (.found (.set false figures)) ∧
      markedFigures.1 = .error (.fault (.unordered .undefined)) ∧
      Render.chunks markedFigures.2.trace = [] := by
  refine ⟨?_, rfl, rfl, rfl, rfl⟩
  simp [Value.AreApart, figures]
  rfl

def tagLine : List Node :=
  [.literal "[", .placeholder ⟨"this", by decide⟩ (.bool true), .literal "]"]

/-- A page with a set of tags, which is iterated in the order given. -/
def tagged (tags : List Value) : Scope :=
  .root 0 .standard (.ofFields [("tags", .set true tags)])

def logging : Session :=
  Session.initial.withLists 0 ⟨[.logging 10], [.logging 10]⟩

def tagPath : KeyPath := ⟨"tags", by decide⟩

def renderedTags (tags : List Value) : Except Interrupt Unit × Session :=
  (generate (Render.setting .labelling (fun _ _ => .done) .standard)
    (.block tagPath (.bool false) tagLine) (tagged tags)).execute logging

def lookedUp (tags : List Value) : Session :=
  ((Lookup.standard (fun _ _ => .done) (tagged tags) tagPath.text).execute logging).2

theorem tags_reordered :
    FindsReordered (fun _ _ => .done) tagPath tagLine [.text "news", .text "art"]
      (tagged [.text "news", .text "art"]) (tagged [.text "art", .text "news"]) logging logging
      (lookedUp [.text "news", .text "art"]) (lookedUp [.text "art", .text "news"]) where
  found := ⟨true, _, .refl _, rfl⟩
  found' := ⟨true, _, .swap _ _ _, rfl⟩
  sameLater := rfl
  children item _ := by
    apply Scope.AnswersLike.of_roots
    intro path asked
    have current : "this" = path := by
      simpa [tagLine, keyPaths, iterNodes, iterAll, keyPath?] using asked
    subst current
    rfl

def mixed : List Value := [.int 1, .text "art"]

theorem eq_kinds_of_mixed {reason : Disorder} (disordered : Value.AreDisordered mixed reason) :
    reason = .kinds := by
  obtain ⟨_, _, a, b, _, first, second, failed⟩ := disordered
  have isFirst : a = .int 1 ∨ a = .text "art" := by simpa [mixed] using List.mem_of_getElem? first
  have isSecond : b = .int 1 ∨ b = .text "art" := by simpa [mixed] using List.mem_of_getElem? second
  rcases isFirst with rfl | rfl <;> rcases isSecond with rfl | rfl <;> cases failed <;> rfl

/-- The tags read the same in either order. A set that has no order keeps its elements, and numbers
with a decimal that is none are not gone through. -/
theorem tags_shown_alike :
    Value.AreApart [.text "news", .text "art"] ∧
      Value.AreRanked Value.text? [.text "news", .text "art"] ∧
      (renderedTags [.text "art", .text "news"]).1 =
        (renderedTags [.text "news", .text "art"]).1 ∧
      Render.chunks ((renderedTags [.text "news", .text "art"]).2.since logging) =
        ["[", "art", "]", "[", "news", "]"] ∧
      (∀ sorting, ∃ elements : List Value,
        (Value.set false mixed).elements? sorting [] = .ok (some elements) ∧
          elements.Perm mixed) ∧
      ∀ sorting, (Value.set true figures).elements? sorting [] =
        .error (.unordered .undefined) := by
  have apart : Value.AreApart [.text "news", .text "art"] := by
    simp [Value.AreApart]
    decide +kernel
  have ranked : Value.AreRanked Value.text? [.text "news", .text "art"] := by
    simp [Value.AreRanked, Value.text?]
  have builtIn : (Node.sequence tagLine).IsBuiltIn := by
    intro label member
    simp [tagLine, iterNodes, iterAll] at member
  have two : [Value.text "news", .text "art"].length < Value.lengthLimit := by decide
  have shown := (execute_block_over_set two).2.2.2 apart (.inr ranked) .labelling
    (fun _ _ => .done) .standard tagPath (.bool false) tagLine _ _ _ _ _ _ builtIn rfl tags_reordered
  have chunks : Render.chunks ((renderedTags [.text "art", .text "news"]).2.since logging) =
      ["[", "art", "]", "[", "news", "]"] := rfl
  refine ⟨apart, ranked, shown.1, shown.2.1.symm.trans chunks, fun sorting => ?_, fun sorting => ?_⟩
  · have both : mixed.length < Value.lengthLimit := by decide
    refine ((execute_block_over_set both).1 sorting false []).resolve_right ?_
    rintro ⟨reason, other, disordered, _⟩
    exact other (eq_kinds_of_mixed disordered)
  · have both : figures.length < Value.lengthLimit := by decide
    have numbers : ∀ item ∈ figures, item.size?.isSome := by simp [figures, Value.size?]
    have none : ∃ item ∈ figures, item.isDecimal = true ∧ item.size? = some .nowhere :=
      ⟨_, List.mem_cons_self, rfl, rfl⟩
    exact (execute_block_over_set both).2.1 numbers (by decide) none sorting true []

end Node
end Stencil
