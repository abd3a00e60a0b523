import Stencil.Proofs.Render.Trace
import Stencil.Proofs.Scope.Insertion

set_option autoImplicit false

/-!
Scopes that define nothing a tree asks for are invisible. Put anywhere into the chain, such a scope
changes neither the text nor the calls of handlers nor the end of a render; only the record of the
depth at which the render began tells of it.
-/

namespace Stencil

/-- Handlers are notified of what the search came to, whichever scope it came from. -/
theorem Lookup.standard_eq_of_answersLike {behaviour : Behaviour} {asked : String → Prop}
    {scope scope' : Scope} (answers : scope.AnswersLike asked scope') {path : String}
    (isAsked : asked path) :
    standard behaviour scope' path = standard behaviour scope path := by
  rw [standard_eq]
  simp only [through, answers.find_eq isAsked, answers.family]

namespace Render

variable {kit : Kit} {behaviour : Behaviour} {context : Context} {asked : String → Prop}
  {scope scope' : Scope} {node : Node}

theorem setting_matches_answersLike :
    (setting kit behaviour context).Matches (setting kit behaviour context) ⟨asked, fun _ => False⟩
      (Scope.AnswersLike asked) Eq (Run.Same fun _ => True) where
  child := by
    rintro scope scope' value _ answers rfl
    exact answers.child value
  lookup scope scope' path answers isAsked := by
    show Run.Matches _ _ (Lookup.standard behaviour scope path)
      (Lookup.standard behaviour scope' path)
    rw [Lookup.standard_eq_of_answersLike answers isAsked]
    exact Run.matches_self (optionRel_refl fun _ => rfl) _
  elements := by
    rintro value _ rfl
    have sameItems : ∀ items : List Value, List.Forall₂ Eq items items := fun _ =>
      List.forall₂_same.mpr fun _ _ => rfl
    exact Run.matches_self (optionRel_refl sameItems) _
  condition := by
    rintro value _ rfl
    exact Run.matches_self (fun _ => rfl) _
  text := by
    rintro escape value _ rfl
    rfl
  emit chunk := Run.matches_self (fun _ => rfl) _
  custom _ _ _ _ excluded := excluded.elim

/-- A tree of built-in nodes renders the same in scopes that answer alike to its key paths. -/
theorem execute_generate_of_answersLike (builtIn : node.IsBuiltIn)
    (allowed : ∀ path ∈ node.keyPaths, asked path) (answers : scope.AnswersLike asked scope')
    (session : Session) :
    (node.generate (setting kit behaviour context) scope').execute session =
      (node.generate (setting kit behaviour context) scope).execute session :=
  (Node.generate_matches setting_matches_answersLike node scope scope'
    (Usage.covers_of_isBuiltIn builtIn allowed) answers).execute_eq trivial

theorem execute_forM_of_answersLike {nodes : List Node} (builtIn : (Node.sequence nodes).IsBuiltIn)
    {scopes scopes' : List Scope}
    (answers : List.Forall₂ (Scope.AnswersLike (· ∈ (Node.sequence nodes).keyPaths)) scopes scopes')
    (session : Session) :
    (scopes'.forM (Node.generateAll (setting kit behaviour context) nodes)).execute session =
      (scopes.forM (Node.generateAll (setting kit behaviour context) nodes)).execute session := by
  have covered := (Usage.covers_of_isBuiltIn builtIn fun _ member => member).children
  have matched : Run.Matches (Run.Same fun _ => True) Eq
      (scopes.forM (Node.generateAll (setting kit behaviour context) nodes))
      (scopes'.forM (Node.generateAll (setting kit behaviour context) nodes)) := by
    apply Run.matches_forM answers
    intro scope scope' answers
    exact Node.generateAll_matches setting_matches_answersLike nodes scope scope' covered answers
  exact matched.execute_eq trivial

/-- A scope that is unaware of all that a tree asks for can be put into the chain, at any place: the
render does the same, whatever the handlers do, and writing the tree leaves the same behind but for
the record with which it begins. -/
theorem execute_of_inserts {value : Value} (builtIn : node.IsBuiltIn)
    (unaware : ∀ path ∈ node.keyPaths, scope.settings.Unaware value path)
    (inserts : scope.Inserts value scope') (session : Session) :
    (node.generate (setting kit behaviour context) scope').execute session =
        (node.generate (setting kit behaviour context) scope).execute session ∧
      ∃ outcome, ∃ later : Session,
        (write (setting kit behaviour context) node scope).execute session =
          (outcome, later.onto (opening node scope :: session.newest)) ∧
        (write (setting kit behaviour context) node scope').execute session =
          (outcome, later.onto (opening node scope' :: session.newest)) := by
  have answers : scope.AnswersLike (fun path => path ∈ node.keyPaths) scope' :=
    inserts.answersLike unaware
  have sameRender : ∀ started,
      (node.generate (setting kit behaviour context) scope').execute started =
        (node.generate (setting kit behaviour context) scope).execute started :=
    execute_generate_of_answersLike builtIn (fun _ member => member) answers
  refine ⟨sameRender session, _, _, execute_write node scope session, ?_⟩
  rw [execute_write, sameRender]

def offer : Scope :=
  (Scope.root 0 .standard (.ofFields [("title", .text "Menu")])).child
    (.ofFields [("items", .list [.ofFields [("dish", .text "tea")],
      .ofFields [("dish", .text "cake")]])])

/-- Something that says nothing of titles, items, names and prices. -/
def remark : Value := .ofFields [("note", .text "closed today")]

def remarkedOffer : Scope := { offer with outer := remark :: offer.outer }

def priceList : Node :=
  .sequence
    [.placeholder ⟨"title", by decide⟩ (.bool false),
      .block ⟨"items", by decide⟩ (.bool false)
        [.placeholder ⟨"dish", by decide⟩ (.bool false),
          .placeholder ⟨"price.net", by decide⟩ (.bool false)]]

def observed : Session := ⟨[], fun _ => ⟨[.report "all"], [.report "all"]⟩, [], .unlimited, .null⟩

/-- The remark changes nothing about the price list, nor about the report on it. -/
theorem priceList_of_remarkedOffer :
    priceList.IsBuiltIn ∧ (∀ path ∈ priceList.keyPaths, offer.settings.Unaware remark path) ∧
      offer.Inserts remark remarkedOffer ∧
      let rendered := (priceList.generate (setting .labelling (fun _ _ => .done) .standard)
        remarkedOffer).execute observed
      chunks rendered.2.trace = ["Menu", "tea", "cake"] ∧
        Report.ofTrace "all" rendered.2.trace =
          ⟨["title", "items", "dish", "dish"], ["price.net", "price.net"]⟩ := by
  have builtIn : priceList.IsBuiltIn := by
    intro label member
    simp [priceList, Node.iterNodes, Node.iterAll] at member
  have unaware : ∀ path ∈ priceList.keyPaths, offer.settings.Unaware remark path := by
    intro path member
    have listed : "title" = path ∨ "items" = path ∨ "dish" = path ∨ "price.net" = path := by
      simpa [Node.keyPaths, priceList, Node.iterNodes, Node.iterAll, Node.keyPath?] using member
    rcases listed with rfl | rfl | rfl | rfl <;> exact ⟨rfl, rfl, rfl⟩
  have inserts : offer.Inserts remark remarkedOffer :=
    ⟨rfl, rfl, [offer.value], offer.outer, rfl, rfl⟩
  refine ⟨builtIn, unaware, inserts, ?_⟩
  rw [(execute_of_inserts builtIn unaware inserts observed).1]
  exact ⟨rfl, rfl⟩

end Render
end Stencil
