import Stencil.Proofs.Render.Place
import Stencil.Proofs.Value.Classification

set_option autoImplicit false

/-!
An inverted block without a body shows nothing, but it tests what its path leads to. The test goes
through a stream, which is used up then, and it fails on lengths that are out of reach. Apart from
that, the rest of a tree renders the same with and without it.
-/

namespace Stencil

theorem Session.spending_of_mem {session : Session} {id : Nat} (member : id ∈ session.spent) :
    session.spending (some id) = session := by
  rw [spending, List.insert_of_mem member]

namespace Node

variable {kit : Kit} {behaviour : Behaviour} {context : Context} {scope : Scope} {session : Session}
  {path : KeyPath} {invert : Value}

def probe (path : KeyPath) (invert : Value) : Node := .block path invert []

/-- Searching the path does not fail, and neither does the test of what it leads to; and that is no
stream with anything left in it. -/
def Harmless (path : KeyPath) (scope : Scope) (session : Session) : Prop :=
  ∃ reach, scope.find path.text = .ok reach ∧
    ∀ value, reach = .found value →
      (∃ holds, value.condition session.spent = .ok holds) ∧
        ∀ id items, value = .stream id items → id ∈ session.spent

theorem execute_forM_empty (setting : Setting) (scopes : List Scope) (session : Session) :
    (scopes.forM fun inner => generateAll setting [] inner).execute session =
      (.ok (), session) := by
  induction scopes with
  | nil => rfl
  | cons first rest inductionHypothesis => exact inductionHypothesis

/-- All that is left of a test is whether it failed and what it used up. -/
theorem execute_probe (unheard : session.Unheard scope.family) (inverted : invert.truth = true) :
    ((probe path invert).generate (Render.setting kit behaviour context) scope).execute session =
      match scope.find path.text with
      | .error fault => (.error (.fault fault), session)
      | .ok (.missing _) => (.ok (), session)
      | .ok (.found value) =>
          (((value.condition session.spent).mapError .fault).map fun _ => (),
            session.spending value.conditionSpends?) := by
  rw [probe, generate, Run.execute_bind, Render.setting,
    Lookup.execute_standard_of_unheard unheard]
  rcases found : scope.find path.text with fault | (value | member)
  · rfl
  · show (blockScopes kit.sorting scope invert.truth (some value) >>= _).execute session = _
    rw [inverted, blockScopes, if_pos rfl, elseScopes_some, Run.execute_bind, Run.execute_map,
      Run.execute_condition]
    cases tested : value.condition session.spent with
    | error fault => simp only [tested]; rfl
    | ok holds => simp only [tested]; exact execute_forM_empty _ _ _
  · show (blockScopes kit.sorting scope invert.truth none >>= _).execute session = _
    rw [inverted]
    rfl

theorem Harmless.execute_probe (harmless : Harmless path scope session)
    (unheard : session.Unheard scope.family) (inverted : invert.truth = true) :
    ((probe path invert).generate (Render.setting kit behaviour context) scope).execute session =
      (.ok (), session) := by
  obtain ⟨reach, found, foundHarmless⟩ := harmless
  rw [Node.execute_probe unheard inverted, found]
  cases reach with
  | missing member => rfl
  | found value =>
      obtain ⟨⟨holds, tested⟩, spentBefore⟩ := foundHarmless value rfl
      have unchanged : session.spending value.conditionSpends? = session := by
        rw [Value.conditionSpends?_eq_spends?]
        cases value
        case stream id items => exact Session.spending_of_mem (spentBefore id items rfl)
        all_goals rfl
      simp only [tested, unchanged]
      rfl

/-- Putting the inverted block in, anywhere in a tree, changes neither what the render makes of the
rest nor how it ends, if the block is harmless whenever the render comes to its place. In
particular, a plain block over the same path that comes next still finds all there is to show. Over
a stream, the block does nothing but use it up. -/
theorem execute_plug_probe (unheard : session.Unheard scope.family)
    (inverted : invert.truth = true) :
    (∀ place : Place,
      (∀ inner reached,
        place.Reaches (Render.setting kit behaviour context) [] scope session inner reached →
        Harmless path inner reached) →
      ((place.plug [probe path invert]).generate (Render.setting kit behaviour context) scope).execute
          session =
        ((place.plug []).generate (Render.setting kit behaviour context) scope).execute session) ∧
    (∀ plain body, Harmless path scope session →
      (generateAll (Render.setting kit behaviour context) [probe path invert, .block path plain body]
          scope).execute session =
        (generate (Render.setting kit behaviour context) (.block path plain body) scope).execute
          session) ∧
    ∀ id items, scope.find path.text = .ok (.found (.stream id items)) →
      (generate (Render.setting kit behaviour context) (probe path invert) scope).execute session =
        (.ok (), session.spending (some id)) := by
  refine ⟨?_, ?_, ?_⟩
  · intro place harmless
    apply Place.execute_plug_congr
    intro inner reached reaching
    have ⟨sameFamily, sameLists⟩ := reaching.keeps (Render.setting_keeps_lists unheard) rfl rfl
    have stillUnheard : reached.Unheard inner.family := by
      rw [Session.Unheard, sameLists, sameFamily]
      exact unheard
    rw [generateAll_singleton,
      (harmless inner reached reaching).execute_probe stillUnheard inverted]
    rfl
  · intro plain body harmless
    rw [generateAll, Run.execute_bind_ok (harmless.execute_probe unheard inverted),
      generateAll_singleton]
  · intro id items found
    rw [execute_probe unheard inverted, found]
    rfl

/-- Letters in a stream and in a list, and more numbers than can be counted. -/
def stock : Scope :=
  .root 0 .standard (.ofFields
    [("stream", .stream 0 [.text "a", .text "b"]), ("list", .list [.text "a", .text "b"]),
      ("numbers", .range 0 18446744073709551616 1)])

def shownOfStock (node : Node) : List String :=
  Render.chunks ((node.generate (Render.setting .labelling (fun _ _ => .done) .standard)
    stock).execute .initial).2.trace

def beforeAll (path : KeyPath) : Place :=
  .among .sequence [] [.block path (.bool false) [.placeholder ⟨".", by decide⟩ (.bool false)]]

def streamPath : KeyPath := ⟨"stream", by decide⟩

def listPath : KeyPath := ⟨"list", by decide⟩

def numbersPath : KeyPath := ⟨"numbers", by decide⟩

/-- Testing a stream leaves nothing of it to show, and the test of a range may fail. -/
theorem shown_behind_probe_ne :
    (Session.initial.Unheard stock.family ∧
      (stock.find "stream").toOption.isSome ∧ (stock.find "numbers").toOption.isSome) ∧
    (shownOfStock ((beforeAll streamPath).plug []) = ["a", "b"] ∧
      shownOfStock ((beforeAll streamPath).plug [probe streamPath (.bool true)]) = []) ∧
    shownOfStock ((beforeAll listPath).plug []) = ["a", "b"] ∧
      shownOfStock ((beforeAll listPath).plug [probe numbersPath (.bool true)]) = [] := by
  refine ⟨⟨rfl, rfl, rfl⟩, ⟨?_, ?_⟩, ?_, ?_⟩
  · rfl
  · rfl
  · rfl
  · rfl

theorem shown_behind_probe_of_list :
    Harmless listPath stock .initial ∧
      shownOfStock ((beforeAll listPath).plug [probe listPath (.bool true)]) = ["a", "b"] := by
  have harmless : Harmless listPath stock .initial := by
    refine ⟨.found (.list [.text "a", .text "b"]), rfl, ?_⟩
    rintro value ⟨⟩
    exact ⟨⟨true, rfl⟩, fun id items same => by cases same⟩
  have unheard : Session.initial.Unheard stock.family := rfl
  have inverted : (Value.bool true).truth = true := rfl
  refine ⟨harmless, ?_⟩
  rw [shownOfStock, (execute_plug_probe unheard inverted).1 (beforeAll listPath)]
  · rfl
  · intro inner reached reaching
    cases reaching with
    | among entering =>
        obtain ⟨rfl, started⟩ := Holder.enters_sequence entering
        cases started
        exact harmless

end Node
end Stencil
