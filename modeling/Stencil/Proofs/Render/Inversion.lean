import Stencil.Proofs.Render.Keeping
import Stencil.Proofs.Value.Classification

set_option autoImplicit false

/-!
The law of inversion. Of a plain and an inverted block over the same path exactly one shows the
body: the plain one in the scopes that the value gives rise to, and the inverted one in the scope
itself, if there are no such scopes. Values of which the two questions cannot be asked make the pair
fail before the body is reached.
-/

namespace Stencil

/-- What was found, if anything, is no stream and no object that contradicts itself. -/
def Reach.IsSteady : Reach → Prop
  | .missing _ => True
  | .found value => ¬value.IsStream ∧ ¬value.Contradicts

/-- What was found, if anything, has elements or a truth to be asked for. -/
def Reach.IsClassifiable (sorting : Sorting) : Reach → Prop
  | .missing _ => True
  | .found value => value.Classifiable sorting

namespace Node

variable {sorting : Sorting} {kit : Kit} {behaviour : Behaviour} {context : Context} {scope : Scope}
  {session : Session} {path : KeyPath} {reach : Reach}

/-- One scope for each element of a collection, in order, or one for another value that counts as
true. -/
def plainScopes (sorting : Sorting) (scope : Scope) : Reach → List Scope
  | .missing _ => []
  | .found value =>
      match value.elements? sorting [] with
      | .ok (some items) => items.map scope.child
      | .ok none => if value.truth then [scope.child value] else []
      | .error _ => []

/-- The scope itself, exactly if there is no scope for a plain block. -/
def invertedScopes (sorting : Sorting) (scope : Scope) (reach : Reach) : List Scope :=
  if (plainScopes sorting scope reach).isEmpty then [scope] else []

theorem spending_of_not_stream {value : Value} (steady : ¬value.IsStream) (session : Session) :
    session.spending value.spends? = session := by
  rw [Value.spends?_of_not_stream steady, Session.spending_none]

theorem scopeIf_false_eq_invertedScopes {value : Value} {elements : Option (List Value)}
    {holds : Bool} (passing : value.elements? sorting [] = .ok elements)
    (agreed : value.Agrees elements holds) :
    scopeIf false scope holds = invertedScopes sorting scope (.found value) := by
  simp only [invertedScopes, plainScopes, passing, scopeIf]
  cases elements with
  | some items =>
      cases agreed
      cases items <;> rfl
  | none =>
      cases agreed
      cases value.truth <;> rfl

/-- A plain block shows its body in the scopes for what was found. -/
theorem execute_blockScopes_plain (steady : reach.IsSteady) (classifiable : reach.IsClassifiable sorting)
    (scope : Scope) (session : Session) :
    (blockScopes sorting scope false reach.value?).execute session =
      (.ok (plainScopes sorting scope reach), session) := by
  cases reach with
  | missing member => rfl
  | found value =>
      obtain ⟨elements, holds, agreed, answers⟩ :=
        value.exists_agreeing_answers steady.1 steady.2 classifiable
      obtain ⟨passing, tested⟩ := answers session.spent
      show (bodyScopes sorting scope value).execute session = _
      cases elements with
      | some items =>
          rw [execute_bodyScopes_items passing, spending_of_not_stream steady.1]
          simp only [plainScopes, (answers []).1]
      | none =>
          cases agreed
          rw [execute_bodyScopes_scalar passing, spending_of_not_stream steady.1, Run.execute_map,
            Run.execute_condition, tested, Value.conditionSpends?_eq_spends?,
            spending_of_not_stream steady.1]
          simp only [plainScopes, (answers []).1]
          rfl

/-- An inverted block shows its body in the scope itself, if there are no such scopes. -/
theorem execute_blockScopes_inverted (steady : reach.IsSteady)
    (classifiable : reach.IsClassifiable sorting) (scope : Scope) (session : Session) :
    (blockScopes sorting scope true reach.value?).execute session =
      (.ok (invertedScopes sorting scope reach), session) := by
  cases reach with
  | missing member => rfl
  | found value =>
      obtain ⟨elements, holds, agreed, answers⟩ :=
        value.exists_agreeing_answers steady.1 steady.2 classifiable
      show (elseScopes scope (some value)).execute session = _
      rw [elseScopes_some, Run.execute_map, Run.execute_condition, (answers session.spent).2,
        Value.conditionSpends?_eq_spends?, spending_of_not_stream steady.1,
        ← scopeIf_false_eq_invertedScopes (answers []).1 agreed]
      rfl

/-- A value that cannot be classified makes a plain block fail. -/
theorem execute_blockScopes_unclassifiable {value : Value} (steady : ¬value.IsStream)
    (unclassifiable : ¬value.Classifiable sorting) (scope : Scope) (session : Session) :
    ∃ fault, (blockScopes sorting scope false (some value)).execute session =
      (.error (.fault fault), session) := by
  obtain ⟨fault, failing⟩ := value.exists_fault_of_not_classifiable unclassifiable session.spent
  refine ⟨fault, ?_⟩
  show (bodyScopes sorting scope value).execute session = _
  rcases failing with failing | ⟨scalar, failing⟩
  · exact execute_bodyScopes_error failing
  · rw [execute_bodyScopes_scalar scalar, spending_of_not_stream steady, Run.execute_map,
      Run.execute_condition, failing, Value.conditionSpends?_eq_spends?,
      spending_of_not_stream steady]
    rfl

def generateIn (setting : Setting) (nodes : List Node) (scopes : List Scope) : Run Unit :=
  scopes.forM (generateAll setting nodes)

theorem generateIn_append (setting : Setting) (nodes : List Node) (first second : List Scope) :
    generateIn setting nodes (first ++ second) =
      generateIn setting nodes first >>= fun _ => generateIn setting nodes second :=
  List.forM_append

theorem execute_block (unheard : session.Unheard scope.family)
    (found : scope.find path.text = .ok reach) (invert : Value) (body : List Node) :
    (generate (Render.setting kit behaviour context) (.block path invert body) scope).execute session =
      (blockScopes kit.sorting scope invert.truth reach.value? >>=
        generateIn (Render.setting kit behaviour context) body).execute session := by
  rw [generate, Run.execute_bind, Render.setting, Lookup.execute_standard_of_unheard unheard, found]
  rfl

theorem execute_plain_block (unheard : session.Unheard scope.family)
    (found : scope.find path.text = .ok reach) (steady : reach.IsSteady)
    (classifiable : reach.IsClassifiable kit.sorting) {invert : Value} (plain : invert.truth = false)
    (body : List Node) :
    (generate (Render.setting kit behaviour context) (.block path invert body) scope).execute session =
      (generateIn (Render.setting kit behaviour context) body
        (plainScopes kit.sorting scope reach)).execute session := by
  rw [execute_block unheard found, plain,
    Run.execute_bind_ok (execute_blockScopes_plain steady classifiable scope session)]

theorem execute_inverted_block (unheard : session.Unheard scope.family)
    (found : scope.find path.text = .ok reach) (steady : reach.IsSteady)
    (classifiable : reach.IsClassifiable kit.sorting) {invert : Value} (inverted : invert.truth = true)
    (body : List Node) :
    (generate (Render.setting kit behaviour context) (.block path invert body) scope).execute session =
      (generateIn (Render.setting kit behaviour context) body
        (invertedScopes kit.sorting scope reach)).execute session := by
  rw [execute_block unheard found, inverted,
    Run.execute_bind_ok (execute_blockScopes_inverted steady classifiable scope session)]

theorem exists_fault_of_plain_block (unheard : session.Unheard scope.family)
    (found : scope.find path.text = .ok reach) (steady : reach.IsSteady)
    (unclassifiable : ¬reach.IsClassifiable kit.sorting) {invert : Value} (plain : invert.truth = false)
    (body : List Node) :
    ∃ fault, (generate (Render.setting kit behaviour context) (.block path invert body) scope).execute
      session = (.error (.fault fault), session) := by
  cases reach with
  | missing member => exact (unclassifiable trivial).elim
  | found value =>
      obtain ⟨fault, failing⟩ :=
        execute_blockScopes_unclassifiable steady.1 unclassifiable scope session
      refine ⟨fault, ?_⟩
      rw [execute_block unheard found, plain]
      exact Run.execute_bind_error failing

/-- Of a plain and an inverted block in a row exactly one shows the body: the plain one in the
scopes for what was found, or the inverted one in the scope itself if there are none. If what was
found cannot be classified, the pair fails and has not come to the body. -/
theorem execute_block_pair (unheard : session.Unheard scope.family)
    (found : scope.find path.text = .ok reach) (steady : reach.IsSteady) {plain inverted : Value}
    (isPlain : plain.truth = false) (isInverted : inverted.truth = true) (body : List Node) :
    (reach.IsClassifiable kit.sorting →
      (generate (Render.setting kit behaviour context) (.block path plain body) scope).execute
            session =
          (generateIn (Render.setting kit behaviour context) body
            (plainScopes kit.sorting scope reach)).execute session ∧
        (generate (Render.setting kit behaviour context) (.block path inverted body) scope).execute
            session =
          (generateIn (Render.setting kit behaviour context) body
            (invertedScopes kit.sorting scope reach)).execute session ∧
        (generate (Render.setting kit behaviour context)
            (.sequence [.block path plain body, .block path inverted body]) scope).execute session =
          (generateIn (Render.setting kit behaviour context) body
            (plainScopes kit.sorting scope reach ++ invertedScopes kit.sorting scope reach)).execute
              session) ∧
    (¬reach.IsClassifiable kit.sorting →
      ∃ fault, (generate (Render.setting kit behaviour context)
          (.sequence [.block path plain body, .block path inverted body]) scope).execute session =
        (.error (.fault fault), session)) := by
  have pairSplit : generate (Render.setting kit behaviour context)
        (.sequence [.block path plain body, .block path inverted body]) scope =
      generate (Render.setting kit behaviour context) (.block path plain body) scope >>= fun _ =>
        generate (Render.setting kit behaviour context) (.block path inverted body) scope := by
    show generateAll _ [_, _] scope = _
    rw [generateAll, generateAll_singleton]
  rw [pairSplit]
  constructor
  · intro classifiable
    have plainPart : (generate (Render.setting kit behaviour context) (.block path plain body)
        scope).execute session = _ :=
      execute_plain_block unheard found steady classifiable isPlain body
    refine ⟨plainPart, execute_inverted_block unheard found steady classifiable isInverted body, ?_⟩
    -- The plain block may use up streams, but what the path leads to is none of them.
    have stillUnheard : ((generateAll (Render.setting kit behaviour context)
        [.block path plain body] scope).execute session).2.Unheard scope.family :=
      Render.unheard_after unheard _
    rw [generateAll_singleton] at stillUnheard
    rw [generateIn_append, Run.execute_bind, Run.execute_bind, ← plainPart]
    rcases executed : (generate _ (.block path plain body) scope).execute session with
      ⟨interrupt | _, later⟩
    · rfl
    · rw [executed] at stillUnheard
      exact execute_inverted_block stillUnheard found steady classifiable isInverted body
  · intro unclassifiable
    obtain ⟨fault, failing⟩ :=
      exists_fault_of_plain_block unheard found steady unclassifiable isPlain body
    exact ⟨fault, Run.execute_bind_error failing⟩

/-- A number that is none and a number, in a set and in a list. -/
def figures : List Value := [.decimal (.nan false false 0), .decimal (.finite false 1 0)]

def figureScope : Scope :=
  .root 0 .standard (.ofFields [("set", .set false figures), ("list", .list figures)])

def markedPair (path : KeyPath) : Node :=
  .sequence [.block path (.bool false) [.literal "x"], .block path (.bool true) [.literal "x"]]

def renderedFigures (path : KeyPath) : Except Interrupt Unit × Session :=
  ((markedPair path).generate (Render.setting .labelling (fun _ _ => .done) .standard)
    figureScope).execute .initial

/-- A set of such numbers is steady and not empty, and still no block of the pair shows a mark. -/
theorem marks_of_set_eq_nil :
    Session.initial.Unheard figureScope.family ∧
      figureScope.find "set" = .ok (.found (.set false figures)) ∧
      (Reach.found (.set false figures)).IsSteady ∧
      (renderedFigures ⟨"set", by decide⟩).1 = .error (.fault (.unordered .undefined)) ∧
      Render.chunks (renderedFigures ⟨"set", by decide⟩).2.trace = [] :=
  ⟨rfl, rfl, ⟨id, id⟩, rfl, rfl⟩

theorem marks_of_list_eq_two :
    (Reach.found (.list figures)).IsSteady ∧
      (Reach.found (.list figures)).IsClassifiable Kit.labelling.sorting ∧
      Render.chunks (renderedFigures ⟨"list", by decide⟩).2.trace = ["x", "x"] := by
  have found : figureScope.find "list" = .ok (.found (.list figures)) := rfl
  have unheard : Session.initial.Unheard figureScope.family := rfl
  have steady : (Reach.found (.list figures)).IsSteady := ⟨id, id⟩
  have classifiable : (Reach.found (.list figures)).IsClassifiable Kit.labelling.sorting := by
    constructor
    · intro frozen items reason same
      cases same
    · intro length asked
      cases asked
      decide
  refine ⟨steady, classifiable, ?_⟩
  rw [renderedFigures, markedPair,
    ((execute_block_pair unheard found steady rfl rfl [.literal "x"]).1 classifiable).2.2]
  rfl

end Node
end Stencil
