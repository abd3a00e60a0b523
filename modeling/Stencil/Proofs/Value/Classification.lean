import Stencil.Proofs.Value.Ordering

set_option autoImplicit false

/-!
The two questions that blocks ask of a value, what its elements are and whether it counts as true,
have one answer: a collection counts as true if and only if a pass over it has something to show.
This is so for all kinds of values but streams, which change between the questions, and objects that
tell a length of their own which their items contradict.
-/

namespace Stencil.Value

variable {sorting : Sorting} {value : Value} {spent : List Nat}

def IsStream : Value → Prop
  | .stream .. => True
  | _ => False

theorem spends?_of_not_stream (steady : ¬value.IsStream) : value.spends? = none := by
  cases value
  case stream => exact (steady trivial).elim
  all_goals rfl

/-- Asking for the condition uses up what a pass uses up. -/
theorem conditionSpends?_eq_spends? (value : Value) : value.conditionSpends? = value.spends? := by
  cases value
  case stream => rfl
  all_goals exact ite_self none

/-- An object whose own length and items disagree on whether it is empty. -/
def Contradicts : Value → Prop
  | .object profile _ (.iterable items) | .object profile _ (.sequence items) =>
      ∃ length, profile.length = some length ∧ ¬(length = 0 ↔ items = [])
  | _ => False

/-- No comparison keeps a set from being gone through, and no length that is asked for is out of
reach. -/
structure Classifiable (sorting : Sorting) (value : Value) : Prop where
  ordered : ∀ frozen items reason, value = .set frozen items →
    sort sorting items = .error reason → reason = .kinds
  countable : ∀ length, value.askedLength? = some length → length < lengthLimit

theorem items?_of_not_stream (steady : ¬value.IsStream) : value.items? spent = value.items? [] := by
  cases value
  case stream => exact (steady trivial).elim
  case object profile members contents => cases contents <;> rfl
  all_goals rfl

theorem exists_items? (collection : value.isCollection = true) (spent : List Nat) :
    ∃ items, value.items? spent = some items := by
  cases value
  case object profile members contents =>
    cases contents
    case iterable items => exact ⟨items, rfl⟩
    case sequence items => exact ⟨items, rfl⟩
    all_goals exact Bool.noConfusion collection
  all_goals first
    | exact Bool.noConfusion collection
    | exact ⟨_, rfl⟩

theorem checkLength_eq_ok_iff :
    value.checkLength = .ok () ↔
      ∀ length, value.askedLength? = some length → length < lengthLimit := by
  rw [checkLength]
  cases value.askedLength? with
  | none => simp
  | some length => by_cases small : length < lengthLimit <;> simp [small]

/-- A length that is told is that of the items, but for objects that contradict themselves. -/
theorem length_eq_zero_iff_items?_eq_nil (consistent : ¬value.Contradicts) {length : Nat}
    {items : List Value} (told : value.collectionLength? = some length)
    (going : value.items? spent = some items) : length = 0 ↔ items = [] := by
  cases value
  case object profile members contents =>
    cases contents
    case iterable own =>
      cases going
      by_cases agreed : length = 0 ↔ items = []
      · exact agreed
      · exact (consistent ⟨length, told, agreed⟩).elim
    case sequence own =>
      cases going
      cases ownLength : profile.length with
      | none =>
          rw [collectionLength?, ownLength] at told
          cases told
          exact List.length_eq_zero_iff
      | some claimed =>
          rw [collectionLength?, ownLength] at told
          cases told
          by_cases agreed : claimed = 0 ↔ items = []
          · exact agreed
          · exact (consistent ⟨claimed, ownLength, agreed⟩).elim
    all_goals cases told
  case record kind fields =>
    cases told
    cases going
    rw [List.map_eq_nil_iff, List.length_eq_zero_iff]
  case range start stop step =>
    cases told
    cases going
    rw [rangeItems, List.map_eq_nil_iff, List.range_eq_nil]
  all_goals first
    | (cases told; cases going; exact List.length_eq_zero_iff)
    | cases told

theorem condition_of_collection (collection : value.isCollection = true)
    (checked : value.checkLength = .ok ()) (consistent : ¬value.Contradicts) {items : List Value}
    (going : value.items? spent = some items) : value.condition spent = .ok !items.isEmpty := by
  rw [condition, checked]
  show Except.ok _ = _
  rw [if_pos collection]
  cases told : value.collectionLength? with
  | none => simp only [going, Option.getD_some]
  | some length =>
      have agreed := length_eq_zero_iff_items?_eq_nil consistent told going
      simp only [Except.ok.injEq]
      rw [Bool.eq_iff_iff]
      simp [agreed]

theorem condition_of_not_collection (scalar : value.isCollection = false)
    (checked : value.checkLength = .ok ()) : value.condition spent = .ok value.truth := by
  rw [condition, checked]
  show Except.ok _ = _
  rw [if_neg (by simp [scalar])]

theorem elements?_of_not_collection (scalar : value.isCollection = false) :
    value.elements? sorting spent = .ok none := by
  unfold elements?
  rw [if_neg (by simp [scalar])]

/-- The elements of a collection are its items, in some order. -/
theorem exists_elements?_eq (collection : value.isCollection = true)
    (classifiable : value.Classifiable sorting) (spent : List Nat) :
    ∃ items elements, value.items? spent = some items ∧
      value.elements? sorting spent = .ok (some elements) ∧ (elements = [] ↔ items = []) := by
  have checked := checkLength_eq_ok_iff.mpr classifiable.countable
  obtain ⟨items, going⟩ := exists_items? collection spent
  unfold elements?
  rw [if_pos collection, checked]
  cases value
  case set frozen members =>
    cases going
    cases sorted : inOrder sorting items with
    | error fault =>
        obtain ⟨reason, other, _, failed⟩ := sort_of_inOrder sorted
        exact (other (classifiable.ordered frozen items reason rfl failed)).elim
    | ok ordered =>
        have sameLength := (perm_of_inOrder sorted).length_eq
        refine ⟨items, ordered, rfl, ?_, by rw [← List.length_eq_zero_iff, sameLength,
          List.length_eq_zero_iff]⟩
        show (inOrder sorting items >>= fun ordered => pure (some ordered)) = _
        rw [sorted]
        rfl
  all_goals exact ⟨items, items, going, by rw [← going]; rfl, Iff.rfl⟩

theorem elements?_of_not_stream (steady : ¬value.IsStream) :
    value.elements? sorting spent = value.elements? sorting [] := by
  cases value
  case stream => exact (steady trivial).elim
  case object profile members contents => cases contents <;> rfl
  all_goals rfl

theorem condition_of_not_stream (steady : ¬value.IsStream) :
    value.condition spent = value.condition [] := by
  rw [condition, condition, items?_of_not_stream steady]

/-- A pass over a value has something to show exactly if the value counts as true. -/
def Agrees (value : Value) (elements : Option (List Value)) (holds : Bool) : Prop :=
  match elements with
  | some items => holds = !items.isEmpty
  | none => holds = value.truth

/-- Both questions have answers, whatever streams are used up, and these agree. -/
theorem exists_agreeing_answers (steady : ¬value.IsStream) (consistent : ¬value.Contradicts)
    (classifiable : value.Classifiable sorting) :
    ∃ elements holds, value.Agrees elements holds ∧
      ∀ spent, value.elements? sorting spent = .ok elements ∧ value.condition spent = .ok holds := by
  have checked := checkLength_eq_ok_iff.mpr classifiable.countable
  cases collection : value.isCollection with
  | false =>
      refine ⟨none, value.truth, rfl, ?_⟩
      intro spent
      exact ⟨elements?_of_not_collection collection,
        condition_of_not_collection collection checked⟩
  | true =>
      obtain ⟨items, elements, going, passing, bothEmpty⟩ :=
        exists_elements?_eq collection classifiable []
      refine ⟨some elements, !items.isEmpty, ?_, ?_⟩
      · rw [Agrees, Bool.eq_iff_iff]
        simp [bothEmpty]
      · intro spent
        rw [← items?_of_not_stream steady] at going
        rw [elements?_of_not_stream steady]
        exact ⟨passing, condition_of_collection collection checked consistent going⟩

/-- Otherwise a plain block fails, be it on the elements or on the condition. -/
theorem exists_fault_of_not_classifiable (unclassifiable : ¬value.Classifiable sorting)
    (spent : List Nat) :
    ∃ fault, value.elements? sorting spent = .error fault ∨
      value.elements? sorting spent = .ok none ∧ value.condition spent = .error fault := by
  cases checked : value.checkLength with
  | error fault =>
      refine ⟨fault, ?_⟩
      cases collection : value.isCollection with
      | false =>
          right
          refine ⟨elements?_of_not_collection collection, ?_⟩
          rw [condition, checked]
          rfl
      | true =>
          left
          unfold elements?
          rw [if_pos collection, checked]
          rfl
  | ok =>
      have countable := checkLength_eq_ok_iff.mp checked
      by_cases unordered : ∃ frozen items reason, value = .set frozen items ∧
        sort sorting items = .error reason ∧ reason ≠ .kinds
      · obtain ⟨frozen, items, reason, rfl, failed, other⟩ := unordered
        refine ⟨.unordered reason, .inl ?_⟩
        have collection : (Value.set frozen items).isCollection = true := rfl
        unfold elements?
        rw [if_pos collection, checked]
        show (inOrder sorting items >>= fun ordered => pure (some ordered)) = _
        rw [inOrder_of_sort failed other]
        rfl
      · refine (unclassifiable ⟨?_, countable⟩).elim
        intro frozen items reason same failed
        by_contra other
        exact unordered ⟨frozen, items, reason, same, failed, other⟩

end Stencil.Value
