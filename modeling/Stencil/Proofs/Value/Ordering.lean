import Mathlib.Data.List.Chain
import Stencil.Value.Elements

set_option autoImplicit false

/-!
What sorting does to values. The elements of a set come out once each, in an order that no two
neighbours contradict, unless a comparison of two of them fails.
-/

namespace Stencil

theorem Less.isChain_of_chains {less : Less} {order : List Nat} (chains : less.Chains order) :
    order.IsChain less.Orders := by
  induction order with
  | nil => exact .nil
  | cons i order inductionHypothesis =>
      obtain ⟨next, later⟩ := Less.chains_cons.mp chains
      exact List.isChain_cons.mpr ⟨next, inductionHypothesis later⟩

namespace Value

variable {sorting : Sorting} {items ordered : List Value} {order : List Nat} {reason : Disorder}

/-- Neighbours in order: the second value is not less, or the first one is. -/
def Precedes (a b : Value) : Prop := less b a = .ok false ∨ less a b = .ok true

/-- There are two elements of which it cannot be told whether the first is less. -/
def AreDisordered (items : List Value) (reason : Disorder) : Prop :=
  ∃ (i j : Nat) (a b : Value), i ≠ j ∧ items[i]? = some a ∧ items[j]? = some b ∧
    less a b = .error reason

theorem filterMap_getElem?_eq_map (inRange : ∀ i ∈ order, i < items.length) :
    (order.filterMap fun position => items[position]?) =
      order.map fun position => items.getD position .null := by
  rw [← List.filterMap_eq_map]
  apply List.filterMap_congr
  intro i member
  simp [List.getD, inRange i member]

theorem map_getD_range (items : List Value) :
    ((List.range items.length).map fun position => items.getD position .null) = items := by
  apply List.ext_getElem
  · simp
  · intro i _ inRange
    simp [List.getD, inRange]

theorem lessAt_eq {i j : Nat} (inRange : i < items.length) (inRange' : j < items.length) :
    lessAt items i j = less (items.getD i .null) (items.getD j .null) := by
  simp [lessAt, List.getD, inRange, inRange']

theorem exists_arrange_of_sort (sorted : sort sorting items = .ok ordered) :
    ∃ order : List Nat, order.Perm (List.range items.length) ∧
      order.IsChain (Less.Orders (lessAt items)) ∧
      ordered = order.map fun position => items.getD position .null := by
  have arranges := sorting.arranges (lessAt items) items.length
  rw [sort] at sorted
  cases arranged : sorting.arrange (lessAt items) items.length with
  | error reason =>
      rw [arranged] at sorted
      cases sorted
  | ok order =>
      rw [arranged] at arranges sorted
      cases sorted
      refine ⟨order, arranges.1, Less.isChain_of_chains arranges.2,
        filterMap_getElem?_eq_map fun i member => ?_⟩
      exact List.mem_range.mp (arranges.1.mem_iff.mp member)

/-- Sorting loses no element and adds none. -/
theorem perm_of_sort (sorted : sort sorting items = .ok ordered) : ordered.Perm items := by
  obtain ⟨order, perm, _, rfl⟩ := exists_arrange_of_sort sorted
  exact (perm.map _).trans (.of_eq (map_getD_range items))

theorem isChain_of_sort (sorted : sort sorting items = .ok ordered) :
    ordered.IsChain Precedes := by
  obtain ⟨order, perm, chain, rfl⟩ := exists_arrange_of_sort sorted
  rw [List.isChain_map]
  apply chain.imp_of_mem_imp
  intro i j member member' orders
  have inRange := List.mem_range.mp (perm.mem_iff.mp member)
  have inRange' := List.mem_range.mp (perm.mem_iff.mp member')
  rwa [Less.Orders, lessAt_eq inRange' inRange, lessAt_eq inRange inRange'] at orders

theorem areDisordered_of_sort (failed : sort sorting items = .error reason) :
    AreDisordered items reason := by
  have arranges := sorting.arranges (lessAt items) items.length
  rw [sort] at failed
  cases arranged : sorting.arrange (lessAt items) items.length with
  | ok order =>
      rw [arranged] at failed
      cases failed
  | error cause =>
      rw [arranged] at arranges failed
      cases failed
      obtain ⟨i, member, j, member', differ, asked⟩ := arranges
      have inRange := List.mem_range.mp member
      have inRange' := List.mem_range.mp member'
      simp only [lessAt, List.getElem?_eq_getElem inRange, List.getElem?_eq_getElem inRange']
        at asked
      exact ⟨i, j, items[i], items[j], differ, by simp, by simp, asked⟩

theorem perm_of_inOrder (sorted : inOrder sorting items = .ok ordered) : ordered.Perm items := by
  rw [inOrder] at sorted
  cases asked : sort sorting items with
  | ok result =>
      rw [asked] at sorted
      cases sorted
      exact perm_of_sort asked
  | error reason =>
      rw [asked] at sorted
      cases reason <;> cases sorted
      exact .refl _

/-- What keeps a set from being gone through is never that two elements are of different kinds. -/
theorem sort_of_inOrder {fault : Fault} (failed : inOrder sorting items = .error fault) :
    ∃ reason, reason ≠ .kinds ∧ fault = .unordered reason ∧ sort sorting items = .error reason := by
  rw [inOrder] at failed
  cases asked : sort sorting items with
  | ok result =>
      rw [asked] at failed
      cases failed
  | error reason =>
      rw [asked] at failed
      cases reason <;> cases failed
      · exact ⟨_, by simp, rfl, rfl⟩
      · exact ⟨_, by simp, rfl, rfl⟩

theorem inOrder_of_sort (failed : sort sorting items = .error reason) (other : reason ≠ .kinds) :
    inOrder sorting items = .error (.unordered reason) := by
  rw [inOrder, failed]
  cases reason with
  | kinds => exact (other rfl).elim
  | undefined | refused _ => rfl

end Value
end Stencil
