import Mathlib.Data.String.Basic
import Stencil.Proofs.Value.Classification
import Stencil.Proofs.Value.Keys

set_option autoImplicit false

/-!
The elements of sets, in order. A pass over a set comes to each element once, also where the kinds of
some have no order. Whole numbers, and texts, come in ascending order, so the elements are the same
list whatever order the set is iterated in and however it is sorted. A decimal number that is none
keeps a set of numbers from being gone through.
-/

namespace Stencil.Value

/-- The whole number that a value is. Truth values count as one and zero. -/
def integer? : Value → Option Int
  | .int n => some n
  | .bool b => some (if b then 1 else 0)
  | _ => none

def text? : Value → Option String
  | .text s => some s
  | _ => none

variable {α : Type} {rank? : Value → Option α} {sorting : Sorting}
  {items others ordered elements : List Value}

def AreRanked (rank? : Value → Option α) (items : List Value) : Prop :=
  ∀ item ∈ items, (rank? item).isSome

theorem AreRanked.perm (ranked : AreRanked rank? items) (perm : others.Perm items) :
    AreRanked rank? others :=
  fun item member => ranked item (perm.mem_iff.mp member)

/-- No two elements of a set are equal. -/
def AreApart (items : List Value) : Prop := items.Pairwise fun a b => a.equals b = false

theorem AreApart.perm (apart : AreApart items) (perm : others.Perm items) : AreApart others :=
  List.Pairwise.perm apart perm.symm fun {a b} differ => (equals_comm b a).trans differ

variable [LinearOrder α]

/-- Values with ranks compare by their ranks, and are equal if these are. -/
structure IsRanking (rank? : Value → Option α) : Prop where
  less_eq : ∀ {a b x y}, rank? a = some x → rank? b = some y → less a b = .ok (decide (x < y))
  equals_self : ∀ {a b x}, rank? a = some x → rank? b = some x → a.equals b = true

def IsBelow (rank? : Value → Option α) (a b : Value) : Prop :=
  ∃ x y, rank? a = some x ∧ rank? b = some y ∧ x < y

def IsNotAbove (rank? : Value → Option α) (a b : Value) : Prop :=
  ∃ x y, rank? a = some x ∧ rank? b = some y ∧ x ≤ y

instance : IsTrans Value (IsNotAbove rank?) where
  trans a b c := by
    rintro ⟨x, y, rankA, rankB, first⟩ ⟨y', z, rankB', rankC, second⟩
    rw [rankB] at rankB'
    cases rankB'
    exact ⟨x, z, rankA, rankC, first.trans second⟩

namespace IsRanking

theorem exists_sort (ranking : IsRanking rank?) (sorting : Sorting)
    (ranked : AreRanked rank? items) : ∃ ordered, sort sorting items = .ok ordered := by
  cases sorted : sort sorting items with
  | ok ordered => exact ⟨ordered, rfl⟩
  | error reason =>
      obtain ⟨i, j, a, b, _, memberA, memberB, failed⟩ := areDisordered_of_sort sorted
      obtain ⟨x, rankA⟩ := Option.isSome_iff_exists.mp (ranked a (List.mem_of_getElem? memberA))
      obtain ⟨y, rankB⟩ := Option.isSome_iff_exists.mp (ranked b (List.mem_of_getElem? memberB))
      rw [ranking.less_eq rankA rankB] at failed
      cases failed

theorem isNotAbove_of_precedes {a b : Value} (ranking : IsRanking rank?)
    (rankedA : (rank? a).isSome) (rankedB : (rank? b).isSome) (precedes : Precedes a b) :
    IsNotAbove rank? a b := by
  obtain ⟨x, rankA⟩ := Option.isSome_iff_exists.mp rankedA
  obtain ⟨y, rankB⟩ := Option.isSome_iff_exists.mp rankedB
  refine ⟨x, y, rankA, rankB, ?_⟩
  rw [Precedes, ranking.less_eq rankA rankB, ranking.less_eq rankB rankA] at precedes
  rcases precedes with notLess | less
  · exact le_of_not_gt (of_decide_eq_false (Except.ok.inj notLess))
  · exact (of_decide_eq_true (Except.ok.inj less)).le

/-- Neighbours in order are in order with all others, as ranks are compared. -/
theorem ascending_of_sort (ranking : IsRanking rank?) (ranked : AreRanked rank? items)
    (apart : AreApart items) (sorted : sort sorting items = .ok ordered) :
    ordered.Pairwise (IsBelow rank?) := by
  have perm := perm_of_sort sorted
  have chain : ordered.IsChain (IsNotAbove rank?) := by
    apply (isChain_of_sort sorted).imp_of_mem_imp
    intro a b memberA memberB
    exact ranking.isNotAbove_of_precedes (ranked.perm perm a memberA) (ranked.perm perm b memberB)
  apply ((List.isChain_iff_pairwise.mp chain).and (apart.perm perm)).imp
  rintro a b ⟨⟨x, y, rankA, rankB, notMore⟩, apart⟩
  have different : x ≠ y := by
    rintro rfl
    rw [ranking.equals_self rankA rankB] at apart
    cases apart
  exact ⟨x, y, rankA, rankB, lt_of_le_of_ne notMore different⟩

/-- There is only one ascending order of the elements of a set. -/
theorem eq_of_ascending (perm : others.Perm items) (ascending : items.Pairwise (IsBelow rank?))
    (ascending' : others.Pairwise (IsBelow rank?)) : others = items := by
  refine List.Perm.eq_of_pairwise ?_ ascending' ascending perm
  rintro a b _ _ ⟨x, y, rankA, rankB, less⟩ ⟨y', x', rankB', rankA', more⟩
  rw [rankA] at rankA'
  rw [rankB] at rankB'
  cases rankA'
  cases rankB'
  exact (lt_asymm less more).elim

end IsRanking

theorem eq_of_integer? {a : Value} {n : Int} (isInteger : a.integer? = some n) :
    a = .int n ∨ (a = .bool true ∧ n = 1) ∨ (a = .bool false ∧ n = 0) := by
  cases a with
  | int m =>
      cases isInteger
      exact .inl rfl
  | bool b =>
      cases isInteger
      cases b
      · exact .inr (.inr ⟨rfl, rfl⟩)
      · exact .inr (.inl ⟨rfl, rfl⟩)
  | _ => cases isInteger

theorem size?_of_integer? {a : Value} {n : Int} (isInteger : a.integer? = some n) :
    a.size? = some (.finite n) := by
  rcases eq_of_integer? isInteger with rfl | ⟨rfl, rfl⟩ | ⟨rfl, rfl⟩ <;> rfl

theorem canonical?_of_integer? {a : Value} {n : Int} (isInteger : a.integer? = some n) :
    a.canonical? = some (tagged "number" [intText n ++ "/1"]) := by
  rcases eq_of_integer? isInteger with rfl | ⟨rfl, rfl⟩ | ⟨rfl, rfl⟩ <;> rfl

theorem less_of_size? {a b : Value} {x y : Size} (sizeA : a.size? = some x)
    (sizeB : b.size? = some y) : less a b = numberLess a b x y := by
  have single : less a b = singleLess a b := by
    cases a with
    | tuple | record => cases sizeA
    | _ => rfl
  simp only [single, singleLess, sizeA, sizeB]

theorem isRanking_integer? : IsRanking integer? where
  less_eq := by
    intro a b x y rankA rankB
    rw [less_of_size? (size?_of_integer? rankA) (size?_of_integer? rankB)]
    simp [numberLess, Size.less, Rat.intCast_lt_intCast]
  equals_self rankA rankB :=
    equals_iff.mpr ⟨_, canonical?_of_integer? rankA, canonical?_of_integer? rankB⟩

theorem isRanking_text? : IsRanking text? where
  less_eq := by
    intro a b x y rankA rankB
    cases a <;> cases rankA
    cases b <;> cases rankB
    rfl
  equals_self := by
    intro a b x rankA rankB
    cases a <;> cases rankA
    cases b <;> cases rankB
    exact equals_iff.mpr ⟨_, rfl, rfl⟩

/-- Decimals do not compare with anything if they are none, and nothing compares with them. -/
theorem less_of_isDecimal {a b : Value} {y : Size} (decimal : a.isDecimal = true)
    (nowhere : a.size? = some .nowhere) (size : b.size? = some y) :
    less a b = .error .undefined ∧ less b a = .error .undefined := by
  rw [less_of_size? nowhere size, less_of_size? size nowhere]
  simp [numberLess, decimal]

theorem exists_neighbour {related : Value → Value → Prop} {item : Value}
    (chain : items.IsChain related) (member : item ∈ items) (several : 2 ≤ items.length) :
    ∃ other ∈ items, related item other ∨ related other item := by
  obtain ⟨before, after, rfl⟩ := List.append_of_mem member
  cases after with
  | cons next after =>
      exact ⟨next, by simp, .inl (List.isChain_append_cons_cons.mp chain).2.1⟩
  | nil =>
      obtain rfl | ⟨earlier, last, rfl⟩ := List.eq_nil_or_concat before
      · simp at several
      · refine ⟨last, by simp, .inr ?_⟩
        rw [List.concat_eq_append, List.append_assoc, List.singleton_append] at chain
        exact (List.isChain_append_cons_cons.mp chain).2.1

/-- However numbers are sorted, a decimal that is none is met. -/
theorem sort_eq_undefined (sorting : Sorting) {item : Value}
    (numbers : ∀ item ∈ items, item.size?.isSome)
    (member : item ∈ items) (decimal : item.isDecimal = true)
    (nowhere : item.size? = some .nowhere) (several : 2 ≤ items.length) :
    sort sorting items = .error .undefined := by
  cases sorted : sort sorting items with
  | error reason =>
      obtain ⟨i, j, a, b, _, memberA, memberB, failed⟩ := areDisordered_of_sort sorted
      obtain ⟨x, sizeA⟩ := Option.isSome_iff_exists.mp (numbers a (List.mem_of_getElem? memberA))
      obtain ⟨y, sizeB⟩ := Option.isSome_iff_exists.mp (numbers b (List.mem_of_getElem? memberB))
      rw [less_of_size? sizeA sizeB, numberLess] at failed
      split at failed <;> cases failed
      rfl
  | ok ordered =>
      have perm := perm_of_sort sorted
      obtain ⟨other, memberOther, precedes⟩ := exists_neighbour (isChain_of_sort sorted)
        (perm.mem_iff.mpr member) (perm.length_eq ▸ several)
      obtain ⟨y, size⟩ := Option.isSome_iff_exists.mp (numbers other (perm.mem_iff.mp memberOther))
      have ⟨before, after⟩ := less_of_isDecimal decimal nowhere size
      simp [Precedes, before, after] at precedes

variable {frozen : Bool} {spent : List Nat}

theorem elements?_set_eq (short : items.length < lengthLimit) :
    (set frozen items).elements? sorting spent = (inOrder sorting items).map some := by
  have checked : (set frozen items).checkLength = .ok () := by
    refine checkLength_eq_ok_iff.mpr fun length asked => ?_
    cases asked
    exact short
  show ((set frozen items).checkLength >>= fun _ => _) = _
  rw [checked]
  show (inOrder sorting items >>= fun ordered => pure (some ordered)) = _
  cases inOrder sorting items <;> rfl

/-- However the set is iterated and sorted, blocks go through its elements in this order. -/
structure IteratesAs (items elements : List Value) : Prop where
  perm : elements.Perm items
  elements?_eq : ∀ sorting frozen spent others, others.Perm items →
    (set frozen others).elements? sorting spent = .ok (some elements)

theorem IsRanking.exists_iteratesAs (ranking : IsRanking rank?)
    (short : items.length < lengthLimit) (ranked : AreRanked rank? items)
    (apart : AreApart items) :
    ∃ elements : List Value, elements.Pairwise (IsBelow rank?) ∧ IteratesAs items elements := by
  obtain ⟨elements, sorted⟩ := ranking.exists_sort .standard ranked
  have ascending := ranking.ascending_of_sort ranked apart sorted
  refine ⟨elements, ascending, perm_of_sort sorted, ?_⟩
  intro sorting frozen spent others perm
  obtain ⟨ordered, sortedOthers⟩ := ranking.exists_sort sorting (ranked.perm perm)
  have same : ordered = elements := by
    refine eq_of_ascending ?_ ascending
      (ranking.ascending_of_sort (ranked.perm perm) (apart.perm perm) sortedOthers)
    exact (perm_of_sort sortedOthers).trans (perm.trans (perm_of_sort sorted).symm)
  rw [elements?_set_eq (by rwa [perm.length_eq]), inOrder, sortedOthers, same]
  rfl

end Stencil.Value
