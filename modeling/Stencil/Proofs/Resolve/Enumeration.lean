import Stencil.Proofs.Resolve.Position
import Stencil.Proofs.Value.Classification

set_option autoImplicit false

/-!
Asking for positions and going through. A block over an ordered collection goes through the items
that the collection has at its positions, in order, so a position leads to the element with that
number, or to none behind the last one. The collection counts as true just if it has a first one.
Objects that tell another length than that of their items are the only ones that break this.
-/

namespace Stencil

/-! Every position has a numeral; with leading zeros it can be as long as one likes. -/

theorem isIndexDigit_digitChar : ∀ digit < 10,
    ('0' ≤ Nat.digitChar digit && Nat.digitChar digit ≤ '9') = true ∧
      Text.decimalValue? (Nat.digitChar digit) = some digit := by decide

theorem numeralValue_concat (cs : List Char) (c : Char) :
    Text.numeralValue (cs ++ [c]) =
      Text.numeralValue cs * 10 + (Text.decimalValue? c).getD 0 := by
  simp [Text.numeralValue]

theorem exists_indexSegment (length : Nat) {position : Nat}
    (small : position < Nat.pow 10 (length + 1)) :
    ∃ segment, isIndexSegment segment = true ∧ segment.length = length + 1 ∧
      Value.position segment = position := by
  induction length generalizing position with
  | zero =>
      obtain ⟨digit, value⟩ := isIndexDigit_digitChar position small
      refine ⟨String.singleton (Nat.digitChar position), ?_, by simp, ?_⟩
      · simpa [isIndexSegment] using digit
      · simp [Value.position, Text.numeralValue, value]
  | succ length inductionHypothesis =>
      have tenth : position / 10 < Nat.pow 10 (length + 1) :=
        (Nat.div_lt_iff_lt_mul (by decide)).2 small
      obtain ⟨leading, index, size, value⟩ := inductionHypothesis tenth
      obtain ⟨digit, last⟩ := isIndexDigit_digitChar (position % 10) (by omega)
      refine ⟨leading ++ String.singleton (Nat.digitChar (position % 10)), ?_, by simp [size], ?_⟩
      · rw [isIndexSegment, Bool.and_eq_true] at index ⊢
        exact ⟨by simp, by simpa [digit] using index.2⟩
      · rw [Value.position] at value ⊢
        rw [String.toList_append, String.toList_singleton, numeralValue_concat, value, last,
          Option.getD_some]
        omega

namespace Value

variable {value : Value} {items : List Value} {position : Nat}

/-- Going through the value is asking it for one position after the other, up to its length. -/
def GoesByPosition (value : Value) : Prop :=
  ∃ items, value.items? [] = some items ∧
    (List.range value.toldLength).map value.item? = items.map some

theorem length_eq_of_map_range_eq
    (asked : (List.range value.toldLength).map value.item? = items.map some) :
    items.length = value.toldLength := by
  simpa using (congrArg List.length asked).symm

theorem item?_of_map_range_eq
    (asked : (List.range value.toldLength).map value.item? = items.map some)
    (within : position < value.toldLength) : value.item? position = items[position]? := by
  have there := congrArg (·[position]?) asked
  have listed : position < items.length := length_eq_of_map_range_eq asked ▸ within
  simpa [within, listed] using there

/-- It is enough that the length is that of the items, and that they are at their positions. -/
theorem GoesByPosition.of_item? (going : value.items? [] = some items)
    (length : value.toldLength = items.length)
    (there : ∀ position < items.length, value.item? position = items[position]?) :
    value.GoesByPosition := by
  refine ⟨items, going, List.ext_getElem (by simp [length]) fun position _ listed => ?_⟩
  have within : position < items.length := by simpa using listed
  simpa [within] using there position within

/-- An ordered collection goes by position, unless it is an object that tells another length than
that of its items. -/
theorem goesByPosition_of_isIndexable (indexable : value.isIndexable = true)
    (honest : ∀ profile members items, value = .object profile members (.sequence items) →
      value.toldLength = items.length) : value.GoesByPosition := by
  cases value with
  | list items | tuple items => exact .of_item? rfl rfl fun _ _ => rfl
  | record type fields =>
      refine .of_item? rfl (List.length_map _).symm fun position _ => ?_
      exact (List.getElem?_map).symm
  | range start stop step =>
      have length : (rangeItems start stop step).length = rangeLength start stop step := by
        simp [rangeItems]
      refine .of_item? rfl length.symm fun position listed => ?_
      have within : position < rangeLength start stop step := length ▸ listed
      rw [item?, if_pos within]
      simp [rangeItems, within]
  | object profile members contents =>
      cases contents with
      | sequence items => exact .of_item? rfl (honest profile members items rfl) fun _ _ => rfl
      | _ => exact Bool.noConfusion indexable
  | _ => exact Bool.noConfusion indexable

theorem tellsLength_of_isIndexable (indexable : value.isIndexable = true) :
    value.isCollection = true ∧ value.collectionLength? = some value.toldLength ∧
      value.askedLength? = some value.toldLength := by
  cases value with
  | object profile members contents =>
      cases contents with
      | sequence items => exact ⟨rfl, rfl, rfl⟩
      | _ => exact Bool.noConfusion indexable
  | list _ | tuple _ | record _ _ | range _ _ _ => exact ⟨rfl, rfl, rfl⟩
  | _ => exact Bool.noConfusion indexable

theorem elements?_and_condition_of_isIndexable (indexable : value.isIndexable = true)
    (inReach : value.toldLength < lengthLimit) (sorting : Sorting) (spent : List Nat) :
    value.elements? sorting spent = .ok (value.items? []) ∧
      value.condition spent = .ok (value.toldLength != 0) := by
  obtain ⟨collection, told, asked⟩ := tellsLength_of_isIndexable indexable
  have checked : value.checkLength = .ok () := by
    rw [checkLength, asked]
    exact if_pos inReach
  constructor
  · unfold elements?
    rw [if_pos collection, checked]
    cases value with
    | object profile members contents => cases contents <;> rfl
    | list _ | tuple _ | record _ _ | range _ _ _ => rfl
    | _ => exact Bool.noConfusion indexable
  · rw [condition, checked]
    show Except.ok _ = _
    rw [if_pos collection, told]

end Value

namespace Registry

variable {value : Value} {segment : String} {items elements : List Value}

theorem resolve_standard_of_map_range_eq (indexable : value.isIndexable = true)
    (inReach : value.toldLength < Value.lengthLimit)
    (asked : (List.range value.toldLength).map value.item? = items.map some)
    (index : isIndexSegment segment = true) (short : segment.length ≤ Text.numeralLimit) :
    standard.resolve value segment = .ok items[Value.position segment]? := by
  have answering : ¬value.Refuses segment := by
    rintro ⟨_, _, long | out | ⟨within, absent⟩⟩
    · exact absurd short (Nat.not_le_of_lt long)
    · exact absurd inReach (Nat.not_lt_of_le out)
    · rw [Value.item?_of_map_range_eq asked within, List.getElem?_eq_none_iff,
        Value.length_eq_of_map_range_eq asked] at absent
      exact absurd within (Nat.not_lt_of_le absent)
  rw [resolve_standard_of_index indexable index,
    Resolver.atPosition_of_not_refuses indexable index answering]
  by_cases within : Value.position segment < value.toldLength
  · rw [if_pos within, Value.item?_of_map_range_eq asked within]
  · have beyond : items.length ≤ Value.position segment :=
      Value.length_eq_of_map_range_eq asked ▸ Nat.le_of_not_lt within
    rw [if_neg within, List.getElem?_eq_none beyond]

/-- With the standard resolvers, the positions of a value lead to its elements, and it counts as
true just if the first position leads to one. -/
structure Enumerates (value : Value) (elements : List Value) : Prop where
  passes : ∀ sorting spent, value.elements? sorting spent = .ok (some elements)
  positions : ∀ segment, isIndexSegment segment = true → segment.length ≤ Text.numeralLimit →
    standard.resolve value segment = .ok elements[Value.position segment]?
  counts : ∃ holds, (∀ spent, value.condition spent = .ok holds) ∧
    (holds = true ↔ ∃ item, standard.resolve value "0" = .ok (some item))

theorem exists_enumerates (indexable : value.isIndexable = true)
    (inReach : value.toldLength < Value.lengthLimit) (byPosition : value.GoesByPosition) :
    ∃ elements, Enumerates value elements := by
  obtain ⟨items, going, asked⟩ := byPosition
  have answers := Value.elements?_and_condition_of_isIndexable indexable inReach
  have positions (segment : String) (index : isIndexSegment segment = true)
      (short : segment.length ≤ Text.numeralLimit) :
      standard.resolve value segment = .ok items[Value.position segment]? :=
    resolve_standard_of_map_range_eq indexable inReach asked index short
  refine ⟨items, fun sorting spent => going ▸ (answers sorting spent).1, positions,
    value.toldLength != 0, fun spent => (answers .standard spent).2, ?_⟩
  have first : Value.position "0" = 0 := rfl
  rw [positions "0" rfl (by decide), first, ← Value.length_eq_of_map_range_eq asked]
  cases items <;> simp

/-- A length that is not that of the items shows at the least position that only one of the two
reaches: it leads to no element that a pass comes by, or it leads nowhere at all. -/
theorem Enumerates.toldLength_eq (enumerates : Enumerates value elements)
    (indexable : value.isIndexable = true) (inReach : value.toldLength < Value.lengthLimit)
    (here : ∀ position, value.item? position = elements[position]?) :
    value.toldLength = elements.length := by
  have reach : Value.lengthLimit < Nat.pow 10 20 := by decide
  have short : 20 ≤ Text.numeralLimit := by decide
  rcases Nat.lt_trichotomy value.toldLength elements.length with less | same | more
  · obtain ⟨segment, index, size, place⟩ := exists_indexSegment 19 (inReach.trans reach)
    have answered := enumerates.positions segment index (size ▸ short)
    have answering : ¬value.Refuses segment := by
      rintro ⟨_, _, long | out | ⟨within, _⟩⟩
      · exact absurd long (by omega)
      · exact absurd inReach (Nat.not_lt_of_le out)
      · exact absurd within (place ▸ Nat.lt_irrefl _)
    rw [resolve_standard_of_index indexable index,
      Resolver.atPosition_of_not_refuses indexable index answering, place,
      if_neg (Nat.lt_irrefl _), List.getElem?_eq_getElem less] at answered
    cases answered
  · exact same
  · obtain ⟨segment, index, size, place⟩ :=
      exists_indexSegment 19 ((more.trans inReach).trans reach)
    have answered := enumerates.positions segment index (size ▸ short)
    have refuses : value.Refuses segment :=
      ⟨indexable, index, .inr (.inr ⟨place ▸ more, by rw [here, place]; simp⟩)⟩
    obtain ⟨fault, failed⟩ := Resolver.exists_fault_of_refuses refuses
    rw [resolve_standard_of_index indexable index, failed] at answered
    cases answered

/-- The positions of an ordered collection lead to its elements, and its first position tells
whether it counts as true: always if it is a list, a tuple, a record or a range, and if it is an
object of its own just if going through it is asking for its positions. -/
theorem enumerates_iff (value : Value) (indexable : value.isIndexable = true)
    (inReach : value.toldLength < Value.lengthLimit) :
    (∃ elements, Enumerates value elements) ↔
      ∀ profile members contents, value = .object profile members contents →
        value.GoesByPosition := by
  constructor
  · rintro ⟨elements, enumerates⟩ _ _ _ _
    refine Value.goesByPosition_of_isIndexable indexable fun profile members items same => ?_
    subst same
    have passed := enumerates.passes .standard []
    rw [(Value.elements?_and_condition_of_isIndexable indexable inReach .standard []).1] at passed
    cases passed
    exact enumerates.toldLength_eq indexable inReach fun _ => rfl
  · intro own
    refine exists_enumerates indexable inReach
      (Value.goesByPosition_of_isIndexable indexable fun profile members items same => ?_)
    obtain ⟨gone, going, asked⟩ := own profile members _ same
    subst same
    cases going
    exact (Value.length_eq_of_map_range_eq asked).symm

/-- Two seats in a row, kept by an object that tells how many they are. -/
def seats : Value :=
  .object ⟨1, "Row", "<Row>", none, some 2, false, [], [], []⟩ []
    (.sequence [.text "aisle", .text "window"])

/-- Leading zeros do not count, and the length is no position. -/
theorem enumerates_seats :
    seats.isIndexable = true ∧ seats.toldLength < Value.lengthLimit ∧ seats.GoesByPosition ∧
      standard.resolve seats "001" = .ok (some (.text "window")) ∧
      standard.resolve seats "2" = .ok none ∧ seats.condition [] = .ok true := by
  have inReach : seats.toldLength < Value.lengthLimit := by decide
  have byPosition : seats.GoesByPosition := ⟨[.text "aisle", .text "window"], rfl, rfl⟩
  obtain ⟨elements, passes, positions, holds, answered, first⟩ :=
    (enumerates_iff seats rfl inReach).mpr fun _ _ _ _ => byPosition
  cases passes .standard []
  refine ⟨rfl, inReach, byPosition, positions "001" rfl (by decide), positions "2" rfl (by decide),
    ?_⟩
  rw [answered, first.mpr ⟨.text "aisle", positions "0" rfl (by decide)⟩]

end Registry
end Stencil
