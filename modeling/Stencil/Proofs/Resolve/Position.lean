import Stencil.Proofs.Text.Numeral
import Stencil.Resolve.Registry

set_option autoImplicit false

/-!
Segments that denote positions. On an ordered collection such a segment leads to the item at its
position or to none, unless its numeral is too long, the length of the collection is out of reach,
or the collection claims an item that it does not have.
-/

namespace Stencil

/-- Digits are read up to the limit of numerals. -/
theorem readDigits_of_isIndexSegment {segment : String} (index : isIndexSegment segment = true) :
    Text.readDigits segment segment.toList =
      if Text.numeralLimit < segment.length then .error (.tooLong segment.length)
      else .ok (Text.numeralValue segment.toList) := by
  rw [isIndexSegment, Bool.and_eq_true, List.all_eq_true] at index
  obtain ⟨nonempty, digits⟩ := index
  -- All of the segment is one numeral, so nothing is left over that could be malformed.
  have whole : segment.toList.takeWhile Text.isDecimal = segment.toList := by
    rw [List.takeWhile_eq_self_iff]
    exact fun c member => Text.isDecimal_of_ascii (digits c member)
  have notEmpty : segment.toList.isEmpty = false := by
    rw [List.isEmpty_eq_false_iff]
    simpa using nonempty
  simp only [Text.readDigits, whole, String.length_toList, notEmpty, Bool.false_or]
  congr 1
  rw [← String.length_toList, List.drop_length]
  rfl

namespace Value

/-- Reading a member never fails; a member may be absent. -/
def IsCalm (value : Value) : Prop := ∀ name, ∃ member, value.member? name = .ok member

theorem IsCalm.exists_shownMember? {value : Value} (calm : value.IsCalm) (name : String) :
    ∃ shown, value.shownMember? name = .ok shown := by
  obtain ⟨member, read⟩ := calm name
  rw [shownMember?, read]
  cases isPublicName name with
  | true => exact ⟨_, rfl⟩
  | false => exact ⟨_, rfl⟩

def position (segment : String) : Nat := Text.numeralValue segment.toList

/-- The length that a collection tells, or zero if it tells none. -/
def toldLength (value : Value) : Nat := value.collectionLength?.getD 0

/-- Asked for the position, the value has neither an item nor none to answer with. -/
structure Refuses (value : Value) (segment : String) : Prop where
  indexable : value.isIndexable = true
  index : isIndexSegment segment = true
  reason : Text.numeralLimit < segment.length ∨ lengthLimit ≤ value.toldLength ∨
    position segment < value.toldLength ∧ value.item? (position segment) = none

end Value

namespace Resolver

variable {value : Value} {segment : String}

theorem atPosition_eq (index : isIndexSegment segment = true) :
    atPosition value segment =
      if Text.numeralLimit < segment.length then .error (.numeral (.tooLong segment.length))
      else if Value.lengthLimit ≤ value.toldLength then .error value.lengthFault
      else if value.toldLength ≤ Value.position segment then .ok none
      else
        match value.item? (Value.position segment) with
        | some item => .ok (some item)
        | none => .error .positionRange := by
  rw [atPosition, readDigits_of_isIndexSegment index]
  by_cases long : Text.numeralLimit < segment.length
  · rw [if_pos long, if_pos long]
    rfl
  · rw [if_neg long, if_neg long]
    show (if Value.lengthLimit ≤ value.toldLength then throw value.lengthFault else _) = _
    by_cases out : Value.lengthLimit ≤ value.toldLength
    · rw [if_pos out, if_pos out]
      rfl
    · rw [if_neg out, if_neg out]
      rfl

/-- Asked for a position, an ordered collection that does not refuse answers with the item there, or
with none if its length does not reach so far. -/
theorem atPosition_of_not_refuses (indexable : value.isIndexable = true)
    (index : isIndexSegment segment = true) (answering : ¬value.Refuses segment) :
    atPosition value segment =
      .ok (if Value.position segment < value.toldLength then value.item? (Value.position segment)
        else none) := by
  have short : ¬Text.numeralLimit < segment.length := fun long =>
    answering ⟨indexable, index, .inl long⟩
  have inReach : ¬Value.lengthLimit ≤ value.toldLength := fun out =>
    answering ⟨indexable, index, .inr (.inl out)⟩
  rw [atPosition_eq index, if_neg short, if_neg inReach]
  by_cases within : Value.position segment < value.toldLength
  · rw [if_neg (Nat.not_le_of_lt within), if_pos within]
    cases there : value.item? (Value.position segment) with
    | some item => rfl
    | none => exact (answering ⟨indexable, index, .inr (.inr ⟨within, there⟩)⟩).elim
  · rw [if_pos (Nat.le_of_not_lt within), if_neg within]

theorem exists_fault_of_refuses (refuses : value.Refuses segment) :
    ∃ fault, atPosition value segment = .error fault := by
  rw [atPosition_eq refuses.index]
  by_cases long : Text.numeralLimit < segment.length
  · exact ⟨_, if_pos long⟩
  · rw [if_neg long]
    by_cases out : Value.lengthLimit ≤ value.toldLength
    · exact ⟨_, if_pos out⟩
    · rw [if_neg out]
      rcases refuses.reason with long' | out' | ⟨within, absent⟩
      · exact (long long').elim
      · exact (out out').elim
      · rw [if_neg (Nat.not_le_of_lt within), absent]
        exact ⟨_, rfl⟩

end Resolver

namespace Registry

variable {value : Value} {segment : String}

/-- The first resolver that claims the segment answers, except on null. -/
theorem resolve_of_ne_null (registry : Registry) (nonnull : value ≠ .null) :
    registry.resolve value segment =
      match registry.find? fun resolver => resolver.claims value segment with
      | some resolver => resolver.resolve value segment
      | none => .ok none := by
  cases value with
  | null => exact (nonnull rfl).elim
  | _ => rfl

theorem resolve_standard_of_index (indexable : value.isIndexable = true)
    (index : isIndexSegment segment = true) :
    standard.resolve value segment = Resolver.atPosition value segment := by
  have nonnull : value ≠ .null := by
    rintro rfl
    exact Bool.noConfusion indexable
  have claimed : ((Resolver.ofSequence 0).claims value segment) = true := by
    simp [Resolver.ofSequence, indexable, index]
  rw [resolve_of_ne_null standard nonnull, standard, List.find?_cons_of_pos (by exact claimed)]
  rfl

theorem resolve_standard_of_other (nonnull : value ≠ .null)
    (other : (value.isIndexable && isIndexSegment segment) = false) :
    standard.resolve value segment =
      match Resolver.mappingEntries? value with
      | some entries => .ok (Value.entry? segment entries)
      | none => value.shownMember? segment := by
  have passed : ¬(Resolver.ofSequence 0).claims value segment = true := by
    simpa [Resolver.ofSequence] using other
  rw [resolve_of_ne_null standard nonnull, standard, List.find?_cons_of_neg (by exact passed)]
  cases entries : Resolver.mappingEntries? value with
  | some entries => simp [Resolver.ofMapping, entries]
  | none => simp [Resolver.ofMapping, Resolver.ofMember, entries]

theorem exists_resolve_standard_of_other (calm : value.IsCalm)
    (other : (value.isIndexable && isIndexSegment segment) = false) :
    ∃ found, standard.resolve value segment = .ok found := by
  by_cases null : value = .null
  · subst null
    exact ⟨none, rfl⟩
  · rw [resolve_standard_of_other null other]
    cases Resolver.mappingEntries? value with
    | some entries => exact ⟨_, rfl⟩
    | none => exact calm.exists_shownMember? segment

/-- A calm value fails to answer just the positions that it refuses. -/
theorem exists_resolve_standard_iff (calm : value.IsCalm) :
    (∃ found, standard.resolve value segment = .ok found) ↔ ¬value.Refuses segment := by
  cases position : value.isIndexable && isIndexSegment segment with
  | false =>
      have answering : ¬value.Refuses segment := by
        rintro ⟨indexable, index, _⟩
        simp [indexable, index] at position
      exact iff_of_true (exists_resolve_standard_of_other calm position) answering
  | true =>
      obtain ⟨indexable, index⟩ := Bool.and_eq_true_iff.mp position
      rw [resolve_standard_of_index indexable index]
      constructor
      · rintro ⟨found, resolved⟩ refuses
        obtain ⟨fault, failed⟩ := Resolver.exists_fault_of_refuses refuses
        rw [failed] at resolved
        cases resolved
      · intro answering
        exact ⟨_, Resolver.atPosition_of_not_refuses indexable index answering⟩

end Registry
end Stencil
