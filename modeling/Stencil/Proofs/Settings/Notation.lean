import Stencil.Proofs.Resolve.Agreement
import Stencil.Proofs.Text.Letter
import Stencil.Settings.Override

set_option autoImplicit false

/-!
How the text of a variable is read. Only a numeral and a document can fail to be read: the numeral
for its length or for separators at its ends, and the document for a long numeral in it. Whatever
else is wrong with a text makes it stand for itself.
-/

namespace Stencil.Settings
open Text

variable {text : String}

/-- The digits of a text in the notation of whole numbers. -/
def numeralDigits (text : String) : List Char := (Binary64.takeSign (strip text).toList).2

/-- A text from which no value is read, not even the text itself. -/
inductive IsUnreadable (text : String) : Prop where
  | numeral :
      readTruth? text = none → isIntNotation text = true →
      ((∃ c ∈ text.toList, isSeparator c = true) ∨ numeralLimit < (numeralDigits text).length) →
      IsUnreadable text
  | document {fault} :
      isEnclosed text = true →
      Document.readNotation (strip text).toList = .error (.longNumeral fault) →
      IsUnreadable text

theorem isIntNotation_iff : isIntNotation text = true ↔
    numeralDigits text ≠ [] ∧ ∀ c ∈ numeralDigits text, isDecimal c = true := by
  simp [isIntNotation, numeralDigits]

theorem exists_readInt_eq_error_iff_not :
    (∃ fault, readInt text = .error fault) ↔ ¬∃ n, readInt text = .ok n := by
  cases readInt text <;> simp

/-- What keeps a text in the notation of whole numbers from being one. -/
theorem exists_readInt_eq_error_iff (whole : isIntNotation text = true) :
    (∃ fault, readInt text = .error fault) ↔
      (∃ c ∈ text.toList, isSeparator c = true) ∨ numeralLimit < (numeralDigits text).length := by
  obtain ⟨nonempty, decimal⟩ := isIntNotation_iff.mp whole
  rw [exists_readInt_eq_error_iff_not, exists_readInt_iff_of_decimal nonempty decimal, not_and_or,
    Nat.not_le]
  simp [numeralDigits]

/-! Numbers and documents begin with a character that stays as it is in lower case. Words do not. -/

section Opening

variable {c : Char} {rest : List Char}

/-- What a number or a document begins with. -/
def IsOpening (c : Char) : Prop := isDecimal c = true ∨ c ∈ ['-', '+', '.', '[', '\x7b']

theorem IsOpening.lowerChar_eq (opening : IsOpening c) : lowerChar c = [c] := by
  rcases opening with decimal | sign
  · exact lowerChar_of_isDecimal decimal
  · simp only [List.mem_cons, List.not_mem_nil, or_false] at sign
    rcases sign with rfl | rfl | rfl | rfl | rfl <;> rfl

theorem IsOpening.not_letter (opening : IsOpening c) : c ∉ ['t', 'f', 'n'] := by
  intro letter
  simp only [List.mem_cons, List.not_mem_nil, or_false] at letter
  rcases opening with decimal | sign
  · rcases letter with rfl | rfl | rfl <;> cases decimal
  · rcases letter with rfl | rfl | rfl <;> simp at sign

theorem noWord_of_isOpening (opens : (strip text).toList = c :: rest) (opening : IsOpening c) :
    readTruth? text = none ∧ isNullNotation text = false := by
  have head := head?_lower opens opening.lowerChar_eq
  have apart (word : String) (first : word.toList.head? ≠ some c) : lower (strip text) ≠ word := by
    rintro rfl
    exact first head
  have noLetter := opening.not_letter
  simp only [List.mem_cons, List.not_mem_nil, or_false, not_or] at noLetter
  have noTrue : lower (strip text) ≠ "true" := apart _ (by simpa using Ne.symm noLetter.1)
  have noFalse : lower (strip text) ≠ "false" := apart _ (by simpa using Ne.symm noLetter.2.1)
  have noNull : lower (strip text) ≠ "null" := apart _ (by simpa using Ne.symm noLetter.2.2)
  simp [readTruth?, isNullNotation, noTrue, noFalse, noNull]

end Opening

/-! A bracket or a brace at the beginning leaves no other notation. -/

section Enclosed

theorem opening_of_isEnclosed (enclosed : isEnclosed text = true) :
    ∃ c rest, (strip text).toList = c :: rest ∧ (c = '\x7b' ∨ c = '[') := by
  simp only [isEnclosed, Bool.or_eq_true, Bool.and_eq_true, beq_iff_eq,
    List.head?_eq_some_iff] at enclosed
  rcases enclosed with ⟨⟨rest, opens⟩, _⟩ | ⟨⟨rest, opens⟩, _⟩
  · exact ⟨_, rest, opens, .inl rfl⟩
  · exact ⟨_, rest, opens, .inr rfl⟩

theorem noWord_of_isEnclosed (enclosed : isEnclosed text = true) :
    readTruth? text = none ∧ isNullNotation text = false := by
  obtain ⟨c, rest, opens, bracket⟩ := opening_of_isEnclosed enclosed
  exact noWord_of_isOpening opens (.inr (by rcases bracket with rfl | rfl <;> decide))

theorem notNumeral_of_isEnclosed (enclosed : isEnclosed text = true) :
    isIntNotation text = false ∧ isFloatNotation text = false := by
  obtain ⟨c, rest, opens, bracket⟩ := opening_of_isEnclosed enclosed
  have notDecimal : isDecimal c = false := by rcases bracket with rfl | rfl <;> decide
  have unsigned : Binary64.takeSign (strip text).toList = (false, c :: rest) := by
    rw [opens]
    rcases bracket with rfl | rfl <;> rfl
  have notPoint : c ≠ '.' := by rcases bracket with rfl | rfl <;> simp
  constructor
  · simp [isIntNotation, unsigned, notDecimal]
  · simp [isFloatNotation, unsigned, notDecimal, notPoint]

end Enclosed

theorem coerce_of_isEnclosed (enclosed : isEnclosed text = true) :
    coerce text = (readEnclosed text).map (Option.getD · (readPlain text)) := by
  obtain ⟨notInt, notFloat⟩ := notNumeral_of_isEnclosed enclosed
  simp only [coerce, (noWord_of_isEnclosed enclosed).1, notInt, notFloat, enclosed,
    Bool.false_eq_true, if_false, if_true]
  cases readEnclosed text <;> rfl

/-- What is read from a whole number fails as the numeral does. -/
theorem exists_of_readInt_map {α : Type} {make : Int → α} {fault : Fault}
    (failed : ((readInt text).map make).mapError .numeral = .error fault) :
    ∃ numeral, readInt text = .error numeral ∧ fault = .numeral numeral := by
  cases read : readInt text with
  | ok n =>
      rw [read] at failed
      cases failed
  | error numeral =>
      rw [read] at failed
      cases failed
      exact ⟨numeral, rfl, rfl⟩

/-- Only what makes a text unreadable makes its reading fail, and it fails as that of a numeral. -/
theorem isUnreadable_of_coerce {fault : Fault} (failed : coerce text = .error fault) :
    IsUnreadable text ∧ ∃ numeral, fault = .numeral numeral := by
  rw [coerce] at failed
  split at failed
  · cases failed
  next noTruth =>
    split at failed
    next whole =>
      obtain ⟨numeral, unread, rfl⟩ := exists_of_readInt_map failed
      have broken := (exists_readInt_eq_error_iff whole).mp ⟨numeral, unread⟩
      exact ⟨.numeral noTruth whole broken, numeral, rfl⟩
    next =>
      split at failed
      · cases failed
      next =>
        split at failed
        next enclosed =>
          -- A malformed document stands for its text, so only a numeral in it can fail.
          cases read : Document.readNotation (strip text).toList with
          | ok value =>
              simp only [readEnclosed, read] at failed
              cases failed
          | error fault =>
              simp only [readEnclosed, read] at failed
              cases fault with
              | malformed => cases failed
              | longNumeral numeral =>
                  cases failed
                  exact ⟨.document enclosed read, numeral, rfl⟩
        · cases failed

theorem exists_coerce_of_isUnreadable (unreadable : IsUnreadable text) :
    ∃ numeral, coerce text = .error (.numeral numeral) := by
  cases unreadable with
  | numeral noTruth whole broken =>
      obtain ⟨numeral, unread⟩ := (exists_readInt_eq_error_iff whole).mpr broken
      refine ⟨numeral, ?_⟩
      simp only [coerce, noTruth, whole, unread, if_true]
      rfl
  | document enclosed unread =>
      rw [coerce_of_isEnclosed enclosed, readEnclosed, unread]
      exact ⟨_, rfl⟩

end Stencil.Settings
