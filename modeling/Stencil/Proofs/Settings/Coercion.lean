import Stencil.Proofs.Document.Reading
import Stencil.Proofs.Settings.Notation
import Stencil.Proofs.Text.Letter

set_option autoImplicit false

/-!
The notations of values leave each other alone: a text is in one of them at most, so that the order
in which they are tried makes no difference. Nor do blanks around a text, but for one thing: with
information separators around it a whole number keeps its notation and cannot be read.
-/

namespace Stencil.Settings
open Text

inductive Notation where
  | truth
  | whole
  | fraction
  | document
  | null
  deriving DecidableEq, Repr

namespace Notation

def all : List Notation := [truth, whole, fraction, document, null]

def suits (text : String) : Notation → Bool
  | truth => (readTruth? text).isSome
  | whole => isIntNotation text
  | fraction => isFloatNotation text
  | document => isEnclosed text
  | null => isNullNotation text

/-- The value of a text in a notation, if it is in that notation. -/
def read (text : String) : Notation → Except Fault (Option Value)
  | truth => .ok ((readTruth? text).map .bool)
  | whole =>
      if isIntNotation text then ((readInt text).map fun n => some (.int n)).mapError .numeral
      else .ok none
  | fraction =>
      .ok (if isFloatNotation text then (Binary64.readText? (strip text)).map .float else none)
  | document => if isEnclosed text then readEnclosed text else .ok none
  | null => .ok (if isNullNotation text then some .null else none)

end Notation

/-- The value in the first notation that gives one, or the text without the blanks around it. -/
def readBy (text : String) : List Notation → Except Fault Value
  | [] => .ok (.text (strip text))
  | first :: others => do
      match ← first.read text with
      | some value => pure value
      | none => readBy text others

/-- The notation of a whole number with an information separator somewhere around it. -/
def isMarred (text : String) : Bool := isIntNotation text && text.toList.any isSeparator

/-- A text has a value in one notation at most. Which notation is tried first makes no difference,
and neither do blanks around the text, unless they mar it. -/
structure IsUnambiguous (text : String) : Prop where
  single : ∀ one other value otherValue, Notation.read text one = .ok (some value) →
    Notation.read text other = .ok (some otherValue) → one = other
  ordered : ∀ order : List Notation, order.Perm Notation.all → readBy text order = coerce text
  plain : (∀ form value, Notation.read text form ≠ .ok (some value)) →
    coerce text =
      if isMarred text then .error (.numeral (.malformed text)) else .ok (.text (strip text))
  padded : ∀ before after : String, (∀ c ∈ before.toList, isBlank c = true) →
    (∀ c ∈ after.toList, isBlank c = true) →
    coerce (before ++ text ++ after) =
      if isMarred (before ++ text ++ after) then
        .error (.numeral (.malformed (before ++ text ++ after)))
      else coerce text

variable {text other : String} {c : Char} {rest : List Char}

/-! A number is no word. -/

theorem exists_opening_of_takeSign {cs : List Char}
    (unsigned : (Binary64.takeSign cs).2 = c :: rest) (opening : IsOpening c) :
    ∃ c rest, cs = c :: rest ∧ IsOpening c := by
  unfold Binary64.takeSign at unsigned
  split at unsigned
  next others => exact ⟨'-', others, rfl, .inr (by decide)⟩
  next others => exact ⟨'+', others, rfl, .inr (by decide)⟩
  next => exact ⟨c, rest, unsigned, opening⟩

theorem noWord_of_numeralDigits (digits : numeralDigits text = c :: rest) (opening : IsOpening c) :
    readTruth? text = none ∧ isNullNotation text = false := by
  obtain ⟨first, others, opens, opening⟩ := exists_opening_of_takeSign digits opening
  exact noWord_of_isOpening opens opening

theorem noWord_of_isIntNotation (whole : isIntNotation text = true) :
    readTruth? text = none ∧ isNullNotation text = false := by
  obtain ⟨nonempty, decimal⟩ := isIntNotation_iff.mp whole
  obtain ⟨c, rest, digits⟩ := List.exists_cons_of_ne_nil nonempty
  apply noWord_of_numeralDigits digits
  exact .inl (decimal c (digits ▸ List.mem_cons_self))

/-- Decimal digits before a point and after it, at least one of them. -/
structure IsPointed (whole fraction : List Char) : Prop where
  wholeDecimal : ∀ c ∈ whole, isDecimal c = true
  fractionDecimal : ∀ c ∈ fraction, isDecimal c = true
  filled : ¬(whole = [] ∧ fraction = [])

theorem exists_isPointed (pointed : isFloatNotation text = true) :
    ∃ whole fraction, numeralDigits text = whole ++ '.' :: fraction ∧ IsPointed whole fraction := by
  simp only [isFloatNotation] at pointed
  split at pointed
  next fraction point =>
    obtain ⟨decimal, filled⟩ := Bool.and_eq_true_iff.mp pointed
    refine ⟨(numeralDigits text).takeWhile isDecimal, fraction, ?_,
      fun c => List.mem_takeWhile_imp, List.all_eq_true.mp decimal, ?_⟩
    · rw [numeralDigits, ← point]
      exact (List.prefix_iff_eq_append.mp (List.takeWhile_prefix isDecimal)).symm
    · rintro ⟨noWhole, noFraction⟩
      rw [numeralDigits] at noWhole
      simp only [noWhole, noFraction] at filled
      cases filled
  next => cases pointed

theorem noWord_of_isFloatNotation (fraction : isFloatNotation text = true) :
    readTruth? text = none ∧ isNullNotation text = false := by
  obtain ⟨whole, others, digits, pointed⟩ := exists_isPointed fraction
  cases whole with
  | nil => exact noWord_of_numeralDigits digits (.inr (by decide))
  | cons c rest =>
      exact noWord_of_numeralDigits digits (.inl (pointed.wholeDecimal c List.mem_cons_self))

theorem notFloat_of_isIntNotation (whole : isIntNotation text = true) :
    isFloatNotation text = false := by
  rw [Bool.eq_false_iff]
  intro fraction
  obtain ⟨_, decimal⟩ := isIntNotation_iff.mp whole
  obtain ⟨front, others, digits, _⟩ := exists_isPointed fraction
  have point : isDecimal '.' = true := decimal '.' (by simp [digits])
  cases point

/-! Every fraction is read. -/

theorem joinDigits?_eq_self {cs : List Char} (joined : '_' ∉ cs) :
    Binary64.joinDigits? cs = some cs := by
  induction cs with
  | nil => rfl
  | cons c rest inductionHypothesis =>
      unfold Binary64.joinDigits?
      split
      · contradiction
      next others same =>
        cases same
        simp at joined
      next first second others _ same =>
        cases same
        simp at joined
      next first others _ same =>
        cases same
        simp only [List.mem_cons, not_or] at joined
        rw [inductionHypothesis joined.2, Option.map_some]

theorem exists_readUnsigned? {whole fraction : List Char} (negative : Bool)
    (pointed : IsPointed whole fraction) :
    ∃ x, Binary64.readUnsigned? negative (whole ++ '.' :: fraction) = some x := by
  have point : isDecimal '.' = false := rfl
  have front : (whole ++ '.' :: fraction).takeWhile isDecimal = whole := by
    rw [List.takeWhile_append_of_pos pointed.wholeDecimal,
      List.takeWhile_cons_of_neg (by simp [point]), List.append_nil]
  have back : fraction.takeWhile isDecimal = fraction :=
    List.takeWhile_eq_self_iff.mpr pointed.fractionDecimal
  have filled : (whole.isEmpty && fraction.isEmpty) = false := by
    simpa using pointed.filled
  simp [Binary64.readUnsigned?, front, back, filled, Binary64.readExponent?]

theorem lowerAscii_ne {whole fraction word : List Char} (pointless : '.' ∉ word) :
    Binary64.readText?.lowerAscii (whole ++ '.' :: fraction) ≠ word := by
  rintro rfl
  apply pointless
  rw [Binary64.readText?.lowerAscii, List.mem_map]
  exact ⟨'.', by simp, rfl⟩

theorem IsPointed.not_joined {whole fraction : List Char} (pointed : IsPointed whole fraction) :
    '_' ∉ whole ++ '.' :: fraction := by
  have noDigit : isDecimal '_' = false := rfl
  rw [List.mem_append, List.mem_cons]
  rintro (inWhole | point | inFraction)
  · simpa [noDigit] using pointed.wholeDecimal _ inWhole
  · cases point
  · simpa [noDigit] using pointed.fractionDecimal _ inFraction

theorem exists_readText? (pointed : isFloatNotation text = true) :
    ∃ x, Binary64.readText? (strip text) = some x := by
  obtain ⟨whole, fraction, digits, isPointed⟩ := exists_isPointed pointed
  have stripped : stripChars isBlank (strip text).toList = (strip text).toList := by
    rw [strip, String.toList_ofList, stripChars_stripChars]
  have unsigned : Binary64.takeSign (strip text).toList =
      ((Binary64.takeSign (strip text).toList).1, whole ++ '.' :: fraction) := Prod.ext rfl digits
  rw [Binary64.readText?, stripped, unsigned]
  dsimp only
  rw [if_neg (by simp [lowerAscii_ne]), if_neg (lowerAscii_ne (by decide)),
    joinDigits?_eq_self isPointed.not_joined, Option.bind_some]
  exact exists_readUnsigned? _ isPointed

/-! No text is in two notations. -/

namespace Notation

theorem eq_of_suits {one other : Notation} (here : one.suits text = true)
    (there : other.suits text = true) : one = other := by
  have noTruth (null : isNullNotation text = true) : readTruth? text = none := by
    have same : lower (strip text) = "null" := by simpa [isNullNotation] using null
    simp [readTruth?, same]
  have whole := @noWord_of_isIntNotation text
  have fraction := @noWord_of_isFloatNotation text
  have document := @noWord_of_isEnclosed text
  have noFraction := @notFloat_of_isIntNotation text
  have noNumeral := @notNumeral_of_isEnclosed text
  cases one <;> cases other <;> simp_all [Notation.suits]

theorem read_of_not_suits {form : Notation} (unsuited : form.suits text = false) :
    form.read text = .ok none := by
  cases form <;> simp_all [suits, read]

end Notation

theorem readBy_cons (text : String) (form : Notation) (rest : List Notation) :
    readBy text (form :: rest) =
      match form.read text with
      | .ok (some value) => .ok value
      | .ok none => readBy text rest
      | .error fault => .error fault := by
  rw [readBy]
  cases form.read text with
  | error fault => rfl
  | ok found => cases found <;> rfl

theorem readBy_cons_of_not_suits {form : Notation} {rest : List Notation}
    (unsuited : form.suits text = false) : readBy text (form :: rest) = readBy text rest := by
  rw [readBy_cons, Notation.read_of_not_suits unsuited]

/-- Of two notations one gives nothing, so that they can be tried either way round. -/
theorem readBy_perm {order others : List Notation} (perm : order.Perm others) :
    readBy text order = readBy text others := by
  induction perm with
  | nil => rfl
  | cons form _ inductionHypothesis => rw [readBy_cons, readBy_cons, inductionHypothesis]
  | swap one other rest =>
      by_cases same : one = other
      · rw [same]
      · have apart : one.suits text = false ∨ other.suits text = false := by
          by_contra both
          simp only [not_or, Bool.not_eq_false] at both
          exact same (Notation.eq_of_suits both.1 both.2)
        rcases apart with unsuited | unsuited
        · simp only [readBy_cons, Notation.read_of_not_suits unsuited]
        · simp only [readBy_cons, Notation.read_of_not_suits unsuited]
  | trans _ _ first second => exact first.trans second

theorem readBy_null (text : String) : readBy text [.null] = .ok (readPlain text) := by
  rw [readBy_cons, Notation.read, readPlain]
  cases isNullNotation text <;> simp [readBy]

theorem readBy_all (text : String) : readBy text Notation.all = coerce text := by
  rw [coerce, Notation.all]
  cases truth : readTruth? text with
  | some b => simp [readBy_cons, Notation.read, truth]
  | none =>
      rw [readBy_cons_of_not_suits (by simp [Notation.suits, truth])]
      dsimp only
      split
      next whole =>
        rw [readBy_cons, Notation.read, if_pos whole]
        cases readInt text <;> simp [Except.map, Except.mapError]
      next noWhole =>
        rw [readBy_cons_of_not_suits (by simpa [Notation.suits] using noWhole)]
        split
        next fraction =>
          obtain ⟨x, number⟩ := exists_readText? fraction
          rw [readBy_cons, Notation.read, if_pos fraction, number]
          simp
        next noFraction =>
          rw [readBy_cons_of_not_suits (by simpa [Notation.suits] using noFraction)]
          split
          next document =>
            rw [readBy_cons, Notation.read, if_pos document, readBy_null]
            cases readEnclosed text with
            | error fault => simp [bind, Except.bind]
            | ok found => cases found <;> simp [bind, Except.bind, pure, Except.pure]
          next noDocument =>
            rw [readBy_cons_of_not_suits (by simpa [Notation.suits] using noDocument), readBy_null]

/-! Texts without a long run of digits. -/

theorem numeralDigits_suffix (text : String) : numeralDigits text <:+ (strip text).toList :=
  takeSign_suffix _

theorem length_numeralDigits_le (short : ¬HasLongRun text.toList)
    (whole : isIntNotation text = true) : (numeralDigits text).length ≤ numeralLimit := by
  by_contra excess
  apply short
  rw [← hasLongRun_strip]
  exact ⟨_, (numeralDigits_suffix text).isInfix, (isIntNotation_iff.mp whole).2,
    Nat.lt_of_not_le excess⟩

theorem coerce_of_isIntNotation (whole : isIntNotation text = true) :
    coerce text = ((readInt text).map Value.int).mapError .numeral := by
  simp only [coerce, (noWord_of_isIntNotation whole).1, whole, if_true]

theorem isMarred_iff :
    isMarred text = true ↔ isIntNotation text = true ∧ ∃ c ∈ text.toList, isSeparator c = true := by
  simp [isMarred]

theorem readInt_of_isMarred (short : ¬HasLongRun text.toList) (marred : isMarred text = true) :
    readInt text = .error (.malformed text) := by
  obtain ⟨whole, separated⟩ := isMarred_iff.mp marred
  obtain ⟨fault, failed⟩ := (exists_readInt_eq_error_iff whole).mpr (.inl separated)
  rcases fault_of_readInt failed with rfl | long
  · exact failed
  · exact absurd long short

theorem coerce_of_isMarred (short : ¬HasLongRun text.toList) (marred : isMarred text = true) :
    coerce text = .error (.numeral (.malformed text)) := by
  rw [coerce_of_isIntNotation (isMarred_iff.mp marred).1, readInt_of_isMarred short marred]
  rfl

theorem isSeparator_eq_false_of_not_isMarred (whole : isIntNotation text = true)
    (unmarred : isMarred text = false) : ∀ c ∈ text.toList, isSeparator c = false := by
  simpa [isMarred, whole] using unmarred

/-- Where a whole number is neither marred nor long, it is read. -/
theorem exists_readInt_of_not_isMarred (short : ¬HasLongRun text.toList)
    (whole : isIntNotation text = true) (unmarred : isMarred text = false) :
    ∃ n, readInt text = .ok n := by
  obtain ⟨nonempty, decimal⟩ := isIntNotation_iff.mp whole
  rw [exists_readInt_iff_of_decimal nonempty decimal]
  exact ⟨isSeparator_eq_false_of_not_isMarred whole unmarred, length_numeralDigits_le short whole⟩

theorem exists_readEnclosed (short : ¬HasLongRun text.toList) :
    ∃ found, readEnclosed text = .ok found := by
  unfold readEnclosed
  split
  · exact ⟨_, rfl⟩
  · exact ⟨_, rfl⟩
  next fault failed =>
    have long := Document.hasLongRun_of_readNotation failed
    exact absurd (hasLongRun_strip.mp long) short

namespace Notation

theorem exists_read (short : ¬HasLongRun text.toList) (unmarred : isMarred text = false)
    (form : Notation) : ∃ found, form.read text = .ok found := by
  cases form with
  | whole =>
      rw [read]
      split
      next whole =>
        obtain ⟨n, number⟩ := exists_readInt_of_not_isMarred short whole unmarred
        rw [number]
        exact ⟨_, rfl⟩
      next => exact ⟨_, rfl⟩
  | document =>
      rw [read]
      split
      next => exact exists_readEnclosed short
      next => exact ⟨_, rfl⟩
  | truth => exact ⟨_, rfl⟩
  | fraction => exact ⟨_, rfl⟩
  | null => exact ⟨_, rfl⟩

end Notation

/-- Without a reading in any notation, a text stands for itself. -/
theorem readBy_of_unread (order : List Notation)
    (unread : ∀ form, Notation.read text form = .ok none) :
    readBy text order = .ok (.text (strip text)) := by
  induction order with
  | nil => rfl
  | cons form rest inductionHypothesis => rw [readBy_cons, unread form, inductionHypothesis]

theorem readBy_congr (same : strip text = strip other)
    (alike : ∀ form, Notation.read text form = Notation.read other form) (order : List Notation) :
    readBy text order = readBy other order := by
  induction order with
  | nil => rw [readBy, readBy, same]
  | cons form rest inductionHypothesis =>
      rw [readBy_cons, readBy_cons, alike form, inductionHypothesis]

section Padded

variable {before after : String} (leading : ∀ c ∈ before.toList, isBlank c = true)
  (trailing : ∀ c ∈ after.toList, isBlank c = true)

include leading trailing

theorem readInt_append (short : ¬HasLongRun text.toList) (whole : isIntNotation text = true)
    (clear : ∀ c ∈ (before ++ text ++ after).toList, isSeparator c = false) :
    readInt (before ++ text ++ after) = readInt text := by
  have inside : ∀ c ∈ text.toList, isSeparator c = false := by
    intro c member
    exact clear c (by simp [member])
  have unmarred : isMarred text = false := by simpa [isMarred, whole] using inside
  have trimmed : trimNumeral (before ++ text ++ after).toList = trimNumeral text.toList := by
    rw [trimNumeral_eq_stripChars clear, trimNumeral_eq_stripChars inside, String.toList_append,
      String.toList_append, stripChars_append leading trailing]
  obtain ⟨n, number⟩ := exists_readInt_of_not_isMarred short whole unmarred
  rw [number, readInt_of_eq_ok trimmed number]

/-- Blanks around a text make a difference to no notation unless they mar it. -/
theorem Notation.read_append (short : ¬HasLongRun text.toList)
    (unmarred : isMarred (before ++ text ++ after) = false) (form : Notation) :
    form.read (before ++ text ++ after) = form.read text := by
  have same : strip (before ++ text ++ after) = strip text := strip_append leading trailing
  cases form with
  | truth => simp only [read, readTruth?, same]
  | whole =>
      have alike : isIntNotation (before ++ text ++ after) = isIntNotation text := by
        simp only [isIntNotation, same]
      rw [read, read, alike]
      split
      next whole =>
        have clear := isSeparator_eq_false_of_not_isMarred (alike.trans whole) unmarred
        rw [readInt_append leading trailing short whole clear]
      next => rfl
  | fraction => rw [read, read, isFloatNotation, isFloatNotation, same]
  | document => rw [read, read, isEnclosed, isEnclosed, readEnclosed, readEnclosed, same]
  | null => rw [read, read, isNullNotation, isNullNotation, same]

theorem coerce_append (short : ¬HasLongRun text.toList) :
    coerce (before ++ text ++ after) =
      if isMarred (before ++ text ++ after) then
        .error (.numeral (.malformed (before ++ text ++ after)))
      else coerce text := by
  have same : strip (before ++ text ++ after) = strip text := strip_append leading trailing
  split
  next marred =>
    apply coerce_of_isMarred _ marred
    rwa [← hasLongRun_strip, same, hasLongRun_strip]
  next unmarred =>
    rw [Bool.not_eq_true] at unmarred
    rw [← readBy_all, ← readBy_all]
    exact readBy_congr same (Notation.read_append leading trailing short unmarred) _

end Padded

theorem coerce_of_unread (short : ¬HasLongRun text.toList)
    (unread : ∀ form value, Notation.read text form ≠ .ok (some value)) :
    coerce text =
      if isMarred text then .error (.numeral (.malformed text)) else .ok (.text (strip text)) := by
  split
  next marred => exact coerce_of_isMarred short marred
  next unmarred =>
    rw [Bool.not_eq_true] at unmarred
    rw [← readBy_all]
    apply readBy_of_unread
    intro form
    obtain ⟨found, read⟩ := Notation.exists_read short unmarred form
    cases found with
    | none => exact read
    | some value => exact absurd read (unread form value)

theorem Notation.suits_of_read {form : Notation} {value : Value}
    (read : form.read text = .ok (some value)) : form.suits text = true := by
  by_contra unsuited
  rw [Notation.read_of_not_suits (Bool.eq_false_iff.mpr unsuited)] at read
  cases read

/-- The reading of a text is unambiguous unless a long run of digits is in it. -/
theorem isUnambiguous_of_not_hasLongRun (short : ¬HasLongRun text.toList) :
    IsUnambiguous text where
  single _ _ _ _ read otherRead :=
    Notation.eq_of_suits (Notation.suits_of_read read) (Notation.suits_of_read otherRead)
  ordered order perm := by rw [readBy_perm perm, readBy_all]
  plain unread := coerce_of_unread short unread
  padded before after leading trailing := coerce_append leading trailing short

theorem padded_five_read :
    ¬HasLongRun "5".toList ∧ coerce (" " ++ "5" ++ "\t") = .ok (.int 5) ∧
      readBy "5" [.null, .document, .fraction, .whole, .truth] = .ok (.int 5) := by
  have short : ¬HasLongRun "5".toList := not_hasLongRun_of_length_le (by decide)
  have unambiguous : IsUnambiguous "5" := isUnambiguous_of_not_hasLongRun short
  have five : coerce "5" = .ok (.int 5) := rfl
  have space : ∀ c ∈ " ".toList, isBlank c = true := by simp [isBlank]
  have tab : ∀ c ∈ "\t".toList, isBlank c = true := by simp [isBlank]
  refine ⟨short, ?_, ?_⟩
  · rw [unambiguous.padded " " "\t" space tab, if_neg (by decide), five]
  · rw [unambiguous.ordered _ (by decide), five]

/-- An information separator is a blank, and yet it mars a number. -/
theorem separated_five_ne :
    ¬HasLongRun "5".toList ∧ isBlank '\x1c' = true ∧
      coerce ("\x1c" ++ "5" ++ "") ≠ coerce "5" := by
  have separated : coerce ("\x1c" ++ "5" ++ "") = .error (.numeral (.malformed "\x1c5")) := rfl
  have five : coerce "5" = .ok (.int 5) := rfl
  refine ⟨not_hasLongRun_of_length_le (by decide), by decide, ?_⟩
  rw [separated, five]
  simp

end Stencil.Settings
