import Mathlib.Data.List.TakeWhile
import Stencil.Number.Binary64
import Stencil.Proofs.Text.Table

set_option autoImplicit false

/-!
Which texts are read as whole numbers. A row of decimal digits within the limit is; a digit that is
no decimal one spoils the row, and so do information separators at the ends of a text, though they
are blanks.
-/

namespace Stencil.Text

variable {c : Char} {cs : List Char} {text : String}

/-! Tables without common characters. -/

/-- No character is in both tables. -/
def Ranges.Apart (ranges others : Ranges) : Prop :=
  ∀ range ∈ ranges, ∀ other ∈ others, range.2 < other.1 ∨ other.2 < range.1

instance (ranges others : Ranges) : Decidable (ranges.Apart others) :=
  inferInstanceAs (Decidable (∀ range ∈ ranges, ∀ other ∈ others, _))

theorem Ranges.Apart.holds_eq_false {ranges others : Ranges} (apart : ranges.Apart others)
    (holds : ranges.holds c = true) : others.holds c = false := by
  obtain ⟨range, member, within⟩ := List.any_eq_true.mp holds
  refine List.any_eq_false.mpr fun other otherMember otherWithin => ?_
  have := apart range member other otherMember
  simp only [Bool.and_eq_true, decide_eq_true_eq] at within otherWithin
  omega

/-- The decimal digits beyond ASCII. -/
def decimalRanges : Ranges := decimalZeros.map fun origin => (origin, origin + 9)

theorem isDecimal_eq_holds (beyond : ¬c.toNat < 128) : isDecimal c = decimalRanges.holds c := by
  rw [Bool.eq_iff_iff]
  simp [isDecimal, decimalValue?, if_neg beyond, decimalRanges, Ranges.holds]

theorem toNat_of_isDecimal (small : c.toNat < 128) (decimal : isDecimal c = true) :
    48 ≤ c.toNat ∧ c.toNat ≤ 57 := by
  have isDigit : c.isDigit = true := by simpa [isDecimal, decimalValue?, small] using decimal
  simpa [Char.isDigit, UInt32.le_iff_toNat_le] using isDigit

theorem isDecimal_of_ascii (digit : ('0' ≤ c && c ≤ '9') = true) : isDecimal c = true := by
  have bounds : 48 ≤ c.toNat ∧ c.toNat ≤ 57 := by
    simpa [Char.le_def, UInt32.le_iff_toNat_le] using digit
  have small : c.toNat < 128 := by omega
  have isDigit : c.isDigit = true := by
    simpa [Char.isDigit, UInt32.le_iff_toNat_le] using bounds
  rw [isDecimal, decimalValue?, if_pos small, if_pos isDigit]
  rfl

theorem decimalRanges_apart_blankRanges : decimalRanges.Apart blankRanges := by
  simp only [decimalRanges, decimalZeros, blankRanges, Ranges.ofRows, tableWords_eq, List.map_cons,
    List.map_nil]
  repeat rw [String.toList_ofList]
  decide +kernel

theorem otherDigits_apart_blankRanges : otherDigits.Apart blankRanges := by
  simp only [otherDigits, blankRanges, Ranges.ofRows, tableWords_eq, List.map_cons, List.map_nil]
  repeat rw [String.toList_ofList]
  decide +kernel

theorem isBlank_eq_false_of_isDigit (digit : isDigit c = true) : isBlank c = false := by
  by_cases small : c.toNat < 128
  · have decimal : isDecimal c = true := by simpa [isDigit, small] using digit
    have := toNat_of_isDecimal small decimal
    simp only [isBlank, if_pos small, Bool.or_eq_false_iff, Bool.and_eq_false_iff,
      decide_eq_false_iff_not]
    omega
  · rw [isBlank, if_neg small]
    rw [isDigit, if_neg small, isDecimal_eq_holds small, Bool.or_eq_true] at digit
    exact digit.elim decimalRanges_apart_blankRanges.holds_eq_false
      otherDigits_apart_blankRanges.holds_eq_false

theorem isDigit_of_isDecimal (decimal : isDecimal c = true) : isDigit c = true := by
  simp [isDigit, decimal]

/-- The information separators are blanks that a numeral may not carry at its ends. -/
def isSeparator (c : Char) : Bool := 28 ≤ c.toNat && c.toNat ≤ 31

theorem isBlank_of_isSeparator (separator : isSeparator c = true) : isBlank c = true := by
  obtain ⟨least, greatest⟩ : 28 ≤ c.toNat ∧ c.toNat ≤ 31 := by simpa [isSeparator] using separator
  have small : c.toNat < 128 := by omega
  simp only [isBlank, if_pos small, Bool.or_eq_true, Bool.and_eq_true, decide_eq_true_eq]
  omega

/-! Stripping takes off nothing but blanks. -/

theorem exists_append_stripChars (blank : Char → Bool) (cs : List Char) :
    ∃ before after, cs = before ++ stripChars blank cs ++ after ∧
      (∀ c ∈ before, blank c = true) ∧ ∀ c ∈ after, blank c = true := by
  refine ⟨cs.takeWhile blank, ((cs.dropWhile blank).reverse.takeWhile blank).reverse, ?_,
    fun c => List.mem_takeWhile_imp, fun c member =>
      List.mem_takeWhile_imp (List.mem_reverse.mp member)⟩
  rw [List.append_assoc, stripChars, ← List.reverse_append, List.takeWhile_append_dropWhile,
    List.reverse_reverse, List.takeWhile_append_dropWhile]

theorem stripChars_isInfix (blank : Char → Bool) (cs : List Char) :
    stripChars blank cs <:+: cs := by
  obtain ⟨before, after, parts, _⟩ := exists_append_stripChars blank cs
  exact ⟨before, after, parts.symm⟩

/-- More blanks around a text are stripped as well. -/
theorem stripChars_append {blank : Char → Bool} {before after : List Char}
    (leading : ∀ c ∈ before, blank c = true) (trailing : ∀ c ∈ after, blank c = true) :
    stripChars blank (before ++ cs ++ after) = stripChars blank cs := by
  have nothing : after.dropWhile blank = [] := List.dropWhile_eq_nil_iff.mpr trailing
  rw [List.append_assoc, stripChars, stripChars, List.dropWhile_append_of_pos leading,
    List.dropWhile_append]
  cases empty : (cs.dropWhile blank).isEmpty with
  | true => simp [nothing, List.isEmpty_iff.mp empty]
  | false =>
      rw [if_neg Bool.false_ne_true, List.reverse_append, List.dropWhile_append_of_pos]
      simpa using trailing

theorem stripChars_stripChars (blank : Char → Bool) (cs : List Char) :
    stripChars blank (stripChars blank cs) = stripChars blank cs := by
  obtain ⟨before, after, parts, leading, trailing⟩ := exists_append_stripChars blank cs
  rw [← stripChars_append leading trailing, ← parts]

theorem strip_append {before after : String} (leading : ∀ c ∈ before.toList, isBlank c = true)
    (trailing : ∀ c ∈ after.toList, isBlank c = true) :
    strip (before ++ text ++ after) = strip text := by
  rw [strip, String.toList_append, String.toList_append, stripChars_append leading trailing, strip]

theorem dropWhile_congr {blank other : Char → Bool} (alike : ∀ c ∈ cs, blank c = other c) :
    cs.dropWhile blank = cs.dropWhile other := by
  induction cs with
  | nil => rfl
  | cons c rest inductionHypothesis =>
      obtain ⟨here, later⟩ := List.forall_mem_cons.mp alike
      rw [List.dropWhile_cons, List.dropWhile_cons, here, inductionHypothesis later]

theorem stripChars_congr {blank other : Char → Bool} (alike : ∀ c ∈ cs, blank c = other c) :
    stripChars blank cs = stripChars other cs := by
  rw [stripChars, stripChars, dropWhile_congr alike,
    dropWhile_congr fun c member =>
      alike c ((List.dropWhile_suffix other).mem (List.mem_reverse.mp member))]

theorem stripChars_eq_self {blank : Char → Bool} (solid : ∀ c ∈ cs, blank c = false) :
    stripChars blank cs = cs := by
  have keeps {ds : List Char} (inside : ds ⊆ cs) : ds.dropWhile blank = ds :=
    List.dropWhile_eq_self_iff.mpr fun filled => by
      simp [solid _ (inside (List.getElem_mem filled))]
  rw [stripChars, keeps (List.Subset.refl cs), keeps fun c => List.mem_reverse.mp,
    List.reverse_reverse]

theorem trimNumeral_eq (cs : List Char) :
    trimNumeral cs = stripChars (fun c => isBlank c && !isSeparator c) cs := by
  refine stripChars_congr fun c _ => ?_
  rw [Bool.eq_iff_iff]
  by_cases small : c.toNat < 128 <;> simp [small, isBlank, isPlainBlank, isSeparator] <;> omega

/-! Rows of digits. -/

/-- Decimal digits, at least one and within the limit. -/
structure IsReadable (cs : List Char) : Prop where
  nonempty : cs ≠ []
  decimal : ∀ c ∈ cs, isDecimal c = true
  within : cs.length ≤ numeralLimit

/-- More decimal digits stand in a row than a numeral may have. -/
def HasLongRun (cs : List Char) : Prop :=
  ∃ row, row <:+: cs ∧ (∀ c ∈ row, isDecimal c = true) ∧ numeralLimit < row.length

theorem HasLongRun.of_isInfix {inner : List Char} (long : HasLongRun inner)
    (inside : inner <:+: cs) : HasLongRun cs := by
  obtain ⟨row, within, decimal, excess⟩ := long
  exact ⟨row, within.trans inside, decimal, excess⟩

theorem not_hasLongRun_of_length_le (short : cs.length ≤ numeralLimit) : ¬HasLongRun cs := by
  rintro ⟨row, within, _, excess⟩
  have := within.length_le
  omega

/-- Where none of its characters is in front, a row lies behind. -/
theorem isInfix_of_append {row before : List Char} (nonempty : row ≠ [])
    (apart : ∀ c ∈ before, c ∉ row) (inside : row <:+: before ++ cs) : row <:+: cs := by
  induction before with
  | nil => exact inside
  | cons first rest inductionHypothesis =>
      obtain ⟨absent, further⟩ := List.forall_mem_cons.mp apart
      rw [List.cons_append, List.infix_cons_iff] at inside
      rcases inside with opens | inside
      · obtain ⟨c, others, rfl⟩ := List.exists_cons_of_ne_nil nonempty
        rw [List.cons_prefix_cons] at opens
        exact absurd (opens.1 ▸ List.mem_cons_self) absent
      · exact inductionHypothesis further inside

/-- No digit is a blank, so that stripping neither takes a long run away nor cuts into it. -/
theorem hasLongRun_strip : HasLongRun (strip text).toList ↔ HasLongRun text.toList := by
  obtain ⟨before, after, parts, leading, trailing⟩ := exists_append_stripChars isBlank text.toList
  rw [strip, String.toList_ofList]
  constructor
  · intro long
    exact long.of_isInfix ⟨before, after, parts.symm⟩
  · rintro ⟨row, inside, decimal, excess⟩
    have nonempty : row ≠ [] := by
      rintro rfl
      simp at excess
    have solid : ∀ c, isBlank c = true → c ∉ row := by
      intro c blank member
      rw [isBlank_eq_false_of_isDigit (isDigit_of_isDecimal (decimal c member))] at blank
      cases blank
    rw [parts, List.append_assoc] at inside
    have early := isInfix_of_append nonempty (fun c member => solid c (leading c member)) inside
    rw [← List.reverse_infix, List.reverse_append] at early
    have within := isInfix_of_append (by simpa using nonempty)
      (fun c member => by simpa using solid c (trailing c (List.mem_reverse.mp member))) early
    exact ⟨row, List.reverse_infix.mp within, decimal, excess⟩

theorem exists_readDigits_iff (text : String) (cs : List Char) :
    (∃ n, readDigits text cs = .ok n) ↔ IsReadable cs := by
  constructor
  · rintro ⟨n, read⟩
    simp only [readDigits] at read
    split at read
    · cases read
    next within =>
      split at read
      · cases read
      next whole =>
        obtain ⟨nonempty, rest⟩ : cs.takeWhile isDecimal ≠ [] ∧
            cs.drop (cs.takeWhile isDecimal).length = [] := by simpa using whole
        have all : cs.takeWhile isDecimal = cs :=
          (List.takeWhile_prefix isDecimal).eq_of_length_le (List.drop_eq_nil_iff.mp rest)
        rw [all] at nonempty within
        exact ⟨nonempty, List.takeWhile_eq_self_iff.mp all, Nat.not_lt.mp within⟩
  · rintro ⟨nonempty, decimal, within⟩
    have whole : cs.takeWhile isDecimal = cs := List.takeWhile_eq_self_iff.mpr decimal
    refine ⟨numeralValue cs, ?_⟩
    simp [readDigits, whole, nonempty, Nat.not_lt.mpr within]

/-- A row that is refused is too long, or else it is its text that is told. -/
theorem fault_of_readDigits {fault : NumeralFault} (failed : readDigits text cs = .error fault) :
    fault = .malformed text ∨ HasLongRun cs := by
  simp only [readDigits] at failed
  split at failed
  next excess =>
    refine .inr ⟨cs.takeWhile isDecimal, (List.takeWhile_prefix _).isInfix, ?_, excess⟩
    exact fun c => List.mem_takeWhile_imp
  next =>
    split at failed
    · cases failed
      exact .inl rfl
    · cases failed

/-- The text is only told in a fault. -/
theorem readDigits_of_eq_ok {n : Nat} (other : String) (read : readDigits text cs = .ok n) :
    readDigits other cs = .ok n := by
  simp only [readDigits] at read ⊢
  split at read
  · cases read
  next within =>
    rw [if_neg within]
    split at read
    · cases read
    next whole => rw [if_neg whole, ← read]

/-- The sign of a whole number stands before its digits. -/
theorem readInt_eq (text : String) :
    readInt text = (readDigits text (Binary64.takeSign (trimNumeral text.toList)).2).map
      fun n => if (Binary64.takeSign (trimNumeral text.toList)).1 then -(n : Int) else n := by
  unfold readInt
  generalize trimNumeral text.toList = trimmed
  split
  · simp [Binary64.takeSign]
  · simp [Binary64.takeSign]
  -- Without a sign the numeral begins with its digits.
  next noMinus noPlus =>
    have unsigned : Binary64.takeSign trimmed = (false, trimmed) := by
      unfold Binary64.takeSign
      split <;> simp_all
    simp [unsigned]

theorem exists_readInt_iff :
    (∃ n, readInt text = .ok n) ↔
      IsReadable (Binary64.takeSign (trimNumeral text.toList)).2 := by
  rw [readInt_eq, ← exists_readDigits_iff text]
  cases readDigits text (Binary64.takeSign (trimNumeral text.toList)).2 <;> simp [Except.map]

theorem takeSign_suffix (cs : List Char) : (Binary64.takeSign cs).2 <:+ cs := by
  unfold Binary64.takeSign
  split
  · exact List.suffix_cons _ _
  · exact List.suffix_cons _ _
  · exact List.suffix_refl _

theorem fault_of_readInt {fault : NumeralFault} (failed : readInt text = .error fault) :
    fault = .malformed text ∨ HasLongRun text.toList := by
  rw [readInt_eq] at failed
  cases read : readDigits text (Binary64.takeSign (trimNumeral text.toList)).2 with
  | ok n =>
      rw [read] at failed
      cases failed
  | error own =>
      rw [read] at failed
      cases failed
      refine (fault_of_readDigits read).imp_right fun long => ?_
      exact (long.of_isInfix (takeSign_suffix _).isInfix).of_isInfix (stripChars_isInfix _ _)

/-- What is trimmed off makes no difference to a number. -/
theorem readInt_of_eq_ok {other : String} {n : Int}
    (same : trimNumeral other.toList = trimNumeral text.toList) (read : readInt text = .ok n) :
    readInt other = .ok n := by
  rw [readInt_eq] at read ⊢
  rw [same]
  cases digits : readDigits text (Binary64.takeSign (trimNumeral text.toList)).2 with
  | ok value =>
      rw [readDigits_of_eq_ok other digits]
      rwa [digits] at read
  | error fault =>
      rw [digits] at read
      cases read

theorem takeSign_eq_self (digits : ∀ c ∈ cs, isDigit c = true) :
    (Binary64.takeSign cs).2 = cs := by
  have minus : isDigit '-' = false := rfl
  have plus : isDigit '+' = false := rfl
  unfold Binary64.takeSign
  split <;> simp_all

/-- A row of digits is read just as it stands. -/
theorem exists_readInt_iff_of_digits (digits : ∀ c ∈ text.toList, isDigit c = true) :
    (∃ n, readInt text = .ok n) ↔ IsReadable text.toList := by
  have untrimmed : trimNumeral text.toList = text.toList := by
    rw [trimNumeral_eq]
    exact stripChars_eq_self fun c member => by
      rw [isBlank_eq_false_of_isDigit (digits c member), Bool.false_and]
  rw [exists_readInt_iff, untrimmed, takeSign_eq_self digits]

/-! A numeral with blanks around it. -/

theorem isBlank_eq_false_of_signed (decimal : ∀ c ∈ (Binary64.takeSign cs).2, isDecimal c = true)
    (member : c ∈ cs) : isBlank c = false := by
  have solid : ∀ {d}, isDecimal d = true → isBlank d = false := fun isDecimal =>
    isBlank_eq_false_of_isDigit (isDigit_of_isDecimal isDecimal)
  unfold Binary64.takeSign at decimal
  split at decimal
  · rcases List.mem_cons.mp member with rfl | inside
    · rfl
    · exact solid (decimal c inside)
  · rcases List.mem_cons.mp member with rfl | inside
    · rfl
    · exact solid (decimal c inside)
  · exact solid (decimal c member)

theorem trimNumeral_eq_stripChars (clear : ∀ c ∈ cs, isSeparator c = false) :
    trimNumeral cs = stripChars isBlank cs := by
  rw [trimNumeral_eq]
  exact stripChars_congr fun c member => by rw [clear c member, Bool.not_false, Bool.and_true]

/-- Where a numeral is read no separator is in the text, since all that is trimmed off is no
separator and what is left is no blank at all. -/
theorem isSeparator_eq_false_of_trimNumeral
    (decimal : ∀ c ∈ (Binary64.takeSign (trimNumeral cs)).2, isDecimal c = true) :
    ∀ c ∈ cs, isSeparator c = false := by
  obtain ⟨before, after, parts, leading, trailing⟩ :=
    exists_append_stripChars (fun c => isBlank c && !isSeparator c) cs
  rw [← trimNumeral_eq] at parts
  intro c member
  rw [parts, List.mem_append, List.mem_append] at member
  rcases member with (outside | inside) | outside
  · simpa using (Bool.and_eq_true_iff.mp (leading c outside)).2
  · have solid := isBlank_eq_false_of_signed decimal inside
    refine Bool.eq_false_iff.mpr fun separator => ?_
    rw [isBlank_of_isSeparator separator] at solid
    cases solid
  · simpa using (Bool.and_eq_true_iff.mp (trailing c outside)).2

/-- A text whose stripped form is a row of decimal digits with a sign or without is read if it has
no separator and its row is within the limit. -/
theorem exists_readInt_iff_of_decimal
    (nonempty : (Binary64.takeSign (strip text).toList).2 ≠ [])
    (decimal : ∀ c ∈ (Binary64.takeSign (strip text).toList).2, isDecimal c = true) :
    (∃ n, readInt text = .ok n) ↔
      (∀ c ∈ text.toList, isSeparator c = false) ∧
        (Binary64.takeSign (strip text).toList).2.length ≤ numeralLimit := by
  rw [exists_readInt_iff]
  rw [strip, String.toList_ofList] at nonempty decimal ⊢
  constructor
  · intro readable
    have clear := isSeparator_eq_false_of_trimNumeral readable.decimal
    rw [trimNumeral_eq_stripChars clear] at readable
    exact ⟨clear, readable.within⟩
  · rintro ⟨clear, within⟩
    rw [trimNumeral_eq_stripChars clear]
    exact ⟨nonempty, decimal, within⟩

end Stencil.Text
