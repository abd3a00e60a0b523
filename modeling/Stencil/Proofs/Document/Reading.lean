import Stencil.Document.Anchored
import Stencil.Proofs.Text.Numeral

set_option autoImplicit false

/-!
What a reader of documents leaves and what it fails for. It takes off the front, so that what it
leaves is an end of what it was given. A numeral that is too long for it is a long run of digits that
stands there.
-/

namespace Stencil.Document
open Text

section Reads

variable {α β : Type}

/-- What may come of reading: an end that is left, or a fault. -/
structure Reads (cs : List Char) (outcome : Except DocumentFault (α × List Char)) : Prop where
  suffix : ∀ value rest, outcome = .ok (value, rest) → rest <:+ cs
  long : ∀ fault, outcome = .error (.longNumeral fault) → HasLongRun cs

variable {cs rest : List Char} {outcome : Except DocumentFault (α × List Char)}

theorem reads_ok (value : α) (suffix : rest <:+ cs) : Reads cs (.ok (value, rest)) where
  suffix _ _ same := by
    cases same
    exact suffix
  long _ failed := by cases failed

theorem reads_malformed (cs : List Char) : Reads (α := α) cs (.error .malformed) where
  suffix _ _ same := by cases same
  long _ failed := by cases failed

theorem Reads.of_suffix (reads : Reads rest outcome) (suffix : rest <:+ cs) : Reads cs outcome where
  suffix value last read := (reads.suffix value last read).trans suffix
  long fault failed := (reads.long fault failed).of_isInfix suffix.isInfix

/-- Where one reader goes on from what another has left, the two are one reader. -/
theorem Reads.bind {next : α × List Char → Except DocumentFault (β × List Char)}
    (reads : Reads cs outcome) (goesOn : ∀ value rest, Reads rest (next (value, rest))) :
    Reads cs (outcome >>= next) := by
  cases outcome with
  | error fault =>
      constructor
      · intro _ _ same
        cases same
      · intro own failed
        cases failed
        exact reads.long own rfl
  | ok result =>
      obtain ⟨value, rest⟩ := result
      exact (goesOn value rest).of_suffix (reads.suffix value rest rfl)

end Reads

variable {cs rest : List Char}

theorem skipGap_suffix (cs : List Char) : skipGap cs <:+ cs := List.dropWhile_suffix _

theorem suffix_of_skipGap {c : Char} (found : skipGap cs = c :: rest) : rest <:+ cs := by
  have ends := skipGap_suffix cs
  rw [found] at ends
  exact (List.suffix_cons c rest).trans ends

/-! Texts. -/

theorem takeUnit_reads (cs : List Char) : Reads cs (takeUnit cs) := by
  unfold takeUnit
  split
  next a b c d rest =>
    split
    · exact reads_ok _ (List.suffix_append [a, b, c, d] rest)
    · exact reads_malformed _
  · exact reads_malformed _

theorem takeNumbered_reads (cs : List Char) : Reads cs (takeNumbered cs) := by
  unfold takeNumbered
  refine (takeUnit_reads cs).bind fun first rest => ?_
  dsimp only
  split
  next more =>
    split
    · split
      next second after read =>
        split
        · have further : after <:+ more := (takeUnit_reads more).suffix _ _ read
          exact reads_ok _ (further.trans (List.suffix_append ['\\', 'u'] more))
        · exact reads_ok _ (List.suffix_refl _)
      · exact reads_ok _ (List.suffix_refl _)
    · exact reads_ok _ (List.suffix_refl _)
  · exact reads_ok _ (List.suffix_refl _)

theorem takeQuoted_reads (fuel : Nat) (cs : List Char) : Reads cs (takeQuoted fuel cs) := by
  induction fuel generalizing cs with
  | zero => exact reads_malformed cs
  | succ fuel inductionHypothesis =>
      unfold takeQuoted
      split
      next rest => exact reads_ok _ (List.suffix_cons _ rest)
      next rest =>
        refine Reads.of_suffix ?_ (List.suffix_append ['\\', 'u'] rest)
        refine (takeNumbered_reads rest).bind fun _ rest => ?_
        exact (inductionHypothesis rest).bind fun _ _ => reads_ok _ (List.suffix_refl _)
      next mark rest _ =>
        split
        · exact reads_malformed _
        · refine Reads.of_suffix ?_ (List.suffix_append ['\\', mark] rest)
          exact (inductionHypothesis rest).bind fun _ _ => reads_ok _ (List.suffix_refl _)
      next c rest _ _ _ =>
        split
        · exact reads_malformed _
        · refine Reads.of_suffix ?_ (List.suffix_cons c rest)
          exact (inductionHypothesis rest).bind fun _ _ => reads_ok _ (List.suffix_refl _)
      · exact reads_malformed _

theorem takeText_reads (cs : List Char) : Reads cs (takeText cs) :=
  (takeQuoted_reads _ cs).bind fun _ _ => reads_ok _ (List.suffix_refl _)

/-! Numbers. -/

theorem takeWhole_append (cs : List Char) : (takeWhole cs).1 ++ (takeWhole cs).2 = cs := by
  unfold takeWhole
  split
  · rfl
  · exact List.takeWhile_append_dropWhile

theorem isDecimal_of_takeWhole {c : Char} (member : c ∈ (takeWhole cs).1) : isDecimal c = true := by
  unfold takeWhole at member
  split at member
  · obtain rfl : c = '0' := by simpa using member
    decide
  · have plain : isPlainDigit c = true := List.mem_takeWhile_imp member
    exact isDecimal_of_ascii plain

theorem takeFraction_suffix (cs : List Char) : (takeFraction cs).2 <:+ cs := by
  unfold takeFraction
  split
  next rest =>
    dsimp only
    split
    · exact List.suffix_refl _
    · exact (List.drop_suffix _ rest).trans (List.suffix_cons '.' rest)
  · exact List.suffix_refl _

theorem takeExponent_suffix (cs : List Char) : (takeExponent cs).2 <:+ cs := by
  unfold takeExponent
  split
  next mark rest =>
    split
    · dsimp only
      split
      · exact (List.drop_suffix _ rest).trans (List.suffix_cons mark rest)
      · exact List.suffix_refl _
    · exact List.suffix_refl _
  · exact List.suffix_refl _

/-- The digits of a whole number that is refused are a long run. -/
theorem takeNumber_reads (negative : Bool) (cs : List Char) :
    Reads cs (takeNumber negative cs) := by
  have parts := takeWhole_append cs
  have left : (takeExponent (takeFraction (takeWhole cs).2).2).2 <:+ cs :=
    ((takeExponent_suffix _).trans (takeFraction_suffix _)).trans ⟨_, parts⟩
  have long (excess : numeralLimit < (takeWhole cs).1.length) : HasLongRun cs :=
    ⟨_, List.IsPrefix.isInfix ⟨_, parts⟩, fun _ => isDecimal_of_takeWhole, excess⟩
  unfold takeNumber
  dsimp only
  split
  · exact reads_malformed _
  · split
    · split
      next excess =>
        refine ⟨fun _ _ same => ?_, fun _ _ => long excess⟩
        cases same
      · exact reads_ok _ left
    · split
      · exact reads_ok _ left
      · exact reads_malformed _

/-! Values. -/

theorem takeWord?_suffix {value : Value} (found : takeWord? cs = some (value, rest)) :
    rest <:+ cs := by
  obtain ⟨word, _, taken⟩ := Option.map_eq_some_iff.mp found
  cases taken
  exact List.drop_suffix _ cs

theorem takeScalar_reads (cs : List Char) : Reads cs (takeScalar cs) := by
  unfold takeScalar
  split
  next result found => exact reads_ok _ (takeWord?_suffix found)
  next =>
    split
    next rest _ =>
      refine Reads.of_suffix ?_ (List.suffix_cons '"' rest)
      exact (takeText_reads rest).bind fun _ _ => reads_ok _ (List.suffix_refl _)
    next rest _ => exact (takeNumber_reads true rest).of_suffix (List.suffix_cons '-' rest)
    next => exact takeNumber_reads false cs

/-- The readers of values, items and entries with some fuel. -/
structure ReadWithin (fuel : Nat) : Prop where
  value : ∀ cs, Reads cs (takeValue fuel cs)
  items : ∀ cs, Reads cs (takeItems fuel cs)
  entries : ∀ entries cs, Reads cs (takeEntries fuel entries cs)

theorem readWithin_zero : ReadWithin 0 where
  value := reads_malformed
  items := reads_malformed
  entries _ := reads_malformed

section Step

variable {fuel : Nat} (within : ReadWithin fuel) (cs : List Char)

include within

theorem ReadWithin.takeValue_succ : Reads cs (takeValue (fuel + 1) cs) := by
  unfold takeValue
  split
  next rest =>
    refine Reads.of_suffix ?_ (List.suffix_cons '[' rest)
    split
    next after closes => exact reads_ok _ (suffix_of_skipGap closes)
    next =>
      refine Reads.of_suffix ?_ (skipGap_suffix rest)
      exact (within.items _).bind fun _ _ => reads_ok _ (List.suffix_refl _)
  next rest =>
    refine Reads.of_suffix ?_ (List.suffix_cons '\x7b' rest)
    split
    next after closes => exact reads_ok _ (suffix_of_skipGap closes)
    next =>
      refine Reads.of_suffix ?_ (skipGap_suffix rest)
      exact (within.entries [] _).bind fun _ _ => reads_ok _ (List.suffix_refl _)
  next => exact takeScalar_reads cs

theorem ReadWithin.takeItems_succ : Reads cs (takeItems (fuel + 1) cs) := by
  unfold takeItems
  refine (within.value cs).bind fun item rest => ?_
  dsimp only
  split
  next after closes => exact reads_ok _ (suffix_of_skipGap closes)
  next more goesOn =>
    refine Reads.of_suffix ?_ ((skipGap_suffix more).trans (suffix_of_skipGap goesOn))
    exact (within.items _).bind fun _ _ => reads_ok _ (List.suffix_refl _)
  next => exact reads_malformed _

theorem ReadWithin.takeEntries_succ (entries : List (Value × Value)) :
    Reads cs (takeEntries (fuel + 1) entries cs) := by
  unfold takeEntries
  split
  next rest =>
    refine Reads.of_suffix ?_ (List.suffix_cons '"' rest)
    refine (takeText_reads rest).bind fun key rest => ?_
    dsimp only
    split
    next more colon =>
      refine Reads.of_suffix ?_ ((skipGap_suffix more).trans (suffix_of_skipGap colon))
      refine (within.value _).bind fun value rest => ?_
      dsimp only
      split
      next after closes => exact reads_ok _ (suffix_of_skipGap closes)
      next more goesOn =>
        exact (within.entries _ _).of_suffix
          ((skipGap_suffix more).trans (suffix_of_skipGap goesOn))
      next => exact reads_malformed _
    next => exact reads_malformed _
  next => exact reads_malformed _

end Step

theorem readWithin (fuel : Nat) : ReadWithin fuel := by
  induction fuel with
  | zero => exact readWithin_zero
  | succ fuel within => exact ⟨within.takeValue_succ, within.takeItems_succ, fun entries cs =>
      within.takeEntries_succ cs entries⟩

/-- A document fails for a long numeral only where there is a long run of digits in it. -/
theorem hasLongRun_of_readNotation {fault : NumeralFault}
    (failed : readNotation cs = .error (.longNumeral fault)) : HasLongRun cs := by
  have reads := (readWithin (cs.length + 1)).value (skipGap cs)
  cases read : takeValue (cs.length + 1) (skipGap cs) with
  | error own =>
      rw [readNotation, read] at failed
      cases failed
      exact (reads.long fault read).of_isInfix (skipGap_suffix cs).isInfix
  | ok result =>
      rw [readNotation, read] at failed
      simp only [bind, Except.bind] at failed
      split at failed <;> cases failed

/-- A text of a single draft describes it. -/
theorem read_of_takeDraft {text : String} {draft : Draft} (known : Known)
    (speaks : isSilent text = false)
    (taken : takeDraft (text.length + 1) .none (skipGap text.toList) = .ok ((draft, known), [])) :
    read text = .ok ⟨known.parts, draft⟩ := by
  rw [read, readAnchored, speaks, if_neg Bool.false_ne_true, taken]
  rfl

end Stencil.Document
