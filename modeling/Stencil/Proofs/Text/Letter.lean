import Stencil.Proofs.Text.Numeral
import Stencil.Proofs.Text.Table
import Stencil.Text.Letter

set_option autoImplicit false

/-!
Characters that stay as they are when a text is put into lower case. Decimal digits do, so a text
that begins with one begins with it in lower case too.
-/

namespace Stencil.Text

variable {c : Char} {rest : List Char} {text : String}

/-- The characters that the runs reach over, be they changed or not. -/
def CaseRun.reach (runs : List CaseRun) : Ranges := runs.map fun run => (run.first, run.last)

/-- The characters that become several. -/
def expanded (expansions : List (Nat × List Char)) : Ranges :=
  expansions.map fun expansion => (expansion.1, expansion.1)

theorem findSome?_image?_of_not_holds {runs : List CaseRun}
    (outside : (CaseRun.reach runs).holds c = false) :
    runs.findSome? (CaseRun.image? · c.toNat) = none := by
  simp only [Ranges.holds, CaseRun.reach, List.any_map, List.any_eq_false, Function.comp_apply,
    Bool.and_eq_true, decide_eq_true_eq] at outside
  rw [List.findSome?_eq_none_iff]
  intro run member
  rw [CaseRun.image?, if_neg]
  rintro ⟨least, greatest, _⟩
  exact outside run member ⟨least, greatest⟩

theorem lookup_of_not_holds {expansions : List (Nat × List Char)}
    (outside : (expanded expansions).holds c = false) : expansions.lookup c.toNat = none := by
  simp only [Ranges.holds, expanded, List.any_map, List.any_eq_false, Function.comp_apply,
    Bool.and_eq_true, decide_eq_true_eq] at outside
  rw [List.lookup_eq_none_iff]
  intro expansion member
  have := outside expansion member
  rw [bne_iff_ne]
  omega

theorem decimalRanges_apart_lowerRuns : decimalRanges.Apart (CaseRun.reach lowerRuns) := by
  simp only [decimalRanges, decimalZeros, lowerRuns, CaseRun.ofRows, tableWords_eq, List.map_cons,
    List.map_nil]
  repeat rw [String.toList_ofList]
  decide +kernel

theorem decimalRanges_apart_lowerExpansions :
    decimalRanges.Apart (expanded lowerExpansions) := by
  simp only [decimalRanges, decimalZeros, lowerExpansions, expansionsOfRows, tableWords_eq,
    List.map_cons, List.map_nil]
  repeat rw [String.toList_ofList]
  decide +kernel

theorem lowerChar_of_isDecimal (decimal : isDecimal c = true) : lowerChar c = [c] := by
  by_cases small : c.toNat < 128
  · have bounds := toNat_of_isDecimal small decimal
    have noCapital : ¬(c.val ≥ 'A'.val ∧ c.val ≤ 'Z'.val) := by
      simp only [ge_iff_le, UInt32.le_iff_toNat_le, Char.toNat_val, Char.reduceVal, UInt32.reduceToNat]
      omega
    have unchanged : c.toLower = c := dif_neg noCapital
    rw [lowerChar, if_pos small, unchanged]
  · rw [isDecimal_eq_holds small] at decimal
    have noRun := decimalRanges_apart_lowerRuns.holds_eq_false decimal
    have noExpansion := decimalRanges_apart_lowerExpansions.holds_eq_false decimal
    simp [lowerChar, small, caseImage, findSome?_image?_of_not_holds noRun,
      lookup_of_not_holds noExpansion]

/-- The capital sigma has a lower case. -/
theorem ne_sigma_of_lowerChar (unchanged : lowerChar c = [c]) : c ≠ 'Σ' := by
  rintro rfl
  revert unchanged
  simp only [lowerChar, caseImage, lowerExpansions, lowerRuns, CaseRun.ofRows, expansionsOfRows,
    tableWords_eq, List.map_cons, List.map_nil]
  repeat rw [String.toList_ofList]
  decide +kernel

/-- A text begins in lower case as it does itself if its first character stays as it is. -/
theorem head?_lower (opens : text.toList = c :: rest) (unchanged : lowerChar c = [c]) :
    (lower text).toList.head? = some c := by
  simp [lower, opens, lowerChars, ne_sigma_of_lowerChar unchanged, unchanged]

end Stencil.Text
