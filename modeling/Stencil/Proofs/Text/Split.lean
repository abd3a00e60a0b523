import Stencil.Text.Split

set_option autoImplicit false

/-!
A text in which the separator does not occur is one piece. Where two texts are joined by a separator
of one character, the pieces of the second one follow those of the first.
-/

namespace Stencil.Text

theorem piecesFrom_of_not_infix {separator cs : List Char} (absent : ¬separator <:+: cs) :
    piecesFrom separator 0 cs = (cs, []) := by
  induction cs with
  | nil => rfl
  | cons c rest inductionHypothesis =>
      have notHere : separator.isPrefixOf (c :: rest) = false := by
        rw [Bool.eq_false_iff]
        intro here
        exact absent (List.isPrefixOf_iff_prefix.mp here).isInfix
      have notLater : ¬separator <:+: rest := fun later =>
        absent (later.trans (List.suffix_cons c rest).isInfix)
      rw [piecesFrom, if_neg (by simp [notHere]), inductionHypothesis notLater, extendFirst]

theorem pieces_of_not_infix {separator text : String}
    (absent : ¬separator.toList <:+: text.toList) : pieces separator text = (text, []) := by
  simp [pieces, piecesFrom_of_not_infix absent]

theorem pieces_append (c : Char) (before after : String) :
    pieces (String.singleton c) (before ++ String.singleton c ++ after) =
      ((pieces (String.singleton c) before).1,
        (pieces (String.singleton c) before).2 ++ splitAt (String.singleton c) after) := by
  have spelled : (before ++ String.singleton c ++ after).toList =
      before.toList ++ c :: after.toList := by simp
  simp only [pieces, splitAt, spelled, String.toList_singleton, piecesFrom_append, List.map_append,
    List.map_cons]

end Stencil.Text
