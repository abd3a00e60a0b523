import Stencil.Text.Ranges

set_option autoImplicit false

/-!
Tables by their characters. A row that is a list of characters is evaluated as it is, while a row that
is a text has to be decoded first.
-/

namespace Stencil.Text

def wordsOf (rows : List (List Char)) : List (List Nat) :=
  rows.flatMap fun row =>
    let (first, others) := piecesFrom [' '] 0 row
    (first :: others).map (hexNumbers none)

theorem tableWords_eq (rows : List String) :
    tableWords rows = wordsOf (rows.map String.toList) := by
  have blank : " ".toList = [' '] := by decide
  simp [tableWords, wordsOf, splitAt, pieces, List.flatMap_map, Function.comp_def, blank]

end Stencil.Text
