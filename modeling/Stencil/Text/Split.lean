set_option autoImplicit false

/-!
Splitting at a separator and joining. The separator is looked for from left to right and its
occurrences do not overlap; a text without it is one piece, so there is always a first piece.
-/

namespace Stencil.Text

/-- Puts a character in front of the first piece. -/
def extendFirst (c : Char) : List Char × List (List Char) → List Char × List (List Char)
  | (first, rest) => (c :: first, rest)

/-- The first piece and the others. The number counts the characters of a separator already seen
that are still to be passed. -/
def piecesFrom (separator : List Char) : Nat → List Char → List Char × List (List Char)
  | _, [] => ([], [])
  | passing + 1, _ :: cs => piecesFrom separator passing cs
  | 0, c :: cs =>
      if separator.isPrefixOf (c :: cs) then
        let (first, rest) := piecesFrom separator (separator.length - 1) cs
        ([], first :: rest)
      else extendFirst c (piecesFrom separator 0 cs)

def pieces (separator : String) (text : String) : String × List String :=
  let (first, rest) := piecesFrom separator.toList 0 text.toList
  (String.ofList first, rest.map String.ofList)

def splitAt (separator : String) (text : String) : List String :=
  let (first, rest) := pieces separator text
  first :: rest

/-- A one-character separator ends a piece wherever it stands. -/
theorem piecesFrom_append (c : Char) (before after : List Char) :
    piecesFrom [c] 0 (before ++ c :: after) =
      ((piecesFrom [c] 0 before).1,
        (piecesFrom [c] 0 before).2 ++
          (piecesFrom [c] 0 after).1 :: (piecesFrom [c] 0 after).2) := by
  induction before with
  | nil => simp [piecesFrom]
  | cons head tail ih =>
      simp only [List.cons_append, piecesFrom, List.length_singleton, Nat.sub_self, ih]
      split <;> simp_all [extendFirst]

end Stencil.Text
