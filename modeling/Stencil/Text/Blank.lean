import Stencil.Text.Ranges

set_option autoImplicit false

/-!
Blank characters: those with white space meaning, and the four information separators. Stripping
a text removes them at both ends.
-/

namespace Stencil.Text

def blankRanges : Ranges := .ofRows
  [ "9-d 1c-20 85 a0 1680 2000-200a 2028-2029 202f 205f 3000" ]

/-- The blanks below 128 are decided without the table. -/
def isBlank (c : Char) : Bool :=
  if c.toNat < 128 then
    (9 ≤ c.toNat && c.toNat ≤ 13) || (28 ≤ c.toNat && c.toNat ≤ 32)
  else blankRanges.holds c

/-- The blanks that a numeral written in plain ASCII may carry at its ends. -/
def isPlainBlank (c : Char) : Bool :=
  (9 ≤ c.toNat && c.toNat ≤ 13) || c.toNat == 32

def stripChars (blank : Char → Bool) (cs : List Char) : List Char :=
  ((cs.dropWhile blank).reverse.dropWhile blank).reverse

def strip (s : String) : String := String.ofList (stripChars isBlank s.toList)

end Stencil.Text
