import Stencil.Number.Binary64

set_option autoImplicit false

/-!
The shortest decimal text of a binary floating-point number: the fewest digits that read back to
the same number, and of those the nearest. Numbers from `10 ^ -4` up to below `10 ^ 16` are written
with a point, and others with an exponent of at least two digits.
-/

namespace Stencil.Binary64
open Number

/-- Whether the decimal `digits * 10 ^ scale` rounds to `mantissa * 2 ^ exponent`. The numbers that
do reach half way to both neighbours, ends included for an even mantissa; below a power of two the
neighbour is only half as far away. -/
def readsBack (mantissa : Nat) (exponent : Int) (digits : Nat) (scale : Int) : Bool :=
  let narrow := mantissa == Nat.pow 2 52 && exponent > leastExponent
  let low := if narrow then 4 * mantissa - 1 else 4 * mantissa - 2
  let high := 4 * mantissa + 2
  let (num, den) := shiftTen digits 1 scale
  let (lowNum, lowDen) := shiftTwo low 1 (exponent - 2)
  let (highNum, highDen) := shiftTwo high 1 (exponent - 2)
  let fromLow := compare (num * lowDen) (lowNum * den)
  let fromHigh := compare (num * highDen) (highNum * den)
  let even := mantissa % 2 == 0
  (fromLow == .gt || (even && fromLow == .eq)) && (fromHigh == .lt || (even && fromHigh == .eq))

/-- The better of the two neighbours with `count` digits that reads back, if one does. -/
def neighbour? (mantissa : Nat) (exponent : Int) (point : Int) (count : Nat) : Option Nat :=
  let scale := point - count
  let (num, den) := magnitude mantissa exponent
  let (scaledNum, scaledDen) := shiftTen num den (-scale)
  let below := scaledNum / scaledDen
  let nearest := nearestEven scaledNum scaledDen
  let other := if nearest = below then below + 1 else below
  if readsBack mantissa exponent nearest scale then some nearest
  else if readsBack mantissa exponent other scale then some other
  else none

/-- The digits of a positive number. Seventeen always suffice. -/
def shortest (mantissa : Nat) (exponent : Int) : Digits :=
  let (num, den) := magnitude mantissa exponent
  let point := decimalPoint num den
  let found := (List.range 17).findSome? fun n =>
    (neighbour? mantissa exponent point (n + 1)).map fun digits => (n + 1, digits)
  match found with
  | some (count, digits) =>
      if digits = Nat.pow 10 count then ⟨1, point + 1⟩ else ⟨digits, point⟩
  | none => roundSignificant num den 17

/-- An exponent mark with a sign and at least two digits. -/
def exponentChars (mark : Char) (exponent : Int) : List Char :=
  mark :: (if exponent < 0 then '-' else '+') :: padZeros 2 (decimalDigits exponent.natAbs)

/-- Digits with the point at the given place: whole part and fraction. -/
def pointedChars (digits : List Char) (point : Int) : List Char × List Char :=
  if point ≤ 0 then (['0'], List.replicate (-point).toNat '0' ++ digits)
  else
    let place := point.toNat
    (digits.take place ++ List.replicate (place - digits.length) '0', digits.drop place)

/-- One digit, the others as a fraction, and the exponent. -/
def scientificChars (mark : Char) (digits : List Char) (point : Int) : List Char :=
  let fraction := digits.drop 1
  digits.take 1 ++ (if fraction.isEmpty then [] else '.' :: fraction) ++
    exponentChars mark (point - 1)

/-- The unsigned text. `wholePoint` tells whether a whole number gets a final `.0`. -/
def unsignedChars (wholePoint : Bool) : Binary64 → List Char
  | .nan => "nan".toList
  | .infinite _ => "inf".toList
  | .finite _ 0 _ => if wholePoint then "0.0".toList else "0".toList
  | .finite _ mantissa exponent =>
      let ⟨number, point⟩ := shortest mantissa exponent
      let digits := dropTrailingZeros (decimalDigits number)
      if point ≤ -4 ∨ 16 < point then scientificChars 'e' digits point
      else
        let (whole, fraction) := pointedChars digits point
        whole ++
          (if fraction.isEmpty then (if wholePoint then ".0".toList else []) else '.' :: fraction)

def toText (x : Binary64) : String :=
  String.ofList ((if x.isNegative then ['-'] else []) ++ unsignedChars true x)

end Stencil.Binary64
