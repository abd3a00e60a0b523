set_option autoImplicit false

/-!
Exact arithmetic on positive ratios of natural numbers: rounding to nearest with ties to even, the
position of the leading decimal digit, and rounding to a number of digits or of places.
-/

namespace Stencil.Number

def nearestEven (num den : Nat) : Nat :=
  let whole := num / den
  let twice := 2 * (num % den)
  if twice > den ∨ (twice = den ∧ whole % 2 = 1) then whole + 1 else whole

/-- The ratio times a power of two. -/
def shiftTwo (num den : Nat) : Int → Nat × Nat
  | .ofNat k => (num * Nat.pow 2 k, den)
  | .negSucc k => (num, den * Nat.pow 2 (k + 1))

/-- The ratio times a power of ten. -/
def shiftTen (num den : Nat) : Int → Nat × Nat
  | .ofNat k => (num * Nat.pow 10 k, den)
  | .negSucc k => (num, den * Nat.pow 10 (k + 1))

def decimalDigits (n : Nat) : List Char := Nat.toDigits 10 n

def digitCount (n : Nat) : Nat := (decimalDigits n).length

/-- The `k` with `10 ^ (k - 1) ≤ num / den < 10 ^ k`, for a positive ratio. -/
def decimalPoint (num den : Nat) : Int :=
  let guess : Int := (digitCount num : Int) - digitCount den
  let (scaledNum, scaledDen) := shiftTen num den (-guess)
  if scaledNum < scaledDen then guess else guess + 1

/-- A decimal fraction `0.d₁d₂… × 10 ^ point`, where `digits` is the number `d₁d₂…`. -/
structure Digits where
  digits : Nat
  point : Int
  deriving DecidableEq, Repr

/-- Rounds a positive ratio to `count` significant digits. -/
def roundSignificant (num den count : Nat) : Digits :=
  let point := decimalPoint num den
  let (scaledNum, scaledDen) := shiftTen num den ((count : Int) - point)
  let rounded := nearestEven scaledNum scaledDen
  if rounded = Nat.pow 10 count then ⟨Nat.pow 10 (count - 1), point + 1⟩ else ⟨rounded, point⟩

/-- Rounds a ratio to `places` digits after the point, counted in units of the last place. -/
def roundPlaces (num den places : Nat) : Nat :=
  nearestEven (num * Nat.pow 10 places) den

/-- Zeros in front, up to the given width. -/
def padZeros (width : Nat) (digits : List Char) : List Char :=
  List.replicate (width - digits.length) '0' ++ digits

/-- The digits of a number of units in the last of `places` places: whole part and fraction. -/
def placesChars (units places : Nat) : List Char × List Char :=
  let digits := padZeros (places + 1) (decimalDigits units)
  (digits.take (digits.length - places), digits.drop (digits.length - places))

/-- Trailing zeros move out of the digits; the point stays where it is. -/
def dropTrailingZeros : List Char → List Char :=
  fun digits => (digits.reverse.dropWhile (· == '0')).reverse

end Stencil.Number
