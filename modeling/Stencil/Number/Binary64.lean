import Stencil.Text.Digit
import Stencil.Number.Rounding

set_option autoImplicit false

/-!
Binary floating-point numbers of 64 bits, kept as an exact sign, mantissa and exponent. A finite
number is `± mantissa * 2 ^ exponent`; its mantissa has 53 bits unless the exponent is the least
one. Reading a decimal numeral rounds to the nearest number, ties to the even mantissa.
-/

namespace Stencil

inductive Binary64 where
  | nan
  | infinite (negative : Bool)
  | finite (negative : Bool) (mantissa : Nat) (exponent : Int)
  deriving DecidableEq, Repr, Inhabited

namespace Binary64
open Number Text

def leastExponent : Int := -1074

def greatestExponent : Int := 971

def positiveZero : Binary64 := .finite false 0 leastExponent

/-- Nan counts as nonzero. -/
def isZero : Binary64 → Bool
  | .finite _ 0 _ => true
  | _ => false

def isNegative : Binary64 → Bool
  | .nan => false
  | .infinite negative => negative
  | .finite negative _ _ => negative

def pack (negative : Bool) (mantissa : Nat) (exponent : Int) : Binary64 :=
  if mantissa = Nat.pow 2 53 then
    if exponent + 1 > greatestExponent then .infinite negative
    else .finite negative (Nat.pow 2 52) (exponent + 1)
  else if exponent > greatestExponent then .infinite negative
  else .finite negative mantissa exponent

/-- The nearest number to `num / den`. -/
def round (negative : Bool) (num den : Nat) : Binary64 :=
  if num = 0 then .finite negative 0 leastExponent
  else
    let guess : Int := max leastExponent ((num.log2 : Int) - den.log2 - 53)
    let (guessNum, guessDen) := shiftTwo num den (-guess)
    let exponent := if guessNum / guessDen < Nat.pow 2 53 then guess else guess + 1
    let (scaledNum, scaledDen) := shiftTwo num den (-exponent)
    pack negative (nearestEven scaledNum scaledDen) exponent

/-- The nearest number to `digits * 10 ^ scale`. Scales far out of range are settled by size. -/
def ofDecimal (negative : Bool) (digits : Nat) (scale : Int) : Binary64 :=
  if digits = 0 then .finite negative 0 leastExponent
  else if scale > 400 then .infinite negative
  else if scale + digitCount digits < -400 then .finite negative 0 leastExponent
  else
    let (num, den) := shiftTen digits 1 scale
    round negative num den

/-- The size of a finite number as a ratio. -/
def magnitude (mantissa : Nat) (exponent : Int) : Nat × Nat := shiftTwo mantissa 1 exponent

def toRat? : Binary64 → Option Rat
  | .finite negative mantissa exponent =>
      let (num, den) := magnitude mantissa exponent
      some (mkRat (if negative then -(num : Int) else num) den)
  | _ => none

/-- A sign in front of a numeral. -/
def takeSign : List Char → Bool × List Char
  | '-' :: cs => (true, cs)
  | '+' :: cs => (false, cs)
  | cs => (false, cs)

/-- The exponent part of a numeral, absent or `e` with a signed whole number. -/
def readExponent? : List Char → Option Int
  | [] => some 0
  | mark :: cs =>
      let (negative, digits) := takeSign cs
      if (mark == 'e' || mark == 'E') && !digits.isEmpty && digits.all isDecimal then
        some (if negative then -(numeralValue digits : Int) else numeralValue digits)
      else none

/-- An unsigned decimal numeral: digits with an optional point, then an exponent. -/
def readUnsigned? (negative : Bool) (cs : List Char) : Option Binary64 :=
  let whole := cs.takeWhile isDecimal
  let rest := cs.drop whole.length
  let fraction :=
    match rest with
    | '.' :: more => more.takeWhile isDecimal
    | _ => []
  let tail :=
    match rest with
    | '.' :: more => more.drop fraction.length
    | other => other
  if whole.isEmpty && fraction.isEmpty then none
  else
    (readExponent? tail).map fun exponent =>
      ofDecimal negative (numeralValue (whole ++ fraction)) (exponent - fraction.length)

/-- Takes out the underscores, which may only stand between two digits. -/
def joinDigits? : List Char → Option (List Char)
  | [] => some []
  | '_' :: _ => none
  | c :: '_' :: d :: rest =>
      if isDecimal c && isDecimal d then (joinDigits? (d :: rest)).map (c :: ·) else none
  | c :: rest => (joinDigits? rest).map (c :: ·)

def readText? (s : String) : Option Binary64 :=
  let (negative, cs) := takeSign (stripChars isBlank s.toList)
  let word := lowerAscii cs
  if word = "inf".toList || word = "infinity".toList then some (.infinite negative)
  else if word = "nan".toList then some .nan
  else (joinDigits? cs).bind (readUnsigned? negative)
where
  lowerAscii (cs : List Char) : List Char := cs.map Char.toLower

end Binary64
end Stencil
