import Stencil.Number.Shortest

set_option autoImplicit false

/-!
Decimal numbers that keep their trailing zeros: `± coefficient * 10 ^ exponent`. The text is plain
while the exponent is not positive and at most five zeros follow the point, and otherwise carries
an exponent. What is no number has a sign too, may be a signal, and may carry a number that tells
where it comes from.
-/

namespace Stencil

inductive Decimal where
  | nan (negative signal : Bool) (payload : Nat)
  | infinite (negative : Bool)
  | finite (negative : Bool) (coefficient : Nat) (exponent : Int)
  deriving DecidableEq, Repr, Inhabited

namespace Decimal
open Number Text

def isZero : Decimal → Bool
  | .finite _ 0 _ => true
  | _ => false

def isNegative : Decimal → Bool
  | .nan negative _ _ | .infinite negative | .finite negative _ _ => negative

def toRat? : Decimal → Option Rat
  | .finite negative coefficient exponent =>
      let (num, den) := shiftTen coefficient 1 exponent
      some (mkRat (if negative then -(num : Int) else num) den)
  | _ => none

def readUnsigned? (negative : Bool) (cs : List Char) : Option Decimal :=
  let whole := cs.takeWhile isDecimal
  let rest := cs.drop whole.length
  let fraction :=
    match rest with
    | '.' :: more => more.takeWhile isDecimal
    | _ => []
  let tail :=
    match rest with
    | '.' :: more => more.drop fraction.length
    | other => other
  if whole.isEmpty && fraction.isEmpty then none
  else
    (Binary64.readExponent? tail).map fun exponent =>
      .finite negative (numeralValue (whole ++ fraction)) (exponent - fraction.length)

/-- Reads the word of what is no number, in small letters, and its payload. -/
def readNan? (negative : Bool) (word : List Char) : Option Decimal :=
  let letters := word.takeWhile (!isDecimal ·)
  let payload := word.dropWhile (!isDecimal ·)
  if !payload.all isDecimal then none
  else if letters = "nan".toList then some (.nan negative false (numeralValue payload))
  else if letters = "snan".toList then some (.nan negative true (numeralValue payload))
  else none

/-- Underscores do not count, wherever they stand. -/
def readText? (s : String) : Option Decimal :=
  let (negative, cs) := Binary64.takeSign ((stripChars isBlank s.toList).filter (· != '_'))
  let word := cs.map Char.toLower
  if word = "inf".toList || word = "infinity".toList then some (.infinite negative)
  else (readNan? negative word).or (readUnsigned? negative cs)

/-- The exponent as it follows the mark: always with a sign. -/
def signedExponent (exponent : Int) : List Char :=
  (if exponent < 0 then '-' else '+') :: decimalDigits exponent.natAbs

def unsignedChars : Decimal → List Char
  | .nan _ signal payload =>
      (if signal then "sNaN" else "NaN").toList ++
        (if payload = 0 then [] else decimalDigits payload)
  | .infinite _ => "Infinity".toList
  | .finite _ coefficient exponent =>
      let digits := decimalDigits coefficient
      let point := exponent + digits.length
      let plain : Bool := exponent ≤ 0 && -6 < point
      let place := if plain then point else 1
      let (whole, fraction) := Binary64.pointedChars digits place
      whole ++ (if fraction.isEmpty then [] else '.' :: fraction) ++
        (if place = point then [] else 'E' :: signedExponent (point - place))

def toText (x : Decimal) : String :=
  String.ofList ((if x.isNegative then ['-'] else []) ++ unsignedChars x)

end Decimal
end Stencil
