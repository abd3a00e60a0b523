import Stencil.Number.Layout

set_option autoImplicit false

/-!
Layout of decimal numbers. Their specifications know fewer forms than those of binary numbers, all
refusals read alike, and a number keeps its own trailing zeros unless a precision asks otherwise.
-/

namespace Stencil.Decimal
open Number Text Layout

structure Form where
  fill : Char
  alignment : Alignment
  sign : Option SignMark
  zeroFill : Bool
  dropNegativeZero : Bool
  width : Nat
  grouped : Bool
  precision : Option Nat
  code : Char

def takeZeroFill (given : Bool) (cs : List Char) : Except LayoutFault (Bool × List Char) :=
  match cs with
  | '0' :: rest => if given then .error .malformedDecimal else .ok (true, rest)
  | rest => .ok (false, rest)

def takePlainNumber (cs : List Char) : Except LayoutFault (Option Nat × List Char) :=
  let digits := cs.takeWhile Char.isDigit
  if digits.isEmpty then .ok (none, cs)
  else if numberLimit ≤ numeralValue digits then .error .malformedDecimal
  else .ok (some (numeralValue digits), cs.drop digits.length)

def takeSignMark (cs : List Char) : Option SignMark × List Char :=
  match cs with
  | c :: rest => (signOf? c, if (signOf? c).isSome then rest else cs)
  | [] => (none, [])

/-- A `z` after alignment and sign is taken out, and the rest reads as if it never stood there. -/
def takeNegativeZero (cs : List Char) : Bool × List Char :=
  let (_, _, rest) := takeAlignment cs
  match (takeSignMark rest).2 with
  | 'z' :: more => (true, cs.take (cs.length - (more.length + 1)) ++ more)
  | _ => (false, cs)

/-- A zero character ends a specification, except as its first one. -/
def readForm (specification : String) : Except LayoutFault Form := do
  let cs := specification.toList
  let cs := cs.take 1 ++ (cs.drop 1).takeWhile (· != '\x00')
  let (dropNegativeZero, cs) := takeNegativeZero cs
  let (fill, alignment, rest) := takeAlignment cs
  let (sign, rest) := takeSignMark rest
  let (zeroFill, rest) ← takeZeroFill alignment.isSome rest
  if rest.head? = some '0' then throw LayoutFault.malformedDecimal
  let (width, rest) ← takePlainNumber rest
  let (grouped, rest) := takeFlag ',' rest
  let (precision, rest) ←
    match rest with
    | '.' :: more =>
        match ← takePlainNumber more with
        | (none, _) => throw LayoutFault.malformedDecimal
        | (some n, more) => pure (some n, more)
    | more => pure (none, more)
  let code ←
    match rest with
    | [] => pure 'G'
    | ['n'] => if grouped then throw LayoutFault.malformedDecimal else pure 'g'
    | ['N'] => if grouped then throw LayoutFault.malformedDecimal else pure 'G'
    | [c] => if ("eEfFgG%".toList).contains c then pure c else throw .malformedDecimal
    | _ => throw LayoutFault.malformedDecimal
  pure {
    fill := fill.getD ' ', alignment := alignment.getD .right, sign, zeroFill, dropNegativeZero,
    width := width.getD 0, grouped, precision, code }

/-- Rounds to a number of significant digits, if there are more. -/
def roundDigits (coefficient : Nat) (exponent : Int) (count : Nat) : Nat × Int :=
  let excess := digitCount coefficient - count
  if excess = 0 then (coefficient, exponent)
  else
    let rounded := nearestEven coefficient (Nat.pow 10 excess)
    if digitCount rounded = count then (rounded, exponent + excess)
    else (rounded / 10, exponent + excess + 1)

/-- Rounds, or extends with zeros, so that the exponent is the given one. -/
def rescale (coefficient : Nat) (exponent target : Int) : Nat :=
  let (num, den) := shiftTen coefficient 1 (exponent - target)
  nearestEven num den

/-- Whole part and tail, with the point after the given number of digits. -/
def placedParts (digits : List Char) (place : Int) (tail : List Char) : List Char × List Char :=
  let (whole, fraction) := Binary64.pointedChars digits place
  (whole, fractionTail false fraction ++ tail)

def fixedParts (form : Form) (coefficient : Nat) (exponent : Int) : List Char × List Char :=
  let exponent := if form.code == '%' then exponent + 2 else exponent
  let (coefficient, exponent) :=
    match form.precision with
    | some places => (rescale coefficient exponent (-places), -(places : Int))
    | none => if coefficient = 0 ∧ exponent > 0 then (0, 0) else (coefficient, exponent)
  let digits := decimalDigits coefficient
  placedParts digits (exponent + digits.length) []

/-- One digit before the point; the exponent stands even if it is zero. The digits of a zero lie
behind the point. -/
def scientificParts (form : Form) (coefficient : Nat) (exponent : Int) : List Char × List Char :=
  let mark := form.code
  match form.precision with
  | none =>
      let digits := decimalDigits coefficient
      placedParts digits 1 (mark :: signedExponent (exponent + digits.length - 1))
  | some places =>
      if coefficient = 0 then
        placedParts ['0'] (1 - places) (mark :: signedExponent (exponent + places))
      else
        let (rounded, scale) := roundDigits coefficient exponent (places + 1)
        let digits := decimalDigits rounded
        let zeros := List.replicate (places + 1 - digits.length) '0'
        placedParts (digits ++ zeros) 1 (mark :: signedExponent (scale + digits.length - 1))

def generalParts (form : Form) (coefficient : Nat) (exponent : Int) : List Char × List Char :=
  let (coefficient, exponent) :=
    match form.precision with
    | some count => roundDigits coefficient exponent (max count 1)
    | none => (coefficient, exponent)
  let digits := decimalDigits coefficient
  let point := exponent + digits.length
  if exponent ≤ 0 ∧ -6 < point then placedParts digits point []
  else
    placedParts digits 1
      (if point = 1 then []
        else (if form.code == 'g' then 'e' else 'E') :: signedExponent (point - 1))

def finiteParts (form : Form) (coefficient : Nat) (exponent : Int) : List Char × List Char :=
  if form.code == 'f' || form.code == 'F' || form.code == '%' then
    fixedParts form coefficient exponent
  else if form.code == 'e' || form.code == 'E' then scientificParts form coefficient exponent
  else generalParts form coefficient exponent

/-- Widths and precisions above this are refused. -/
def formLimit : Nat := Nat.pow 10 18 - 1

/-- Whether a zero shall lose its minus sign. With the code `F` only what is zero before rounding
counts as zero. -/
def Form.dropsNegativeZero (form : Form) (coefficient : Nat) : Bool :=
  form.dropNegativeZero && (form.code != 'F' || coefficient == 0)

def lay (specification : String) (x : Decimal) : Except LayoutFault String := do
  let form ← readForm specification
  if formLimit < form.width then throw .decimalLimit
  match x with
  | .finite negative coefficient exponent =>
      if formLimit < form.precision.getD 0 then throw .decimalLimit
      let dropNegativeZero := form.dropsNegativeZero coefficient
      let (whole, tail) := finiteParts form coefficient exponent
      let shown := whole ++ tail
      let tail := if form.code == '%' then tail ++ ['%'] else tail
      let layout : Layout := {
        fill := if form.zeroFill then '0' else form.fill
        alignment := if form.zeroFill then .afterSign else form.alignment
        sign := form.sign, dropNegativeZero, alternate := false,
        width := form.width, grouping := if form.grouped then some .comma else none,
        precision := form.precision, code := some form.code }
      pure (assemble layout form.zeroFill 3 {
        sign := signChars form.sign (showsNegative dropNegativeZero negative shown)
        lead := []
        whole
        tail })
  | special =>
      let layout : Layout := {
        fill := form.fill, alignment := form.alignment, sign := form.sign,
        dropNegativeZero := false, alternate := false, width := form.width, grouping := none,
        precision := none, code := none }
      let percent := if form.code == '%' then ['%'] else []
      pure (String.ofList (pad layout (signChars form.sign special.isNegative)
        (unsignedChars special ++ percent)))

end Stencil.Decimal
