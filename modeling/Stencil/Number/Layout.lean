import Stencil.Number.Decimal
import Stencil.Text.Quoted

set_option autoImplicit false

/-!
Layout specifications for numbers and texts:

    [[fill]align][sign][z][#][0][width][grouping][.precision][code]

A specification is read once into a `Layout`; what it may ask for depends on the kind of value laid
out, and each refusal is a `LayoutFault`.
-/

namespace Stencil

inductive Alignment where
  | left
  | right
  | center
  | afterSign
  deriving DecidableEq, Repr

/-- How a number that is not negative is marked. -/
inductive SignMark where
  | plain
  | plus
  | space
  deriving DecidableEq, Repr

inductive Grouping where
  | comma
  | underscore
  deriving DecidableEq, Repr

def Grouping.char : Grouping → Char
  | .comma => ','
  | .underscore => '_'

structure Layout where
  fill : Char
  alignment : Alignment
  sign : Option SignMark
  dropNegativeZero : Bool
  alternate : Bool
  width : Nat
  grouping : Option Grouping
  precision : Option Nat
  code : Option Char
  deriving DecidableEq, Repr

inductive LayoutFault where
  | notLaidOut (kind : String)
  | unknownCode (code : Char) (kind : String)
  | malformed (specification kind : String)
  | malformedDecimal
  | decimalLimit
  | groupingWithCode (grouping : Grouping) (code : Char)
  | twoGroupings
  | numberTooLong
  | missingPrecision
  | precisionTooBig
  | signOnText
  | spaceOnText
  | negativeZeroOnText
  | alternateText
  | afterSignOnText
  | precisionOnWhole
  | negativeZeroOnWhole
  | signOnCharacter
  | alternateCharacter
  | characterRange
  | characterTooLarge
  | wholeTooLarge
  | wholeTooLong
  | zeroFillOnComplex
  | afterSignOnComplex
  deriving DecidableEq, Repr

namespace LayoutFault
open Text

/-- Codes outside the printable part of ASCII are shown by number. -/
def codeText (code : Char) : String :=
  if 32 < code.toNat ∧ code.toNat < 128 then String.singleton code
  else "\\x" ++ String.ofList (Nat.toDigits 16 code.toNat)

def message : LayoutFault → String
  | notLaidOut kind => "unsupported format string passed to " ++ kind ++ ".__format__"
  | unknownCode code kind =>
      "Unknown format code '" ++ codeText code ++ "' for object of type '" ++ kind ++ "'"
  | malformed specification kind =>
      "Invalid format specifier '" ++ specification ++ "' for object of type '" ++ kind ++ "'"
  | malformedDecimal => "invalid format string"
  | decimalLimit => "format specification exceeds internal limits of _decimal"
  | groupingWithCode grouping code =>
      "Cannot specify '" ++ String.singleton grouping.char ++ "' with '" ++ codeText code ++ "'."
  | twoGroupings => "Cannot specify both ',' and '_'."
  | numberTooLong => "Too many decimal digits in format string"
  | missingPrecision => "Format specifier missing precision"
  | precisionTooBig => "precision too big"
  | signOnText => "Sign not allowed in string format specifier"
  | spaceOnText => "Space not allowed in string format specifier"
  | negativeZeroOnText => "Negative zero coercion (z) not allowed in string format specifier"
  | alternateText => "Alternate form (#) not allowed in string format specifier"
  | afterSignOnText => "'=' alignment not allowed in string format specifier"
  | precisionOnWhole => "Precision not allowed in integer format specifier"
  | negativeZeroOnWhole => "Negative zero coercion (z) not allowed in integer format specifier"
  | signOnCharacter => "Sign not allowed with integer format specifier 'c'"
  | alternateCharacter => "Alternate form (#) not allowed with integer format specifier 'c'"
  | characterRange => "%c arg not in range(0x110000)"
  | characterTooLarge => "Python int too large to convert to C long"
  | wholeTooLarge => "int too large to convert to float"
  | wholeTooLong =>
      "Exceeds the limit (4300 digits) for integer string conversion; " ++
        "use sys.set_int_max_str_digits() to increase the limit"
  | zeroFillOnComplex => "Zero padding is not allowed in complex format specifier"
  | afterSignOnComplex => "'=' alignment flag is not allowed in complex format specifier"

end LayoutFault

namespace Layout
open Number Text

def alignmentOf? : Char → Option Alignment
  | '<' => some .left
  | '>' => some .right
  | '^' => some .center
  | '=' => some .afterSign
  | _ => none

def signOf? : Char → Option SignMark
  | '+' => some .plus
  | ' ' => some .space
  | '-' => some .plain
  | _ => none

/-- An explicit fill and alignment, and the rest. -/
def takeAlignment : List Char → Option Char × Option Alignment × List Char
  | c :: mark :: rest =>
      match alignmentOf? mark with
      | some alignment => (some c, some alignment, rest)
      | none =>
          match alignmentOf? c with
          | some alignment => (none, some alignment, mark :: rest)
          | none => (none, none, c :: mark :: rest)
  | [c] =>
      match alignmentOf? c with
      | some alignment => (none, some alignment, [])
      | none => (none, none, [c])
  | [] => (none, none, [])

def takeFlag (flag : Char) : List Char → Bool × List Char
  | c :: rest => if c == flag then (true, rest) else (false, c :: rest)
  | [] => (false, [])

/-- Widths and precisions stay below this, and so does what can be tried as a character. -/
def numberLimit : Nat := Nat.pow 2 63

def takeNumber (cs : List Char) : Except LayoutFault (Option Nat × List Char) :=
  let digits := cs.takeWhile isDecimal
  if digits.isEmpty then .ok (none, cs)
  else if numberLimit ≤ numeralValue digits then .error .numberTooLong
  else .ok (some (numeralValue digits), cs.drop digits.length)

def takeGrouping (cs : List Char) : Except LayoutFault (Option Grouping × List Char) :=
  match cs with
  | ',' :: '_' :: _ => .error .twoGroupings
  | ',' :: rest => .ok (some .comma, rest)
  | '_' :: ',' :: _ => .error .twoGroupings
  | '_' :: rest => .ok (some .underscore, rest)
  | rest => .ok (none, rest)

def takePrecision : List Char → Except LayoutFault (Option Nat × List Char)
  | '.' :: rest => do
      match ← takeNumber rest with
      | (none, _) => throw .missingPrecision
      | (some n, rest) => pure (some n, rest)
  | rest => pure (none, rest)

/-- Codes that digits may be grouped with; without a code the kind's own one counts. -/
def allowsGrouping (grouping : Grouping) : Char → Bool
  | 'd' | 'e' | 'f' | 'g' | 'E' | 'G' | '%' | 'F' => true
  | 'b' | 'o' | 'x' | 'X' => grouping == .underscore
  | _ => false

/-- Reads a specification for values of a kind, whose own code and alignment are given. -/
def read (kind : String) (ownCode : Option Char) (ownAlignment : Alignment)
    (specification : String) : Except LayoutFault Layout := do
  let (fill, alignment, rest) := takeAlignment specification.toList
  let (sign, rest) :=
    match rest with
    | c :: more => ((signOf? c), if (signOf? c).isSome then more else rest)
    | [] => (none, [])
  let (dropNegativeZero, rest) := takeFlag 'z' rest
  let (alternate, rest) := takeFlag '#' rest
  let (zeroFill, rest) := if fill.isSome then (false, rest) else takeFlag '0' rest
  let (width, rest) ← takeNumber rest
  let (grouping, rest) ← takeGrouping rest
  let (precision, rest) ← takePrecision rest
  let code ←
    match rest with
    | [] => pure ownCode
    | [c] => pure (some c)
    | _ => throw (.malformed specification kind)
  match grouping, code with
  | some g, some c => if allowsGrouping g c then pure () else throw (.groupingWithCode g c)
  | _, _ => pure ()
  let ownAlignment := if zeroFill && ownAlignment == .right then .afterSign else ownAlignment
  pure {
    fill := if zeroFill then '0' else fill.getD ' '
    alignment := alignment.getD ownAlignment
    sign, dropNegativeZero, alternate, width := width.getD 0, grouping, precision, code }

/-- The parts of a laid-out number: what may be grouped stands in `whole`. -/
structure Parts where
  sign : List Char
  lead : List Char
  whole : List Char
  tail : List Char

def signChars (mark : Option SignMark) (negative : Bool) : List Char :=
  if negative then ['-']
  else
    match mark with
    | some .plus => ['+']
    | some .space => [' ']
    | _ => []

/-- Separators between groups of the given size, counted from the right. -/
def separate (separator : Char) (size : Nat) (digits : List Char) : List Char :=
  let rec go : Nat → List Char → List Char
    | _, [] => []
    | 0, cs => cs
    | fuel + 1, cs =>
        if cs.length ≤ size then cs
        else cs.take size ++ separator :: go fuel (cs.drop size)
  (go digits.length digits.reverse).reverse

/-- The least number of digits, from `have` on, that with their separators fill the width. -/
def fillingDigits (size width : Nat) : Nat → Nat → Nat
  | 0, digits => digits
  | fuel + 1, digits =>
      if width ≤ digits + (digits - 1) / size then digits
      else fillingDigits size width fuel (digits + 1)

/-- Digits with leading zeros up to a width and grouped. -/
def groupDigits (grouping : Option Grouping) (size width : Nat) (digits : List Char) : List Char :=
  if digits.isEmpty then []
  else
    match grouping with
    | none => padZeros width digits
    | some g =>
        separate g.char size (padZeros (fillingDigits size width width digits.length) digits)

/-- Fills up to the width; the lead stays in front when the fill follows the sign. -/
def pad (layout : Layout) (lead body : List Char) : List Char :=
  let missing := layout.width - (lead.length + body.length)
  let fills := List.replicate missing layout.fill
  match layout.alignment with
  | .left => lead ++ body ++ fills
  | .right => fills ++ lead ++ body
  | .center =>
      List.replicate (missing / 2) layout.fill ++ lead ++ body ++
        List.replicate (missing - missing / 2) layout.fill
  | .afterSign => lead ++ fills ++ body

/-- Zeros that fill the width may count as digits, and are then grouped with the others. -/
def zeroFilled (layout : Layout) : Bool := layout.fill == '0' && layout.alignment == .afterSign

def assemble (layout : Layout) (filled : Bool) (size : Nat) (parts : Parts) : String :=
  let lead := parts.sign ++ parts.lead
  let width := if filled then layout.width - (lead.length + parts.tail.length) else 0
  let whole := groupDigits layout.grouping size width parts.whole
  String.ofList (pad layout lead (whole ++ parts.tail))

def layText (layout : Layout) (text : String) : Except LayoutFault String := do
  match layout.code with
  | some 's' => pure ()
  | some c => throw (.unknownCode c "str")
  | none => pure ()
  match layout.sign with
  | some .space => throw .spaceOnText
  | some _ => throw .signOnText
  | none => pure ()
  if layout.dropNegativeZero then throw .negativeZeroOnText
  if layout.alternate then throw .alternateText
  if layout.alignment = .afterSign then throw .afterSignOnText
  let cs := match layout.precision with
    | some n => text.toList.take n
    | none => text.toList
  pure (String.ofList (pad layout [] cs))

/-- Digits with a fraction of exactly the asked length. -/
def fractionTail (alternate : Bool) (fraction : List Char) : List Char :=
  if fraction.isEmpty && !alternate then [] else '.' :: fraction

/-- Whole part and tail of a finite number in fixed notation. -/
def fixedParts (alternate : Bool) (num den places : Nat) : List Char × List Char :=
  let (whole, fraction) := placesChars (roundPlaces num den places) places
  (whole, fractionTail alternate fraction)

def roundedDigits (num den count : Nat) : List Char × Int :=
  if num = 0 then (List.replicate count '0', 1)
  else
    let rounded := roundSignificant num den count
    (decimalDigits rounded.digits, rounded.point)

def scientificParts (alternate : Bool) (mark : Char) (num den places : Nat) :
    List Char × List Char :=
  let (digits, point) := roundedDigits num den (places + 1)
  (digits.take 1, fractionTail alternate (digits.drop 1) ++ Binary64.exponentChars mark (point - 1))

/-- The notation that is fixed for moderate sizes and scientific for others, without trailing
zeros. `wholePoint` asks for a fraction in any case and moves the border by one. -/
def generalParts (alternate wholePoint : Bool) (mark : Char) (num den precision : Nat) :
    List Char × List Char :=
  let count := max precision 1
  let (digits, point) := roundedDigits num den count
  let kept := if alternate then digits else dropTrailingZeros digits
  let kept := if kept.isEmpty then ['0'] else kept
  if point ≤ -4 ∨ (count : Int) - (if wholePoint then 1 else 0) < point then
    (kept.take 1, fractionTail alternate (kept.drop 1) ++ Binary64.exponentChars mark (point - 1))
  else
    let (whole, fraction) := Binary64.pointedChars kept point
    if fraction.isEmpty && wholePoint then (whole, ".0".toList)
    else (whole, fractionTail alternate fraction)

def isUpperCode (code : Char) : Bool := code == 'E' || code == 'F' || code == 'G'

/-- The unsigned parts of a number in the notation of a code, none meaning the shortest text. -/
def binaryParts (layout : Layout) (wholePoint : Bool) (code : Option Char) :
    Binary64 → List Char × List Char
  | .nan => ([], if code.any isUpperCode then "NAN".toList else "nan".toList)
  | .infinite _ => ([], if code.any isUpperCode then "INF".toList else "inf".toList)
  | .finite negative mantissa exponent =>
      let (num, den) := Binary64.magnitude mantissa exponent
      match code with
      | some 'e' => scientificParts layout.alternate 'e' num den (layout.precision.getD 6)
      | some 'E' => scientificParts layout.alternate 'E' num den (layout.precision.getD 6)
      | some 'g' | some 'n' =>
          generalParts layout.alternate false 'e' num den (layout.precision.getD 6)
      | some 'G' => generalParts layout.alternate false 'E' num den (layout.precision.getD 6)
      | some _ => fixedParts layout.alternate num den (layout.precision.getD 6)
      | none =>
          match layout.precision with
          | some precision => generalParts layout.alternate wholePoint 'e' num den precision
          | none =>
              let cs := Binary64.unsignedChars wholePoint (.finite negative mantissa exponent)
              let tail := cs.dropWhile isDecimal
              (cs.takeWhile isDecimal,
                if layout.alternate && !tail.contains '.' then '.' :: tail else tail)

/-- Digits of a number that are asked for stay below this. -/
def precisionLimit : Nat := Nat.pow 2 31

def checkPrecision (layout : Layout) : Except LayoutFault Unit :=
  if precisionLimit ≤ layout.precision.getD 0 then .error .precisionTooBig else .ok ()

/-- A text of zeros loses its minus sign on demand; an exponent does not count. -/
def showsNegative (dropNegativeZero negative : Bool) (shown : List Char) : Bool :=
  let vanishes := (shown.takeWhile fun c => c != 'e' && c != 'E').all fun c => c == '0' || c == '.'
  negative && !(dropNegativeZero && vanishes)

def timesHundred : Binary64 → Binary64
  | .finite negative mantissa exponent =>
      let (num, den) := Binary64.magnitude mantissa exponent
      if num = 0 then .finite negative mantissa exponent
      else Binary64.round negative (num * 100) den
  | x => x

def layBinary (layout : Layout) (kind : String) (x : Binary64) : Except LayoutFault String := do
  match layout.code with
  | none => pure ()
  | some c =>
      if ("eEfFgGn%".toList).contains c then pure () else throw (.unknownCode c kind)
  layout.checkPrecision
  let percent := layout.code == some '%'
  let x := if percent then timesHundred x else x
  let (whole, tail) := binaryParts layout true layout.code x
  let negative := showsNegative layout.dropNegativeZero x.isNegative (whole ++ tail)
  pure (assemble layout layout.zeroFilled 3 {
    sign := signChars layout.sign negative
    lead := []
    whole
    tail := if percent then tail ++ ['%'] else tail })

def upperDigits (cs : List Char) : List Char := cs.map Char.toUpper

def layWhole (layout : Layout) (kind : String) (n : Int) : Except LayoutFault String := do
  let code := layout.code.getD 'd'
  if ("bcdoxXn".toList).contains code then
    if layout.precision.isSome then throw .precisionOnWhole
    if layout.dropNegativeZero then throw .negativeZeroOnWhole
    if code == 'c' then
      if layout.sign.isSome then throw .signOnCharacter
      if layout.alternate then throw .alternateCharacter
      if n < -(numberLimit : Int) ∨ (numberLimit : Int) ≤ n then throw .characterTooLarge
      if n < 0 ∨ 0x110000 ≤ n then throw .characterRange
      pure (String.ofList (pad layout [] [Char.ofNat n.toNat]))
    else
      let (base, mark) :=
        if code == 'b' then (2, "0b") else if code == 'o' then (8, "0o")
        else if code == 'x' then (16, "0x") else if code == 'X' then (16, "0X") else (10, "")
      let digits := Nat.toDigits base n.natAbs
      if base = 10 ∧ numeralLimit < digits.length then throw .wholeTooLong
      pure (assemble layout layout.zeroFilled (if base = 10 then 3 else 4) {
        sign := signChars layout.sign (n < 0)
        lead := if layout.alternate then mark.toList else []
        whole := if code == 'X' then upperDigits digits else digits
        tail := [] })
  else if ("eEfFgG%".toList).contains code then
    match Binary64.round (n < 0) n.natAbs 1 with
    | .infinite _ => throw .wholeTooLarge
    | x => layBinary layout kind x
  else throw (.unknownCode code kind)

def layComplex (layout : Layout) (re im : Binary64) : Except LayoutFault String := do
  match layout.code with
  | none => pure ()
  | some c => if ("eEfFgGn".toList).contains c then pure () else throw (.unknownCode c "complex")
  layout.checkPrecision
  if layout.fill == '0' then throw .zeroFillOnComplex
  if layout.alignment = .afterSign then throw .afterSignOnComplex
  let part (mark : Option SignMark) (x : Binary64) : List Char :=
    let (whole, tail) := binaryParts layout false layout.code x
    signChars mark (showsNegative layout.dropNegativeZero x.isNegative (whole ++ tail)) ++
      groupDigits layout.grouping 3 0 whole ++ tail
  let bare := layout.code.isNone
  let skipsReal := bare && re.isZero && !re.isNegative
  let body :=
    if skipsReal then part layout.sign im ++ ['j']
    else part layout.sign re ++ part (some .plus) im ++ ['j']
  let body := if bare && !skipsReal then '(' :: (body ++ [')']) else body
  pure (String.ofList (pad layout [] body))

end Layout
end Stencil
