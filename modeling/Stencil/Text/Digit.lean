import Stencil.Text.Blank

set_option autoImplicit false

/-!
Digits and the whole numbers written with them. Every script's decimal digits count, so a numeral
may mix scripts; characters such as a superscript two are digits without being decimal ones, and
no numeral can hold them.
-/

namespace Stencil.Text

/-- The zeros of the decimal digits beyond ASCII; each is followed by its one to nine. -/
def decimalZeros : List Nat := (tableWords
  [ "30 660 6f0 7c0 966 9e6 a66 ae6 b66 be6 c66 ce6 d66 de6 e50 ed0 f20 1040 1090 17e0 1810 1946",
    "19d0 1a80 1a90 1b50 1bb0 1c40 1c50 a620 a8d0 a900 a9d0 a9f0 aa50 abf0 ff10 104a0 10d30 11066",
    "110f0 11136 111d0 112f0 11450 114d0 11650 116c0 11730 118e0 11950 11c50 11d50 11da0 16a60",
    "16ac0 16b50 1d7ce 1d7d8 1d7e2 1d7ec 1d7f6 1e140 1e2f0 1e950 1fbf0" ]).flatten

/-- Digits that are not decimal digits. -/
def otherDigits : Ranges := .ofRows
  [ "b2-b3 b9 1369-1371 19da 2070 2074-2079 2080-2089 2460-2468 2474-247c 2488-2490 24ea",
    "24f5-24fd 24ff 2776-277e 2780-2788 278a-2792 10a40-10a43 10e60-10e68 11052-1105a 1f100-1f10a" ]

def decimalValue? (c : Char) : Option Nat :=
  if c.toNat < 128 then
    if c.isDigit then some (c.toNat - 48) else none
  else
    (decimalZeros.find? fun origin => origin ≤ c.toNat && c.toNat ≤ origin + 9).map (c.toNat - ·)

def isDecimal (c : Char) : Bool := (decimalValue? c).isSome

def isDigit (c : Char) : Bool :=
  isDecimal c || (if c.toNat < 128 then false else otherDigits.holds c)

/-- The number a row of decimal digits stands for. -/
def numeralValue (cs : List Char) : Nat :=
  cs.foldl (fun n c => n * 10 + (decimalValue? c).getD 0) 0

/-- Longer rows of digits are refused, leading zeros included. -/
def numeralLimit : Nat := 4300

/-- Why a numeral cannot be read, or a number not be written. -/
inductive NumeralFault where
  | tooLong (digits : Nat)
  | malformed (text : String)
  /-- The number has too many digits to be written. -/
  | unwritable
  deriving DecidableEq, Repr

/-- A row of decimal digits within the limit. -/
def readDigits (text : String) (cs : List Char) : Except NumeralFault Nat :=
  let digits := cs.takeWhile isDecimal
  if numeralLimit < digits.length then .error (.tooLong digits.length)
  else if digits.isEmpty || !(cs.drop digits.length).isEmpty then .error (.malformed text)
  else .ok (numeralValue digits)

/-- The ends of a numeral may carry blanks, of which the information separators do not count. -/
def trimNumeral (cs : List Char) : List Char :=
  stripChars (fun c => if c.toNat < 128 then isPlainBlank c else isBlank c) cs

/-- A whole number with an optional sign. -/
def readInt (text : String) : Except NumeralFault Int :=
  match trimNumeral text.toList with
  | '-' :: cs => (readDigits text cs).map fun n => -(n : Int)
  | '+' :: cs => (readDigits text cs).map fun n => (n : Int)
  | cs => (readDigits text cs).map fun n => (n : Int)

end Stencil.Text
