import Stencil.Number.Rounding

set_option autoImplicit false

/-!
Times of day. A time is written in two digits for each part, and a fraction of a second only if
there is one; when it is read, parts that are missing are zero.
-/

namespace Stencil
open Number

/-- A number with leading zeros up to the width. -/
def paddedNumber (width n : Nat) : List Char := padZeros width (decimalDigits n)

/-- The numbers that digits stand for in groups of the given sizes. A group that is not filled and
those after it are left out. -/
def digitGroups : List Nat → List Char → List Nat
  | [], _ => []
  | size :: sizes, digits =>
      let group := digits.take size
      if group.length < size then []
      else
        group.foldl (fun n c => n * 10 + (c.toNat - 48)) 0 :: digitGroups sizes (digits.drop size)

structure Clock where
  hour : Nat
  minute : Nat
  second : Nat
  microsecond : Nat
  deriving DecidableEq, Repr, Inhabited

namespace Clock

def midnight : Clock := ⟨0, 0, 0, 0⟩

def startsFraction (c : Char) : Bool := c == '.' || c == ','

/-- Reads the digits of a time. Those after the sixth of a fraction do not count. -/
def ofChars (cs : List Char) : Clock :=
  let whole := (cs.takeWhile (!startsFraction ·)).filter Char.isDigit
  let fraction := (cs.dropWhile (!startsFraction ·)).filter Char.isDigit
  let parts := digitGroups [2, 2, 2] whole
  let microseconds := digitGroups [6] (fraction ++ List.replicate 6 '0')
  ⟨parts.getD 0 0, parts.getD 1 0, parts.getD 2 0, microseconds.getD 0 0⟩

def microseconds (time : Clock) : Nat :=
  ((time.hour * 60 + time.minute) * 60 + time.second) * 1000000 + time.microsecond

/-- The time of day that is so many microseconds after midnight. -/
def ofMicroseconds (n : Nat) : Clock :=
  let seconds := n / 1000000
  ⟨seconds / 3600, seconds / 60 % 60, seconds % 60, n % 1000000⟩

def minuteChars (separator : List Char) (time : Clock) : List Char :=
  paddedNumber 2 time.hour ++ separator ++ paddedNumber 2 time.minute

def secondChars (separator : List Char) (time : Clock) : List Char :=
  time.minuteChars separator ++ separator ++ paddedNumber 2 time.second

def fractionChars (time : Clock) : List Char :=
  if time.microsecond = 0 then [] else '.' :: paddedNumber 6 time.microsecond

end Clock
end Stencil
