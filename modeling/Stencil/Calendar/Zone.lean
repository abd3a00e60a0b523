import Stencil.Calendar.Clock

set_option autoImplicit false

/-!
Time zones at a fixed distance from universal time. A distance is written with its sign in hours
and minutes; seconds follow only where they, or a fraction of one, count.
-/

namespace Stencil

structure Zone where
  /-- Microseconds ahead of universal time. -/
  offset : Int
  deriving DecidableEq, Repr, Inhabited

namespace Zone

def universal : Zone := ⟨0⟩

def chars (separator : List Char) (zone : Zone) : List Char :=
  let distance := Clock.ofMicroseconds zone.offset.natAbs
  (if zone.offset < 0 then '-' else '+') ::
    (if distance.second = 0 ∧ distance.microsecond = 0 then distance.minuteChars separator
      else distance.secondChars separator ++ distance.fractionChars)

def name (zone : Zone) : List Char :=
  "UTC".toList ++ (if zone.offset = 0 then [] else zone.chars [':'])

/-- Whether a character after a time opens the zone. -/
def starts (c : Char) : Bool := c == 'Z' || c == '+' || c == '-'

/-- A zone so far ahead or behind; less than a second does not count. -/
def ofDistance (behind : Bool) (distance : Clock) : Zone :=
  if distance.microseconds < 1000000 then universal
  else ⟨if behind then -(distance.microseconds : Int) else distance.microseconds⟩

def ofChars? : List Char → Option Zone
  | 'Z' :: _ => some universal
  | '+' :: cs => some (ofDistance false (.ofChars cs))
  | '-' :: cs => some (ofDistance true (.ofChars cs))
  | _ => none

end Zone
end Stencil
