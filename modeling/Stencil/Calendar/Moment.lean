import Stencil.Calendar.Zone

set_option autoImplicit false

/-!
Calendar dates and moments. A date is written year, month, day; a moment adds the time of day, and
the distance from universal time if its zone is known. Moments with a zone are equal when they are
the same instant; those without stand for their fields.
-/

namespace Stencil

structure Date where
  year : Nat
  month : Nat
  day : Nat
  deriving DecidableEq, Repr, Inhabited

structure Moment where
  date : Date
  clock : Clock
  /-- Tells the second of two equal clock times apart. -/
  fold : Nat
  zone : Option Zone
  deriving DecidableEq, Repr, Inhabited

namespace Date

def atMidnight (date : Date) : Moment := ⟨date, .midnight, 0, none⟩

def chars (date : Date) : List Char :=
  paddedNumber 4 date.year ++ '-' :: paddedNumber 2 date.month ++ '-' :: paddedNumber 2 date.day

def toText (date : Date) : String := String.ofList date.chars

def isLeapYear (year : Nat) : Bool := year % 4 == 0 && (year % 100 != 0 || year % 400 == 0)

def monthLengths (year : Nat) : List Nat :=
  [31, if isLeapYear year then 29 else 28, 31, 30, 31, 30, 31, 31, 30, 31, 30, 31]

/-- The day's number within its year, from one. -/
def dayOfYear (date : Date) : Nat :=
  ((monthLengths date.year).take (date.month - 1)).foldr Nat.add 0 + date.day

/-- Days of all years before this one, counted from year one. -/
def daysBefore (year : Nat) : Nat :=
  let past := year - 1
  past * 365 + past / 4 - past / 100 + past / 400

/-- Zero is Monday. -/
def weekday (date : Date) : Nat := (daysBefore date.year + date.dayOfYear + 6) % 7

def yearLength (year : Nat) : Nat := if isLeapYear year then 366 else 365

/-- Weeks that begin on Monday and belong to the year of their Thursday: year and week. -/
def isoWeek (date : Date) : Nat × Nat :=
  let thursday : Int := (date.dayOfYear : Int) + 3 - date.weekday
  if thursday < 1 then
    (date.year - 1, ((thursday + yearLength (date.year - 1) - 1) / 7 + 1).toNat)
  else if thursday > yearLength date.year then
    (date.year + 1, ((thursday - yearLength date.year - 1) / 7 + 1).toNat)
  else (date.year, ((thursday - 1) / 7 + 1).toNat)

/-- Reads the digits of a year, a month and a day. -/
def ofChars? (cs : List Char) : Option Date :=
  match digitGroups [4, 2, 2] (cs.filter Char.isDigit) with
  | [year, month, day] => some ⟨year, month, day⟩
  | _ => none

def ofText? (s : String) : Option Date := ofChars? s.toList

end Date

namespace Moment

def chars (moment : Moment) : List Char :=
  moment.date.chars ++ ' ' :: moment.clock.secondChars [':'] ++ moment.clock.fractionChars ++
    ((moment.zone.map (Zone.chars [':'])).getD [])

def toText (moment : Moment) : String := String.ofList moment.chars

/-- Reads a date, one separator, a time and a zone; the parts of the date and of the time may stand
without marks between them. -/
def ofText? (s : String) : Option Moment :=
  let cs := s.toList
  let (day, rest) := cs.splitAt (if cs[4]? = some '-' then 10 else 8)
  let rest := rest.drop 1
  let clock := Clock.ofChars (rest.takeWhile (!Zone.starts ·))
  (Date.ofChars? day).map (⟨·, clock, 0, Zone.ofChars? (rest.dropWhile (!Zone.starts ·))⟩)

/-- Microseconds since the beginning of 1970 on the moment's own clock, every day with the same
number of them. -/
def localMicroseconds (moment : Moment) : Int :=
  let days : Int := (Date.daysBefore moment.date.year + moment.date.dayOfYear : Nat) -
    (Date.daysBefore 1970 + 1 : Nat)
  days * 86400000000 + moment.clock.microseconds

/-- Seconds since the beginning of 1970 on the moment's own clock. -/
def epochSeconds (moment : Moment) : Int := moment.localMicroseconds / 1000000

/-- Microseconds since the beginning of 1970 in universal time, if the zone is known. -/
def instant (moment : Moment) : Int :=
  moment.localMicroseconds - (moment.zone.map (·.offset)).getD 0

end Moment
end Stencil
