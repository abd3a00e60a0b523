import Stencil.Calendar.Moment

set_option autoImplicit false

/-!
Date patterns. A percent sign and a letter stand for a field of the moment:

    % [flags] [width] [E | O] letter

Flags say how a field is filled up and in which case its letters are, a width how long it is at
least. Everything else stands for itself, and so does a directive that means nothing.
-/

namespace Stencil
open Number

inductive Fill where
  | own
  | none
  | space
  | zeros
  deriving DecidableEq, Repr

/-- The fill that a flag asks for. -/
def Fill.ofFlag? : Char → Option Fill
  | '-' => some .none
  | '_' => some .space
  | '0' => some .zeros
  | _ => Option.none

structure Directive where
  fill : Fill
  upper : Bool
  /-- Asks for the case that a field does not have by itself. -/
  otherCase : Bool
  width : Nat
  modifier : Option Char

namespace Directive

def isFlag (c : Char) : Bool := ("-_0^#".toList).contains c

/-- Of several fills the last one counts. A width is at most the room that there is. -/
def ofParts (room : Nat) (flags width modifier : List Char) : Directive where
  fill := flags.foldl (fun fill c => (Fill.ofFlag? c).getD fill) .own
  upper := flags.contains '^'
  otherCase := flags.contains '#'
  width := min room ((digitGroups [width.length] width).headD 0)
  modifier := modifier.head?

/-- Fills a text up to the width: with zeros on demand, and else with spaces. -/
def padded (d : Directive) (cs : List Char) : List Char :=
  List.replicate (d.width - cs.length) (if d.fill = .zeros then '0' else ' ') ++ cs

/-- A text that the flags may raise to capital letters. -/
def shown (d : Directive) (cs : List Char) : List Char :=
  d.padded (if d.upper then cs.map Char.toUpper else cs)

/-- A name, which has small letters by itself. -/
def named (d : Directive) (cs : List Char) : List Char :=
  d.padded (if d.upper || d.otherCase then cs.map Char.toUpper else cs)

/-- A half of the day, which has capital letters unless small ones are asked for. -/
def halved (d : Directive) (small : Bool) (cs : List Char) : List Char :=
  d.padded (if small || d.otherCase then cs.map Char.toLower else cs)

/-- A number of so many digits at least, filled with the given character unless a flag says
otherwise. -/
def numbered (d : Directive) (own : Char) (least n : Nat) : List Char :=
  let digits := decimalDigits n
  let missing := max least d.width - digits.length
  match d.fill with
  | .none => d.padded digits
  | .space => List.replicate missing ' ' ++ digits
  | .zeros => List.replicate missing '0' ++ digits
  | .own => List.replicate missing own ++ digits

/-- A directive that means nothing as it is written. The letters of month names take the other case
here too. -/
def refused (d : Directive) (letter : Option Char) (written : List Char) : List Char :=
  if letter.any ("bBh".toList).contains then d.named written else d.shown written

/-- Whether a letter allows the modifier of the directive, if there is one. -/
def allows (d : Directive) (c : Char) : Bool :=
  match d.modifier with
  | some 'E' => !("aAbhBDdeFHIkljMmSUVgGWw".toList).contains c
  | some _ => !("aAcxDFXY".toList).contains c
  | none => true

end Directive

namespace Moment

def weekdayNames : List String :=
  ["Monday", "Tuesday", "Wednesday", "Thursday", "Friday", "Saturday", "Sunday"]

def monthNames : List String :=
  ["January", "February", "March", "April", "May", "June", "July", "August", "September",
    "October", "November", "December"]

def weekdayName (m : Moment) : List Char := (weekdayNames.getD m.date.weekday "").toList

def monthName (m : Moment) : List Char := (monthNames.getD (m.date.month - 1) "").toList

def hourOfHalf (hour : Nat) : Nat := if hour % 12 = 0 then 12 else hour % 12

def halfName (m : Moment) : List Char := (if m.clock.hour < 12 then "AM" else "PM").toList

/-- Weeks of the year counted from the first such weekday, where `offset` is the weekday's distance
from it. -/
def weekCount (date : Date) (offset : Nat) : Nat := (date.dayOfYear + 6 - offset) / 7

def usDate (m : Moment) : List Char :=
  paddedNumber 2 m.date.month ++ '/' :: paddedNumber 2 m.date.day ++
    '/' :: paddedNumber 2 (m.date.year % 100)

def plainDate (m : Moment) : List Char :=
  decimalDigits m.date.year ++ '-' :: paddedNumber 2 m.date.month ++
    '-' :: paddedNumber 2 m.date.day

def clockOfHalf (m : Moment) : List Char :=
  { m.clock with hour := hourOfHalf m.clock.hour }.secondChars [':'] ++ ' ' :: m.halfName

def spacedDay (day : Nat) : List Char :=
  if day < 10 then ' ' :: decimalDigits day else decimalDigits day

def fullDate (m : Moment) : List Char :=
  m.weekdayName.take 3 ++ ' ' :: m.monthName.take 3 ++
    ' ' :: spacedDay m.date.day ++ ' ' :: m.clock.secondChars [':'] ++
    ' ' :: decimalDigits m.date.year

def wholeChars (n : Int) : List Char := (if n < 0 then ['-'] else []) ++ decimalDigits n.natAbs

/-- The text of a field, if the letter names one. A zone is unknown here. -/
def field? (m : Moment) (d : Directive) : Char → Option (List Char)
  | 'Y' => some (d.numbered '0' 1 m.date.year)
  | 'C' => some (d.numbered '0' 1 (m.date.year / 100))
  | 'y' => some (d.numbered '0' 2 (m.date.year % 100))
  | 'm' => some (d.numbered '0' 2 m.date.month)
  | 'd' => some (d.numbered '0' 2 m.date.day)
  | 'e' => some (d.numbered ' ' 2 m.date.day)
  | 'j' => some (d.numbered '0' 3 m.date.dayOfYear)
  | 'H' => some (d.numbered '0' 2 m.clock.hour)
  | 'k' => some (d.numbered ' ' 2 m.clock.hour)
  | 'I' => some (d.numbered '0' 2 (hourOfHalf m.clock.hour))
  | 'l' => some (d.numbered ' ' 2 (hourOfHalf m.clock.hour))
  | 'M' => some (d.numbered '0' 2 m.clock.minute)
  | 'S' => some (d.numbered '0' 2 m.clock.second)
  | 'u' => some (d.numbered '0' 1 (m.date.weekday + 1))
  | 'w' => some (d.numbered '0' 1 ((m.date.weekday + 1) % 7))
  | 'U' => some (d.numbered '0' 2 (weekCount m.date ((m.date.weekday + 1) % 7)))
  | 'W' => some (d.numbered '0' 2 (weekCount m.date m.date.weekday))
  | 'V' => some (d.numbered '0' 2 m.date.isoWeek.2)
  | 'G' => some (d.numbered '0' 1 m.date.isoWeek.1)
  | 'g' => some (d.numbered '0' 2 (m.date.isoWeek.1 % 100))
  | 's' => some (d.padded (wholeChars m.epochSeconds))
  | 'a' => some (d.named (m.weekdayName.take 3))
  | 'A' => some (d.named m.weekdayName)
  | 'b' | 'h' => some (d.named (m.monthName.take 3))
  | 'B' => some (d.named m.monthName)
  | 'p' => some (d.halved false m.halfName)
  | 'P' => some (d.halved true m.halfName)
  | 'D' | 'x' => some (d.padded m.usDate)
  | 'F' => some (d.padded m.plainDate)
  | 'T' | 'X' => some (d.padded (m.clock.secondChars [':']))
  | 'R' => some (d.padded (m.clock.minuteChars [':']))
  | 'r' => some (d.padded m.clockOfHalf)
  | 'c' => some (d.shown m.fullDate)
  | 'n' => some (d.padded ['\n'])
  | 't' => some (d.padded ['\t'])
  | '%' => some (d.padded ['%'])
  | 'z' => some []
  | 'Z' => some (if d.fill = .none then [] else d.padded [])
  | _ => none

/-- Puts in the fractions of seconds and the zones, which take neither flags nor a width. -/
def withFractions (m : Moment) : List Char → List Char
  | '%' :: 'f' :: rest => paddedNumber 6 m.clock.microsecond ++ withFractions m rest
  | '%' :: 'z' :: rest => (m.zone.map (Zone.chars [])).getD [] ++ withFractions m rest
  | '%' :: 'Z' :: rest => (m.zone.map Zone.name).getD [] ++ withFractions m rest
  | '%' :: c :: rest => '%' :: c :: withFractions m rest
  | c :: rest => c :: withFractions m rest
  | [] => []

/-- The text of a directive whose percent sign has been read, and what follows it. -/
def directiveChars (m : Moment) (room : Nat) (cs : List Char) : List Char × List Char :=
  let flags := cs.takeWhile Directive.isFlag
  let afterFlags := cs.dropWhile Directive.isFlag
  let width := afterFlags.takeWhile Char.isDigit
  let afterWidth := afterFlags.dropWhile Char.isDigit
  let modifier := (afterWidth.take 1).filter fun c => c == 'E' || c == 'O'
  let rest := afterWidth.drop modifier.length
  let d := Directive.ofParts room flags width modifier
  let field := (rest.head?.filter d.allows).bind (m.field? d)
  let written := '%' :: (flags ++ width ++ modifier ++ rest.take 1)
  (field.getD (d.refused rest.head? written), rest.drop 1)

theorem directiveChars_length_le (m : Moment) (room : Nat) (cs : List Char) :
    (m.directiveChars room cs).2.length ≤ cs.length := by
  have flags := (List.dropWhile_suffix (l := cs) Directive.isFlag).length_le
  have width := (List.dropWhile_suffix (l := cs.dropWhile Directive.isFlag) Char.isDigit).length_le
  simp only [directiveChars, List.length_drop]
  omega

def patternChars (m : Moment) (room : Nat) : List Char → List Char
  | [] => []
  | c :: rest =>
      if c = '%' then
        (m.directiveChars room rest).1 ++ patternChars m room (m.directiveChars room rest).2
      else c :: patternChars m room rest
  termination_by cs => cs.length
  decreasing_by
    · exact Nat.lt_succ_of_le (m.directiveChars_length_le room rest)
    · exact Nat.lt_succ_self _

/-- The text of a pattern of the given length is shorter than this: the least power of two that is
at least 256 times the length, but never below 1024. -/
def roomFor (length : Nat) : Nat := max 1024 (Nat.pow 2 (Nat.log2 (256 * length - 1) + 1))

/-- A pattern ends at its first zero character. A text that needs too much room is left out. -/
def toPattern (m : Moment) (pattern : String) : String :=
  let cs := m.withFractions (pattern.toList.takeWhile (· != '\x00'))
  let text := m.patternChars (roomFor cs.length) cs
  String.ofList (if text.length < roomFor cs.length then text else [])

end Moment
end Stencil
