import Stencil.Text.Digit
import Stencil.Text.Quoted
import Stencil.Value.Basic

set_option autoImplicit false

/-!
The text of a value. Inside another value texts are quoted, and numbers and dates that have no
notation of their own are written as the call that makes them. Sets with several elements have no
order that a text could rely on; their elements are written as they are iterated. A whole number
with too many digits has no text, and no value that it is part of has one.
-/

namespace Stencil.Value
open Text Number

def joined (texts : List String) : String := String.intercalate ", " texts

def numberText (n : Nat) : String := String.ofList (decimalDigits n)

def intText (n : Int) : String := if n < 0 then "-" ++ numberText n.natAbs else numberText n.natAbs

def tupleText : List String → String
  | [one] => "(" ++ one ++ ",)"
  | texts => "(" ++ joined texts ++ ")"

/-- One part of a complex number, whole numbers without a fraction. -/
def partText (x : Binary64) : String :=
  (if x.isNegative then "-" else "") ++ String.ofList (Binary64.unsignedChars false x)

def complexText (re im : Binary64) : String :=
  if re.isZero && !re.isNegative then partText im ++ "j"
  else "(" ++ partText re ++ (if im.isNegative then "" else "+") ++ partText im ++ "j)"

def rangeText (start stop step : Int) : String :=
  "range(" ++ joined ((if step = 1 then [start, stop] else [start, stop, step]).map intText) ++ ")"

def dateText (day : Date) : String :=
  "datetime.date(" ++ joined ([day.year, day.month, day.day].map numberText) ++ ")"

/-- A distance in time: days, seconds and microseconds as far as they are not zero. The days may be
negative, the others are not. -/
def distanceText (microseconds : Int) : String :=
  let parts := [("days", microseconds / 86400000000),
    ("seconds", microseconds / 1000000 % 86400), ("microseconds", microseconds % 1000000)]
  "datetime.timedelta(" ++
    joined ((parts.filter (·.2 != 0)).map fun (name, n) => name ++ "=" ++ intText n) ++ ")"

def zoneText (zone : Zone) : String :=
  if zone = .universal then "datetime.timezone.utc"
  else "datetime.timezone(" ++ distanceText zone.offset ++ ")"

/-- Seconds and microseconds are written from the last nonzero one on. -/
def momentText (time : Moment) : String :=
  let day := time.date
  let clock := time.clock
  let seconds :=
    if clock.microsecond ≠ 0 then [clock.second, clock.microsecond]
    else if clock.second ≠ 0 then [clock.second] else []
  let numbers := [day.year, day.month, day.day, clock.hour, clock.minute] ++ seconds
  let fold := if time.fold = 0 then [] else ["fold=" ++ numberText time.fold]
  let zone := time.zone.toList.map fun zone => "tzinfo=" ++ zoneText zone
  "datetime.datetime(" ++ joined (numbers.map numberText ++ fold ++ zone) ++ ")"

mutual

/-- The text of a value inside another one. -/
def nestedText : Value → String
  | .null => "None"
  | .bool b => if b then "True" else "False"
  | .int n => intText n
  | .float x => x.toText
  | .complex re im => complexText re im
  | .decimal x => "Decimal('" ++ x.toText ++ "')"
  | .text s => quoted s
  | .bytes changeable octets =>
      let bytes := quotedBytes changeable octets
      if changeable then "bytearray(" ++ bytes ++ ")" else bytes
  | .list items => "[" ++ joined (nestedTexts items) ++ "]"
  | .tuple items => tupleText (nestedTexts items)
  | .record kind fields => kind ++ "(" ++ joined (fieldTexts fields) ++ ")"
  | .set frozen items =>
      let name := if frozen then "frozenset" else "set"
      if items.isEmpty then name ++ "()"
      else
        let braced := "\x7b" ++ joined (nestedTexts items) ++ "\x7d"
        if frozen then "frozenset(" ++ braced ++ ")" else braced
  | .map entries => "\x7b" ++ joined (entryTexts entries) ++ "\x7d"
  | .range start stop step => rangeText start stop step
  | .stream .. => "<iter>"
  | .date day => dateText day
  | .moment time => momentText time
  | .zone z => zoneText z
  | .function _ name => "<func " ++ name ++ ">"
  | .type _ name => "<class '" ++ name ++ "'>"
  | .object profile _ _ => profile.shown

def nestedTexts : List Value → List String
  | [] => []
  | value :: rest => nestedText value :: nestedTexts rest

def fieldTexts : List (String × Value) → List String
  | [] => []
  | (name, value) :: rest => (name ++ "=" ++ nestedText value) :: fieldTexts rest

def entryTexts : List (Value × Value) → List String
  | [] => []
  | (key, value) :: rest => (nestedText key ++ ": " ++ nestedText value) :: entryTexts rest

end

/-- Whether a whole number has few enough digits to be written. -/
def isShort (n : Int) : Bool := digitCount n.natAbs ≤ numeralLimit

mutual

/-- Whether there is a text of the value. -/
def hasText : Value → Bool
  | .int n => isShort n
  | .list items | .tuple items | .set _ items => haveTexts items
  | .record _ fields => fieldsHaveTexts fields
  | .map entries => entriesHaveTexts entries
  | .range start stop step => isShort start && isShort stop && isShort step
  | _ => true

def haveTexts : List Value → Bool
  | [] => true
  | value :: rest => hasText value && haveTexts rest

def fieldsHaveTexts : List (String × Value) → Bool
  | [] => true
  | (_, value) :: rest => hasText value && fieldsHaveTexts rest

def entriesHaveTexts : List (Value × Value) → Bool
  | [] => true
  | (key, value) :: rest => hasText key && hasText value && entriesHaveTexts rest

end

/-- The text of a value that stands alone. -/
def toText : Value → String
  | .text s => s
  | .decimal x => x.toText
  | .date day => day.toText
  | .moment time => time.toText
  | .zone z => String.ofList z.name
  | value => nestedText value

end Stencil.Value
