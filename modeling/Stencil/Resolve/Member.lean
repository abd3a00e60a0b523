import Stencil.Text.Identifier
import Stencil.Value.Elements

set_option autoImplicit false

/-!
Members of values by name. Only public names are looked up: identifiers that do not begin with an
underscore. A member that is a function stays hidden; a type does not.
-/

namespace Stencil

/-- Digits of plain ASCII, at least one. They denote positions and nothing else. -/
def isIndexSegment (segment : String) : Bool :=
  !segment.isEmpty && segment.toList.all fun c => '0' ≤ c && c ≤ '9'

def isPublicName (segment : String) : Bool :=
  !isIndexSegment segment && segment.toList.head? != some '_' && Text.isIdentifier segment

namespace Value

def dateMember? (day : Date) : String → Option Value
  | "year" => some (.int day.year)
  | "month" => some (.int day.month)
  | "day" => some (.int day.day)
  | _ => none

def momentMember? (time : Moment) : String → Option Value
  | "hour" => some (.int time.clock.hour)
  | "minute" => some (.int time.clock.minute)
  | "second" => some (.int time.clock.second)
  | "microsecond" => some (.int time.clock.microsecond)
  | "tzinfo" => some ((time.zone.map .zone).getD .null)
  | "fold" => some (.int time.fold)
  | name => dateMember? time.date name

def intMember? (n : Int) : String → Option Value
  | "real" | "numerator" => some (.int n)
  | "imag" => some (.int 0)
  | "denominator" => some (.int 1)
  | _ => none

def floatMember? (x : Binary64) : String → Option Value
  | "real" => some (.float x)
  | "imag" => some (.float .positiveZero)
  | _ => none

def complexMember? (re im : Binary64) : String → Option Value
  | "real" => some (.float re)
  | "imag" => some (.float im)
  | _ => none

def decimalMember? (x : Decimal) : String → Option Value
  | "real" => some (.decimal x)
  | "imag" => some (.decimal (.finite false 0 0))
  | _ => none

def rangeMember? (start stop step : Int) : String → Option Value
  | "start" => some (.int start)
  | "stop" => some (.int stop)
  | "step" => some (.int step)
  | _ => none

/-- A member of any name, functions included. Reading it may fail. -/
def member? (value : Value) (name : String) : Except Fault (Option Value) :=
  match value with
  | .bool b => .ok (intMember? (if b then 1 else 0) name)
  | .int n => .ok (intMember? n name)
  | .float x => .ok (floatMember? x name)
  | .complex re im => .ok (complexMember? re im name)
  | .decimal x => .ok (decimalMember? x name)
  | .range start stop step => .ok (rangeMember? start stop step name)
  | .date day => .ok (dateMember? day name)
  | .moment time => .ok (momentMember? time name)
  | .record _ fields => .ok (field? name fields)
  | .object profile members _ =>
      match profile.faults.find? (·.1 == name) with
      | some (_, reason) => .error (.member reason)
      | none => .ok (field? name members)
  | _ => .ok none

/-- Functions, and objects that can be called like one. -/
def isFunction : Value → Bool
  | .function .. => true
  | .object profile _ _ => profile.callable
  | _ => false

/-- What a public name shows of a value. -/
def shownMember? (value : Value) (name : String) : Except Fault (Option Value) := do
  if isPublicName name then
    return (← value.member? name).filter (!·.isFunction)
  else
    return none

end Value
end Stencil
