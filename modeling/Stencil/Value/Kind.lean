import Stencil.Value.Basic

set_option autoImplicit false

/-!
Kinds of values: the name of a value's own kind, and the kinds a format may be chosen by, to which
a value belongs exactly or as a member of a wider one.
-/

namespace Stencil

namespace Value

def kindName : Value → String
  | .null => "NoneType"
  | .bool _ => "bool"
  | .int _ => "int"
  | .float _ => "float"
  | .complex .. => "complex"
  | .decimal _ => "Decimal"
  | .text _ => "str"
  | .bytes changeable _ => if changeable then "bytearray" else "bytes"
  | .list _ => "list"
  | .tuple _ => "tuple"
  | .record kind _ => kind
  | .set frozen _ => if frozen then "frozenset" else "set"
  | .map _ => "dict"
  | .range .. => "range"
  | .stream .. => "OneShot"
  | .date _ => "date"
  | .moment _ => "datetime"
  | .zone _ => "timezone"
  | .function .. => "Func"
  | .type .. => "type"
  | .object profile _ _ => profile.type

/-- The name that faults give of the kind: dates and decimal numbers belong to a family. -/
def familyKindName : Value → String
  | .date day => "datetime." ++ (Value.date day).kindName
  | .moment time => "datetime." ++ (Value.moment time).kindName
  | .zone z => "datetime." ++ (Value.zone z).kindName
  | .decimal x => "decimal." ++ (Value.decimal x).kindName
  | value => value.kindName

/-- The value as the owner of a member that it lacks; types are called by their own names. -/
def ownerText : Value → String
  | .type _ name => "type object '" ++ name ++ "'"
  | value => "'" ++ value.familyKindName ++ "' object"

end Value

/-- The kinds that a format can be chosen by. -/
inductive Kind where
  | int
  | float
  | text
  | bool
  | list
  | map
  | tuple
  | date
  | moment
  | decimal
  | complex
  | any
  | null
  | sequence
  | mapping
  deriving DecidableEq, Repr

namespace Kind

/-- The value's own kind, if a format can be chosen by it. -/
def ofValue? : Value → Option Kind
  | .null => some .null
  | .bool _ => some .bool
  | .int _ => some .int
  | .float _ => some .float
  | .decimal _ => some .decimal
  | .complex .. => some .complex
  | .text _ => some .text
  | .list _ => some .list
  | .tuple _ => some .tuple
  | .map _ => some .map
  | .date _ => some .date
  | .moment _ => some .moment
  | _ => none

def holds : Kind → Value → Bool
  | .any, _ => true
  | .int, .bool _ => true
  | .date, .moment _ => true
  | .tuple, .record .. => true
  | .sequence, .text _ | .sequence, .bytes .. | .sequence, .list _ | .sequence, .tuple _
  | .sequence, .record .. | .sequence, .range .. | .sequence, .object _ _ (.sequence _) => true
  | .mapping, .map _ | .mapping, .object _ _ (.mapping _) => true
  | kind, value => ofValue? value == some kind

end Kind
end Stencil
