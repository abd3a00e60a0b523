import Stencil.Calendar.Moment
import Stencil.Number.Decimal
import Stencil.Sorting

set_option autoImplicit false

/-!
The data that templates are filled with. Maps keep their entries in order of insertion and hold no
two equal keys; sets keep their elements in order of iteration and hold no two equal ones. Streams,
functions, types and objects have an identity, which is a number.
-/

namespace Stencil

/-- What an object offers for iteration and access by position or key. -/
inductive Contents (α : Type) where
  | closed
  | iterable (items : List α)
  | sequence (items : List α)
  | mapping (entries : List (α × α))

/-- What an object shows of itself besides its members and contents. -/
structure Profile where
  id : Nat
  type : String
  shown : String
  truth : Option Bool
  length : Option Nat
  /-- Whether it can be called like a function. -/
  callable : Bool
  /-- Members whose reading fails, with the reason. -/
  faults : List (String × String)
  /-- Whether it is less than another value, or why that cannot be told. The other value is given by
  its canonical text; the object has nothing to say of values that are not listed. -/
  below : List (String × Except Disorder Bool)
  /-- Whether another value is less than the object, if that value has nothing to say itself. -/
  above : List (String × Except Disorder Bool)
  deriving DecidableEq, Repr, Inhabited

inductive Value where
  | null
  | bool (b : Bool)
  | int (n : Int)
  | float (x : Binary64)
  | complex (re im : Binary64)
  | decimal (x : Decimal)
  | text (s : String)
  | bytes (changeable : Bool) (octets : List UInt8)
  | list (items : List Value)
  | tuple (items : List Value)
  | record (type : String) (fields : List (String × Value))
  | set (frozen : Bool) (items : List Value)
  | map (entries : List (Value × Value))
  | range (start stop step : Int)
  | stream (id : Nat) (items : List Value)
  | date (day : Date)
  | moment (time : Moment)
  | zone (zone : Zone)
  | function (id : Nat) (name : String)
  | type (id : Nat) (name : String)
  | object (profile : Profile) (members : List (String × Value)) (contents : Contents Value)

instance : Inhabited Value := ⟨.null⟩

namespace Value

/-- Only a text equals a text. -/
def isText (s : String) : Value → Bool
  | .text t => s == t
  | _ => false

/-- What stands under a text key. -/
def entry? {α : Type} (key : String) (entries : List (Value × α)) : Option α :=
  (entries.find? fun entry => entry.1.isText key).map (·.2)

/-- Puts something under a text key, in the place of what was there if there is anything. -/
def putEntry {α : Type} (key : String) (value : α) : List (Value × α) → List (Value × α)
  | [] => [(.text key, value)]
  | (k, v) :: rest =>
      if k.isText key then (k, value) :: rest else (k, v) :: putEntry key value rest

def field? (name : String) (fields : List (String × Value)) : Option Value :=
  (fields.find? fun field => field.1 == name).map (·.2)

/-- A map with text keys. -/
def ofFields (fields : List (String × Value)) : Value :=
  .map (fields.map fun (name, value) => (.text name, value))

def rangeLength (start stop step : Int) : Nat :=
  if 0 < step then ((stop - start + step - 1) / step).toNat
  else if step < 0 then ((start - stop - step - 1) / (-step)).toNat
  else 0

def rangeItem (start step : Int) (position : Nat) : Value := .int (start + position * step)

def rangeItems (start stop step : Int) : List Value :=
  (List.range (rangeLength start stop step)).map (rangeItem start step)

/-- Whether a value counts as true by itself. Streams do, whatever they still hold. -/
def truth : Value → Bool
  | .null => false
  | .bool b => b
  | .int n => n != 0
  | .float x => !x.isZero
  | .complex re im => !(re.isZero && im.isZero)
  | .decimal x => !x.isZero
  | .text s => !s.isEmpty
  | .bytes _ octets => !octets.isEmpty
  | .list items | .tuple items | .set _ items => !items.isEmpty
  | .record _ fields => !fields.isEmpty
  | .map entries => !entries.isEmpty
  | .range start stop step => rangeLength start stop step != 0
  | .stream .. | .date _ | .moment _ | .zone _ | .function .. | .type .. => true
  | .object profile _ contents =>
      match profile.truth, profile.length, contents with
      | some b, _, _ => b
      | none, some n, _ => n != 0
      | none, none, .sequence items => !items.isEmpty
      | none, none, .mapping entries => !entries.isEmpty
      | none, none, _ => true

end Value
end Stencil
