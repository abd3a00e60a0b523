import Stencil.Value.Kind
import Stencil.Value.Text

set_option autoImplicit false

/-!
Equality of values. Each value that equals itself has a canonical text, and two values are equal
exactly when they share it: numbers of all kinds by their size, records as tuples, byte strings
and sets whether or not they can change, maps and sets in any order, ranges by their items. Streams,
functions, types and objects are told apart by identity, except that a mapping equals a map with
the same entries. Moments are equal when they are the same instant, if both have a zone or both
have none. What holds a number that is not one has no canonical text and equals nothing.
-/

namespace Stencil.Value
open Text Number

/-- A part of a canonical text, led by its length so that parts cannot run together. -/
def sized (part : String) : String := numberText part.length ++ ":" ++ part

def tagged (tag : String) (parts : List String) : String := tag ++ String.join (parts.map sized)

def ratText (q : Rat) : String := intText q.num ++ "/" ++ numberText q.den

def infiniteText (negative : Bool) : String := if negative then "-inf" else "inf"

def binaryKey? : Binary64 → Option String
  | .nan => none
  | .infinite negative => some (infiniteText negative)
  | x => x.toRat?.map ratText

def decimalKey? : Decimal → Option String
  | .nan .. => none
  | .infinite negative => some (infiniteText negative)
  | x => x.toRat?.map ratText

def complexKey? (re im : Binary64) : Option String := do
  let real ← binaryKey? re
  let imaginary ← binaryKey? im
  pure (if im.isZero then tagged "number" [real] else tagged "complex" [real, imaginary])

/-- Ranges are equal when their items are. -/
def rangeKey (start stop step : Int) : String :=
  let length := rangeLength start stop step
  tagged "range" (numberText length ::
    (if length = 0 then [] else if length = 1 then [intText start]
      else [intText start, intText step]))

def identityKey (id : Nat) : String := tagged "identity" [numberText id]

def sortTexts (texts : List String) : List String :=
  texts.mergeSort fun a b => decide (a ≤ b)

mutual

def canonical? : Value → Option String
  | .null => some "null"
  | .bool b => some (tagged "number" [if b then "1/1" else "0/1"])
  | .int n => some (tagged "number" [intText n ++ "/1"])
  | .float x => (binaryKey? x).map fun key => tagged "number" [key]
  | .complex re im => complexKey? re im
  | .decimal x => (decimalKey? x).map fun key => tagged "number" [key]
  | .text s => some (tagged "text" [s])
  | .bytes _ octets => some (tagged "bytes" (octets.map fun octet => numberText octet.toNat))
  | .list items => (canonicals? items).map (tagged "list")
  | .tuple items => (canonicals? items).map (tagged "tuple")
  | .record _ fields => (fieldCanonicals? fields).map (tagged "tuple")
  | .set _ items => (canonicals? items).map fun keys => tagged "set" (sortTexts keys)
  | .map entries => (entryCanonicals? entries).map fun keys => tagged "map" (sortTexts keys)
  | .range start stop step => some (rangeKey start stop step)
  | .date day => some (tagged "date" ([day.year, day.month, day.day].map numberText))
  | .moment time =>
      some (tagged (if time.zone.isSome then "instant" else "moment") [intText time.instant])
  | .zone z => some (tagged "zone" [intText z.offset])
  | .stream id _ | .function id _ | .type id _ => some (identityKey id)
  | .object _ _ (.mapping entries) =>
      (entryCanonicals? entries).map fun keys => tagged "map" (sortTexts keys)
  | .object profile _ _ => some (identityKey profile.id)

def canonicals? : List Value → Option (List String)
  | [] => some []
  | value :: rest => do
      let key ← canonical? value
      let keys ← canonicals? rest
      pure (key :: keys)

def fieldCanonicals? : List (String × Value) → Option (List String)
  | [] => some []
  | (_, value) :: rest => do
      let key ← canonical? value
      let keys ← fieldCanonicals? rest
      pure (key :: keys)

def entryCanonicals? : List (Value × Value) → Option (List String)
  | [] => some []
  | (key, value) :: rest => do
      let left ← canonical? key
      let right ← canonical? value
      let keys ← entryCanonicals? rest
      pure (tagged "entry" [left, right] :: keys)

end

def equals (a b : Value) : Bool :=
  match a.canonical?, b.canonical? with
  | some x, some y => x == y
  | _, _ => false

mutual

/-- The kind of the first part that may change, if there is one. Such a value can be neither an
element of a set nor a key of a map. -/
def changeable? : Value → Option String
  | .tuple items => changeableItem? items
  | .record _ fields => changeableField? fields
  | value@(.bytes true _) | value@(.list _) | value@(.map _) | value@(.set false _)
  | value@(.object _ _ (.mapping _)) => some value.kindName
  | _ => none

def changeableItem? : List Value → Option String
  | [] => none
  | value :: rest => (changeable? value).or (changeableItem? rest)

def changeableField? : List (String × Value) → Option String
  | [] => none
  | (_, value) :: rest => (changeable? value).or (changeableField? rest)

end

/-- The elements that differ from those before them and from what was seen already. -/
def distinctFrom (seen : List String) : List Value → List Value
  | [] => []
  | value :: rest =>
      match value.canonical? with
      | none => value :: distinctFrom seen rest
      | some key =>
          if seen.contains key then distinctFrom seen rest
          else value :: distinctFrom (key :: seen) rest

/-- Keeps the first of equal elements. -/
def distinct (items : List Value) : List Value := distinctFrom [] items

/-- What stands under a key. -/
def lookup? {α : Type} (key : Value) (entries : List (Value × α)) : Option α :=
  (entries.find? fun entry => entry.1.equals key).map (·.2)

/-- Puts something under a key, in the place of what was there if there is anything. -/
def insertEntry {α : Type} (key : Value) (value : α) : List (Value × α) → List (Value × α)
  | [] => [(key, value)]
  | (k, v) :: rest =>
      if k.equals key then (k, value) :: rest else (k, v) :: insertEntry key value rest

/-- Equal keys share an entry with the first key and the last value. -/
def distinctEntries (entries : List (Value × Value)) : List (Value × Value) :=
  entries.foldl (fun kept (key, value) => insertEntry key value kept) []

end Stencil.Value
