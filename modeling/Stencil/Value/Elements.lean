import Stencil.Fault
import Stencil.Value.Order

set_option autoImplicit false

/-!
Collections and conditions. A section over a collection goes through its elements; texts, byte
strings and mappings are no collections. A stream can be gone through once: the identities of the
streams already used up are given, and `spends?` tells which one a pass uses up. Sets are gone through
in ascending order, if their elements have one.
-/

namespace Stencil.Value

def isCollection : Value → Bool
  | .list _ | .tuple _ | .record .. | .set .. | .range .. | .stream .. => true
  | .object _ _ (.iterable _) | .object _ _ (.sequence _) => true
  | _ => false

/-- The elements of a collection as they come. -/
def items? (spent : List Nat) : Value → Option (List Value)
  | .list items | .tuple items | .set _ items => some items
  | .record _ fields => some (fields.map (·.2))
  | .range start stop step => some (rangeItems start stop step)
  | .stream id items => some (if spent.contains id then [] else items)
  | .object _ _ (.iterable items) | .object _ _ (.sequence items) => some items
  | _ => none

/-- The stream that a pass over the value uses up. -/
def spends? : Value → Option Nat
  | .stream id _ => some id
  | _ => none

/-- The length of a collection that tells it without being gone through. -/
def collectionLength? : Value → Option Nat
  | .list items | .tuple items | .set _ items => some items.length
  | .record _ fields => some fields.length
  | .range start stop step => some (rangeLength start stop step)
  | .object profile _ (.iterable _) => profile.length
  | .object profile _ (.sequence items) => some (profile.length.getD items.length)
  | _ => none

/-- Lengths stay below this. -/
def lengthLimit : Nat := Nat.pow 2 63

/-- A length that is out of reach. Ranges count their items themselves. -/
def lengthFault : Value → Fault
  | .object .. => .indexRange
  | _ => .lengthRange

/-- The length that a pass over the value, or a question for its truth, asks for first. -/
def askedLength? : Value → Option Nat
  | .object profile _ .closed => if profile.truth.isSome then none else profile.length
  | .object profile _ (.mapping entries) =>
      if profile.truth.isSome then none else some (profile.length.getD entries.length)
  | value => value.collectionLength?

/-- A length that is asked for has to stay below the limit. -/
def checkLength (value : Value) : Except Fault Unit :=
  match value.askedLength? with
  | some n => if n < lengthLimit then .ok () else .error value.lengthFault
  | none => .ok ()

/-- The elements of a set: ascending, and as they come if the kinds of some are the reason why they
cannot be sorted. -/
def inOrder (sorting : Sorting) (items : List Value) : Except Fault (List Value) :=
  match sort sorting items with
  | .ok ordered => .ok ordered
  | .error .kinds => .ok items
  | .error reason => .error (.unordered reason)

/-- The elements of a collection, in the order in which a section goes through them. -/
def elements? (sorting : Sorting) (spent : List Nat) (value : Value) :
    Except Fault (Option (List Value)) :=
  if value.isCollection then do
    value.checkLength
    match value with
    | .set _ items => return some (← inOrder sorting items)
    | value => return value.items? spent
  else .ok none

/-- Whether a section over the value has something to show. -/
def condition (spent : List Nat) (value : Value) : Except Fault Bool := do
  value.checkLength
  return if value.isCollection then
      match value.collectionLength? with
      | some n => n != 0
      | none => !((value.items? spent).getD []).isEmpty
    else value.truth

/-- The stream that asking for the condition uses up. -/
def conditionSpends? (value : Value) : Option Nat :=
  if value.isCollection && value.collectionLength?.isNone then value.spends? else none

/-- What a value yields one by one: a text its characters, byte strings their numbers, mappings
their keys, and collections their elements as they come. -/
def iterated? : Value → Option (List Value)
  | .text s => some (s.toList.map fun c => .text (String.singleton c))
  | .bytes _ octets => some (octets.map fun octet => .int octet.toNat)
  | .map entries | .object _ _ (.mapping entries) => some (entries.map (·.1))
  | value => value.items? []

/-- Ordered collections that can be asked for the item at a position. -/
def isIndexable : Value → Bool
  | .list _ | .tuple _ | .record .. | .range .. | .object _ _ (.sequence _) => true
  | _ => false

def item? (position : Nat) : Value → Option Value
  | .list items | .tuple items => items[position]?
  | .record _ fields => fields[position]?.map (·.2)
  | .range start stop step =>
      if position < rangeLength start stop step then some (rangeItem start step position) else none
  | .object _ _ (.sequence items) => items[position]?
  | _ => none

end Stencil.Value
