import Stencil.Fault

set_option autoImplicit false

/-!
Paths into settings: keys of maps and positions in lists. Assigning along a path makes the maps and
the list that are missing on the way; a position can only be the last step.
-/

namespace Stencil.Settings

inductive Step where
  | key (name : String)
  | index (position : Nat)
  deriving DecidableEq, Repr

abbrev Path := List Step

/-- The value that a path leads to. -/
def get? : Value → Path → Option Value
  | value, [] => some value
  | .map entries, .key name :: rest => (Value.entry? name entries).bind fun value => get? value rest
  | .list items, .index position :: rest => items[position]?.bind fun value => get? value rest
  | _, _ :: _ => none

/-- A list with a value at a position. If it is too short then a filler lengthens it. -/
def putItem {α : Type} (filler : α) (position : Nat) (value : α) (items : List α) : List α :=
  (items ++ List.replicate (position + 1 - items.length) filler).set position value

/-- The container that a step needs. -/
def Step.container : Step → Value
  | key _ => .map []
  | index _ => .list []

/-- The value under a key, or a new container if there is none but null. -/
def openEntry (name : String) (next : Step) (entries : List (Value × Value)) : Value :=
  match Value.entry? name entries with
  | none | some .null => next.container
  | some value => value

/-- The settings after an assignment, and why it failed if it did. What was made on the way to a
failure is kept. -/
def assign (value : Value) : Value → Path → Value × Option AssignFault
  | current, [] => (current, none)
  | current, [.index position] =>
      match current with
      | .list items => (.list (putItem .null position value items), none)
      | _ => (current, some .indexNeedsList)
  | current, [.key name] =>
      match current with
      | .map entries => (.map (Value.putEntry name value entries), none)
      | _ => (current, some .keyNeedsMap)
  | current, .index _ :: _ :: _ => (current, some .indexInside)
  | current, .key name :: next :: rest =>
      match current with
      | .map entries =>
          let (inner, fault) := assign value (openEntry name next entries) (next :: rest)
          (.map (Value.putEntry name inner entries), fault)
      | _ => (current, some .throughScalar)

end Stencil.Settings
