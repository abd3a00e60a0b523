import Stencil.Value.Canonical

set_option autoImplicit false

/-!
Merging layers of settings. Maps merge key by key, to any depth. A list gives way to the list above
it, unless that one begins with a marker: after a plus sign its items are appended, and after an
equals sign they replace, as they would without. Anything else is replaced by what lies above it.
-/

namespace Stencil.Settings

def appendMarker : Value → Bool
  | .text s => s == "+"
  | _ => false

def replaceMarker : Value → Bool
  | .text s => s == "="
  | _ => false

/-- An empty list changes nothing. -/
def mergeLists (base upper : List Value) : List Value :=
  match upper with
  | [] => base
  | first :: rest =>
      if appendMarker first then base ++ rest
      else if replaceMarker first then rest
      else upper

mutual

/-- Lays the entries of one map over those of another, which keep their places. -/
def mergeEntries : List (Value × Value) → List (Value × Value) → List (Value × Value)
  | base, [] => base
  | base, (key, value) :: rest =>
      mergeEntries (Value.insertEntry key (mergeValue (Value.lookup? key base) value) base) rest

/-- The value under a key, given what lies below it. -/
def mergeValue : Option Value → Value → Value
  | some (.map below), .map entries => .map (mergeEntries below entries)
  | some (.list below), .list items => .list (mergeLists below items)
  | _, value => value

end

end Stencil.Settings
