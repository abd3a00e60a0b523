import Mathlib.Data.List.Infix
import Stencil.Proofs.Value.Entries
import Stencil.Settings.Path

set_option autoImplicit false

/-!
Assignments along paths: how one that succeeds goes, and what becomes of a list in which an item is
put. Paths overlap if one of them is the beginning of the other.
-/

namespace Stencil.Settings

variable {value current later found : Value} {path other : Path}

/-- What an assignment that succeeds does: it changes the last container, and each container before
it holds the changed one. -/
inductive Assigns (value : Value) : Path → Value → Value → Prop where
  | index {position items} :
      Assigns value [.index position] (.list items) (.list (putItem .null position value items))
  | key {name entries} :
      Assigns value [.key name] (.map entries) (.map (Value.putEntry name value entries))
  | inside {name next rest entries inner} :
      Assigns value (next :: rest) (openEntry name next entries) inner →
      Assigns value (.key name :: next :: rest) (.map entries)
        (.map (Value.putEntry name inner entries))

theorem assigns_of_assign (nonempty : path ≠ []) (assigned : (assign value current path).2 = none) :
    Assigns value path current (assign value current path).1 := by
  induction path generalizing current with
  | nil => exact absurd rfl nonempty
  | cons step rest inductionHypothesis =>
      cases step with
      | index position =>
          cases rest with
          | nil =>
              cases current with
              | list items => exact .index
              | _ => cases assigned
          | cons next rest => cases assigned
      | key name =>
          cases rest with
          | nil =>
              cases current with
              | map entries => exact .key
              | _ => cases assigned
          | cons next rest =>
              cases current with
              | map entries => exact .inside (inductionHypothesis (List.cons_ne_nil _ _) assigned)
              | _ => cases assigned

/-- One path is the beginning of the other. -/
def Overlaps (path other : Path) : Prop := path <+: other ∨ other <+: path

theorem Overlaps.symm (overlaps : Overlaps path other) : Overlaps other path := Or.symm overlaps

theorem Overlaps.cons (step : Step) (overlaps : Overlaps path other) :
    Overlaps (step :: path) (step :: other) :=
  overlaps.imp (List.cons_prefix_cons.mpr ⟨rfl, ·⟩) (List.cons_prefix_cons.mpr ⟨rfl, ·⟩)

theorem overlaps_nil (path : Path) : Overlaps [] path := .inl (List.nil_prefix)

section Items

variable {α : Type} {filler item found : α} {position place : Nat} {items : List α}

theorem getElem?_putItem_self (filler item : α) (position : Nat) (items : List α) :
    (putItem filler position item items)[position]? = some item := by
  rw [putItem, List.getElem?_set_self]
  simp only [List.length_append, List.length_replicate]
  omega

theorem getElem?_putItem_of_ne (apart : place ≠ position) (there : items[place]? = some found) :
    (putItem filler position item items)[place]? = some found := by
  have within : place < items.length := (List.getElem?_eq_some_iff.mp there).1
  rw [putItem, List.getElem?_set_ne (Ne.symm apart), List.getElem?_append_left within, there]

/-- A list is lengthened by the filler only, and only up to the position. -/
theorem getElem?_of_putItem (apart : place ≠ position)
    (there : (putItem filler position item items)[place]? = some found) :
    items[place]? = some found ∨ place < position ∧ found = filler := by
  rw [putItem, List.getElem?_set_ne (Ne.symm apart), List.getElem?_append] at there
  split at there
  · exact .inl there
  · rw [List.getElem?_replicate] at there
    split at there
    · refine .inr ⟨by omega, ?_⟩
      simpa using there.symm
    · cases there

end Items

/-- Where something but null stands under a key, an assignment goes on. -/
theorem openEntry_of_found {name : String} {next : Step} {entries : List (Value × Value)}
    (there : Value.entry? name entries = some found) (nonnull : found ≠ .null) :
    openEntry name next entries = found := by
  rw [openEntry, there]
  cases found with
  | null => exact absurd rfl nonnull
  | _ => rfl

end Stencil.Settings
