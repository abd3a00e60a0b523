import Stencil.Proofs.Settings.Layering

set_option autoImplicit false

/-!
What a list that is laid over something stands for. A marker at its head is meant for the merge and
not for the settings, and a list without one is meant to replace what is below it. Merging keeps to
this but for two kinds of lists: those with a marker and no list below them, of which the marker
stays, and the empty list, which leaves the list below it as it is.
-/

namespace Stencil.Settings

variable {base upper : List (Value × Value)} {path : List Value} {items : List Value}

def listItems? : Option Value → Option (List Value)
  | some (.list items) => some items
  | _ => none

def isMarker (value : Value) : Bool := appendMarker value || replaceMarker value

/-- What a list stands for over the items below it, if there is a list below: after a plus sign it
appends, after an equals sign it replaces, and without a marker it replaces, too. -/
def meantItems (below? : Option (List Value)) : List Value → List Value
  | [] => []
  | first :: rest =>
      if appendMarker first then below?.getD [] ++ rest
      else if replaceMarker first then rest
      else first :: rest

/-- The list begins with a marker, and there is no list below it. -/
structure IsMarkedAlone (below? : Option (List Value)) (items : List Value) : Prop where
  alone : below? = none
  marked : ∃ marker rest, items = marker :: rest ∧ isMarker marker = true

/-- The list is empty, and the one below it is not. -/
structure IsEmptyOver (below? : Option (List Value)) (items : List Value) : Prop where
  empty : items = []
  filled : ∃ first rest, below? = some (first :: rest)

theorem eq_list_of_listItems? {under : Option Value} (found : listItems? under = some items) :
    under = some (.list items) := by
  cases under with
  | none => cases found
  | some value =>
      cases value with
      | list own =>
          cases found
          rfl
      | _ => cases found

theorem mergeValue_list (under : Option Value) (items : List Value) :
    mergeValue under (.list items) =
      .list (match listItems? under with
        | some below => mergeLists below items
        | none => items) := by
  cases under with
  | none => rfl
  | some value => cases value <;> rfl

theorem mergeLists_eq_meantItems_iff (below items : List Value) :
    mergeLists below items = meantItems (some below) items ↔ ¬IsEmptyOver (some below) items := by
  cases items with
  | nil =>
      show below = [] ↔ _
      cases below with
      | nil => exact iff_of_true rfl fun ⟨_, _, _, same⟩ => by cases same
      | cons first rest => exact iff_of_false nofun fun full => full ⟨rfl, first, rest, rfl⟩
  | cons first rest => exact iff_of_true rfl fun ⟨empty, _⟩ => by cases empty

theorem eq_meantItems_none_iff (items : List Value) :
    items = meantItems none items ↔ ¬IsMarkedAlone none items := by
  cases items with
  | nil => exact iff_of_true rfl fun ⟨_, _, _, same, _⟩ => by cases same
  | cons first rest =>
      have unchanged : first :: rest ≠ rest := List.cons_ne_self first rest
      have meant : meantItems none (first :: rest) =
          if isMarker first then rest else first :: rest := by
        rw [meantItems, isMarker]
        cases appendMarker first <;> rfl
      rw [meant]
      cases marked : isMarker first with
      | true =>
          exact iff_of_false unchanged
            fun unmarked => unmarked ⟨rfl, first, rest, rfl, marked⟩
      | false =>
          refine iff_of_true rfl fun ⟨_, marker, others, same, isOne⟩ => ?_
          cases same
          rw [marked] at isOne
          cases isOne

/-- Laid over a base, a list at a path becomes what it stands for there, unless it has a marker and
no list below it, or is empty and the list below it is not. In these cases, and only in these, it
does not: the marker stays, or the list below stays. -/
theorem merges_meantItems_iff (base : List (Value × Value)) (wellKeyed : areWellKeyed upper = true)
    (there : descend? (.map upper) path = some (.list items)) :
    let below? := listItems? (descend? (.map base) path)
    let merged := descend? (.map (mergeEntries base upper)) path
    (merged = some (.list (meantItems below? items)) ↔
        ¬IsMarkedAlone below? items ∧ ¬IsEmptyOver below? items) ∧
      (IsMarkedAlone below? items → merged = some (.list items)) ∧
      (IsEmptyOver below? items → merged = descend? (.map base) path) := by
  intro below? merged
  have layered : merged = some (mergeValue (descend? (.map base) path) (.list items)) :=
    descend?_mergeValue_of_some (show isWellKeyed (.map upper) = true from wellKeyed) there
      (some (.map base))
  rw [mergeValue_list] at layered
  cases found : listItems? (descend? (.map base) path) with
  | none =>
      have same : below? = none := found
      have unfilled : ¬IsEmptyOver none items := fun ⟨_, _, _, filled⟩ => by cases filled
      rw [layered, found, same]
      refine ⟨?_, fun _ => rfl, fun full => absurd full unfilled⟩
      simpa [unfilled] using eq_meantItems_none_iff items
  | some below =>
      have same : below? = some below := found
      have accompanied : ¬IsMarkedAlone (some below) items := fun ⟨alone, _⟩ => by cases alone
      rw [layered, found, same]
      refine ⟨?_, fun stray => absurd stray accompanied, fun full => ?_⟩
      · simpa [accompanied] using mergeLists_eq_meantItems_iff below items
      · rw [full.empty, eq_list_of_listItems? found]
        rfl

/-! The tags of a page, in a layer that sets them anew and in one that clears them. -/

def formerTags : List (Value × Value) := [(.text "tags", .list [.text "new"])]

def explicitTags : List (Value × Value) := [(.text "tags", .list [.text "=", .text "hot"])]

def clearedTags : List (Value × Value) := [(.text "tags", .list [])]

/-- Over former tags the sign is taken away. -/
theorem merges_meantItems_tags :
    areWellKeyed explicitTags = true ∧
      descend? (.map explicitTags) [.text "tags"] = some (.list [.text "=", .text "hot"]) ∧
      descend? (.map (mergeEntries formerTags explicitTags)) [.text "tags"] =
        some (.list [.text "hot"]) := by
  have wellKeyed : areWellKeyed explicitTags = true := by decide +kernel
  have there : descend? (.map explicitTags) [.text "tags"] =
      some (.list [.text "=", .text "hot"]) := by rfl
  have unmarked : ¬IsMarkedAlone (some [.text "new"]) [.text "=", .text "hot"] :=
    fun ⟨alone, _⟩ => by cases alone
  have filled : ¬IsEmptyOver (some [.text "new"]) [.text "=", .text "hot"] :=
    fun ⟨empty, _⟩ => by cases empty
  exact ⟨wellKeyed, there,
    (merges_meantItems_iff formerTags wellKeyed there).1.mpr ⟨unmarked, filled⟩⟩

/-- Where there were no tags the sign stays among the new ones, and former tags stay uncleared. -/
theorem merged_tags_ne_meant :
    (descend? (.map explicitTags) [.text "tags"] = some (.list [.text "=", .text "hot"]) ∧
        descend? (.map []) [.text "tags"] = none ∧
        descend? (.map (mergeEntries [] explicitTags)) [.text "tags"] ≠
          some (.list [.text "hot"])) ∧
      descend? (.map clearedTags) [.text "tags"] = some (.list []) ∧
        descend? (.map (mergeEntries formerTags clearedTags)) [.text "tags"] ≠
          some (.list []) := by
  refine ⟨⟨rfl, rfl, fun same => ?_⟩, rfl, fun same => ?_⟩
  · have items : [Value.text "=", .text "hot"] = [.text "hot"] :=
      Value.list.inj (Option.some.inj same)
    exact absurd (congrArg List.length items) (by decide)
  · have items : [Value.text "new"] = [] := Value.list.inj (Option.some.inj same)
    cases items

end Stencil.Settings
