import Stencil.Proofs.Settings.Layering
import Stencil.Proofs.Value.Entries
import Stencil.Settings.Tree

set_option autoImplicit false

/-!
What a tree shows. Merging and assigning go by the origins of lists and maps; what merging shows is
what comes of merging the values, and an assignment fails just where it does for the value.
-/

namespace Stencil.Settings.Tree

@[simp] theorem value_leaf (value : Value) (plain : isLeaf value = true) :
    (leaf value plain).value = value := by rw [Tree.value]

@[simp] theorem value_null : null.value = .null := value_leaf _ _

theorem values_eq_map (items : List Tree) : values items = items.map value := by
  induction items with
  | nil => rfl
  | cons item rest inductionHypothesis => rw [values, inductionHypothesis, List.map_cons]

theorem entryValues_eq_map (entries : List (Value × Tree)) :
    entryValues entries = entries.map fun entry => (entry.1, entry.2.value) := by
  induction entries with
  | nil => rfl
  | cons entry rest inductionHypothesis =>
      obtain ⟨key, tree⟩ := entry
      rw [entryValues, inductionHypothesis, List.map_cons]

theorem exists_eq_map_of_value {tree : Tree} {below : List (Value × Value)}
    (shown : tree.value = .map below) :
    ∃ origin entries, tree = .map origin entries ∧ entryValues entries = below := by
  cases tree with
  | leaf own plain =>
      rw [value_leaf] at shown
      subst shown
      cases plain
  | list => cases shown
  | map origin entries =>
      cases shown
      exact ⟨origin, entries, rfl, rfl⟩

mutual

@[simp] theorem value_ofValue (stage : Nat) : ∀ (value : Value) (place : List Nat),
    (ofValue stage place value).value = value
  | .list items, place => by rw [ofValue, value, values_ofItems stage items place]
  | .map entries, place => by rw [ofValue, value, entryValues_ofEntries stage entries place]
  | .null, _ | .bool .., _ | .int .., _ | .float .., _ | .complex .., _ | .decimal .., _
  | .text .., _ | .bytes .., _ | .tuple .., _ | .record .., _ | .set .., _ | .range .., _
  | .stream .., _ | .date .., _ | .moment .., _ | .zone .., _ | .function .., _ | .type .., _
  | .object .., _ => value_leaf _ rfl

theorem values_ofItems (stage : Nat) : ∀ (items : List Value) (place : List Nat),
    values (ofItems stage place items) = items
  | [], place => rfl
  | item :: rest, place => by
      rw [ofItems, values, value_ofValue stage item, values_ofItems stage rest]

theorem entryValues_ofEntries (stage : Nat) : ∀ (entries : List (Value × Value)) (place : List Nat),
    entryValues (ofEntries stage place entries) = entries
  | [], place => rfl
  | (key, value) :: rest, place => by
      rw [ofEntries, entryValues, value_ofValue stage value, entryValues_ofEntries stage rest]

end

/-! What is under a key is shown under it. -/

theorem entry?_entryValues (name : String) (entries : List (Value × Tree)) :
    Value.entry? name (entryValues entries) = (Value.entry? name entries).map value := by
  rw [entryValues_eq_map, Value.entry?_map]

theorem lookup?_entryValues (key : Value) (entries : List (Value × Tree)) :
    Value.lookup? key (entryValues entries) = (Value.lookup? key entries).map value := by
  rw [entryValues_eq_map, Value.lookup?_map]

theorem entryValues_insertEntry (key : Value) (tree : Tree) (entries : List (Value × Tree)) :
    entryValues (Value.insertEntry key tree entries) =
      Value.insertEntry key tree.value (entryValues entries) := by
  induction entries with
  | nil => rfl
  | cons entry rest inductionHypothesis =>
      obtain ⟨own, former⟩ := entry
      rw [entryValues, Value.insertEntry, Value.insertEntry, ← inductionHypothesis]
      split <;> rfl

/-! Merging trees merges what they show. -/

theorem values_mergeItems (below items : List Tree) :
    values (mergeItems below items) = mergeLists (values below) (values items) := by
  simp only [values_eq_map]
  cases items with
  | nil => rfl
  | cons first rest =>
      rw [mergeItems, List.map_cons, mergeLists]
      split
      · rw [List.map_append]
      · split <;> rfl

theorem not_isMap_of_isLeaf {value : Value} (plain : isLeaf value = true) : isMap value = false := by
  cases value with
  | map entries => cases plain
  | _ => rfl

theorem not_isList_of_isLeaf {value : Value} (plain : isLeaf value = true) :
    isList value = false := by
  cases value with
  | list items => cases plain
  | _ => rfl

theorem mergeValue_of_not_list {below : Value} (other : isList below = false) (items : List Value) :
    mergeValue (some below) (.list items) = .list items := by
  cases below with
  | list own => cases other
  | _ => rfl

/-- A list over a list. -/
theorem value_mergedList (stage : Nat) (place : List Nat) (origin own : Origin)
    (below items : List Tree) :
    (merge stage place (some (.list origin below)) (.list own items)).value =
      .list (mergeLists (values below) (values items)) := by
  rw [merge, ← values_mergeItems]
  cases items with
  | nil => rfl
  | cons first rest => rfl

mutual

theorem entryValues_mergeEntries (stage : Nat) :
    ∀ (upper base : List (Value × Tree)) (place : List Nat),
    entryValues (mergeEntries stage place base upper) =
      Settings.mergeEntries (entryValues base) (entryValues upper)
  | [], base, place => by rw [mergeEntries, entryValues, Settings.mergeEntries]
  | (key, tree) :: rest, base, place => by
      rw [mergeEntries, entryValues, Settings.mergeEntries, entryValues_mergeEntries stage rest,
        entryValues_insertEntry, value_merge stage tree, lookup?_entryValues]

theorem value_merge (stage : Nat) : ∀ (tree : Tree) (base : Option Tree) (place : List Nat),
    (merge stage place base tree).value = mergeValue (base.map value) tree.value
  | .leaf own plain, base, place => by
      have alone : merge stage place base (.leaf own plain) = .leaf own plain := by
        rw [merge] <;> simp
      rw [alone, value_leaf, mergeValue_of_scalar (not_isMap_of_isLeaf plain)
        (not_isList_of_isLeaf plain)]
  | .list own items, base, place => by
      cases base with
      | none => rfl
      | some below =>
          cases below with
          | list origin below => exact value_mergedList stage place origin own below items
          | map => rfl
          | leaf other plain =>
              exact (mergeValue_of_not_list (not_isList_of_isLeaf plain) (values items)).symm
  | .map own entries, base, place => by
      cases base with
      | none => rfl
      | some below =>
          cases below with
          | map origin below =>
              rw [merge, value, entryValues_mergeEntries stage entries]
              rfl
          | list => rfl
          | leaf other plain =>
              exact (mergeValue_of_not_map (not_isMap_of_isLeaf plain) (entryValues entries)).symm

end

end Stencil.Settings.Tree
