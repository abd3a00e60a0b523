import Stencil.Settings.Merge
import Stencil.Settings.Path

set_option autoImplicit false

/-!
Settings in which lists and maps have identities. A list or a map may stand at several places, as
the part of a document does that others refer to, and a change to it shows at all of them. Merging
makes new lists and maps and hands on the others; an assignment changes the last list or map that
there is on its path.
-/

namespace Stencil.Settings

/-- Lists and maps of one origin are the same one. The stage counts what has made them, and the
place tells apart what was made in one stage. -/
structure Origin where
  stage : Nat
  place : List Nat
  deriving DecidableEq, Repr

/-- Neither a list nor a map. -/
def isLeaf : Value → Bool
  | .list _ | .map _ => false
  | _ => true

inductive Tree where
  | leaf (value : Value) (plain : isLeaf value = true)
  | list (origin : Origin) (items : List Tree)
  | map (origin : Origin) (entries : List (Value × Tree))

namespace Tree

def null : Tree := .leaf .null rfl

instance : Inhabited Tree := ⟨null⟩

def origin? : Tree → Option Origin
  | .leaf .. => none
  | .list origin _ | .map origin _ => some origin

mutual

/-- The value that a tree shows. -/
def value : Tree → Value
  | .leaf value _ => value
  | .list _ items => .list (values items)
  | .map _ entries => .map (entryValues entries)

def values : List Tree → List Value
  | [] => []
  | tree :: rest => value tree :: values rest

def entryValues : List (Value × Tree) → List (Value × Value)
  | [] => []
  | (key, tree) :: rest => (key, value tree) :: entryValues rest

end

mutual

/-- The origins of all lists and maps in a tree. -/
def origins : Tree → List Origin
  | .leaf .. => []
  | .list origin items => origin :: itemOrigins items
  | .map origin entries => origin :: entryOrigins entries

def itemOrigins : List Tree → List Origin
  | [] => []
  | tree :: rest => origins tree ++ itemOrigins rest

def entryOrigins : List (Value × Tree) → List Origin
  | [] => []
  | (_, tree) :: rest => origins tree ++ entryOrigins rest

end

/-- A stage in which nothing of the tree was made. -/
def nextStage (tree : Tree) : Nat :=
  tree.origins.foldr (fun origin stage => max (origin.stage + 1) stage) 0

mutual

/-- The tree of a value, all made in one stage. -/
def ofValue (stage : Nat) (place : List Nat) : Value → Tree
  | .list items => .list ⟨stage, place⟩ (ofItems stage place items)
  | .map entries => .map ⟨stage, place⟩ (ofEntries stage place entries)
  | value => if plain : isLeaf value = true then .leaf value plain else null

def ofItems (stage : Nat) (place : List Nat) : List Value → List Tree
  | [] => []
  | value :: rest => ofValue stage (rest.length :: place) value :: ofItems stage place rest

def ofEntries (stage : Nat) (place : List Nat) : List (Value × Value) → List (Value × Tree)
  | [] => []
  | (key, value) :: rest =>
      (key, ofValue stage (rest.length :: place) value) :: ofEntries stage place rest

end

/-! Merging. -/

/-- An empty list changes nothing. -/
def mergeItems (below items : List Tree) : List Tree :=
  match items with
  | [] => below
  | first :: rest =>
      if appendMarker first.value then below ++ rest
      else if replaceMarker first.value then rest
      else items

mutual

/-- Lays the entries of one map over those of another, which keep their places. -/
def mergeEntries (stage : Nat) (place : List Nat) :
    List (Value × Tree) → List (Value × Tree) → List (Value × Tree)
  | base, [] => base
  | base, (key, tree) :: rest =>
      let merged := merge stage (rest.length :: place) (Value.lookup? key base) tree
      mergeEntries stage place (Value.insertEntry key merged base) rest

/-- What stands under a key, given what lies below it. -/
def merge (stage : Nat) (place : List Nat) : Option Tree → Tree → Tree
  | some (.map _ below), .map _ entries =>
      .map ⟨stage, place⟩ (mergeEntries stage place below entries)
  | some (.list origin below), .list _ items =>
      if items.isEmpty then .list origin below else .list ⟨stage, place⟩ (mergeItems below items)
  | _, tree => tree

end

/-- A map with entries laid over its own. Anything else stays. -/
def overlaid (stage : Nat) (upper : List (Value × Tree)) : Tree → Tree
  | .map _ base => .map ⟨stage, []⟩ (mergeEntries stage [] base upper)
  | tree => tree

/-! Assigning. -/

/-- What an assignment changes: an entry or an item of a single list or map. -/
structure Change where
  origin : Origin
  step : Step
  tree : Tree

/-- The items after a change to their list. Nulls fill up what is missing before a position. -/
def Change.items (change : Change) (items : List Tree) : List Tree :=
  match change.step with
  | .index position => putItem null position change.tree items
  | .key _ => items

/-- The entries after a change to their map. -/
def Change.entries (change : Change) (entries : List (Value × Tree)) : List (Value × Tree) :=
  match change.step with
  | .key name => Value.putEntry name change.tree entries
  | .index _ => entries

mutual

/-- The tree after a change, which shows wherever the changed list or map stands. -/
def apply (change : Change) : Tree → Tree
  | .leaf value plain => .leaf value plain
  | .list origin items =>
      let items := applyItems change items
      .list origin (if origin = change.origin then change.items items else items)
  | .map origin entries =>
      let entries := applyEntries change entries
      .map origin (if origin = change.origin then change.entries entries else entries)

def applyItems (change : Change) : List Tree → List Tree
  | [] => []
  | tree :: rest => apply change tree :: applyItems change rest

def applyEntries (change : Change) : List (Value × Tree) → List (Value × Tree)
  | [] => []
  | (key, tree) :: rest => (key, apply change tree) :: applyEntries change rest

end

/-- What an assignment changes, and why it fails if it does. Where there is nothing but null under a
key, all that the rest of the path needs is made at once. -/
def change? (stage : Nat) (value : Value) : Tree → Path → Option Change × Option AssignFault
  | _, [] => (none, none)
  | .list origin _, [.index position] =>
      (some ⟨origin, .index position, ofValue stage [] value⟩, none)
  | _, [.index _] => (none, some .indexNeedsList)
  | .map origin _, [.key name] => (some ⟨origin, .key name, ofValue stage [] value⟩, none)
  | _, [.key _] => (none, some .keyNeedsMap)
  | _, .index _ :: _ :: _ => (none, some .indexInside)
  | .map origin entries, .key name :: next :: rest =>
      match Value.entry? name entries with
      | none | some (.leaf .null _) =>
          let (made, fault) := Settings.assign value next.container (next :: rest)
          (some ⟨origin, .key name, ofValue stage [] made⟩, fault)
      | some inner => change? stage value inner (next :: rest)
  | _, .key _ :: _ :: _ => (none, some .throughScalar)

/-- The tree after an assignment, and why it failed if it did. -/
def assign (value : Value) (tree : Tree) (path : Path) : Tree × Option AssignFault :=
  let (change, fault) := change? tree.nextStage value tree path
  (change.elim tree fun change => tree.apply change, fault)

end Tree
end Stencil.Settings
