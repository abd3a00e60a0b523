import Stencil.Document.Basic
import Stencil.Value.Elements

set_option autoImplicit false

/-!
Folders of documents. The documents of a folder are its files with one of two suffixes, in the
order of their names; laid over each other they make one map.
-/

namespace Stencil

/-- A file with its text, or a folder within the folder. -/
structure FolderItem where
  name : String
  text : Option String
  deriving DecidableEq, Repr

abbrev Folder := List FolderItem

namespace Folder
open Text

/-- Writes a file, in place of one of the same name. -/
def write (folder : Folder) (item : FolderItem) : Folder :=
  folder.filter (·.name != item.name) ++ [item]

/-- The folder after writing all of some items. -/
def ofItems (items : List FolderItem) : Folder := items.foldl write []

/-- What follows the last point of a name, the point included; a point at either end of the name
begins no suffix. -/
def suffix (name : String) : String :=
  let tail := name.toList.reverse.takeWhile (· != '.')
  if tail.isEmpty || name.length ≤ tail.length + 1 then ""
  else String.ofList ('.' :: tail.reverse)

def isDocument (item : FolderItem) : Bool :=
  item.text.isSome && (suffix item.name == ".yaml" || suffix item.name == ".yml")

def documents (folder : Folder) : List FolderItem :=
  (folder.filter isDocument).mergeSort fun a b => decide (a.name ≤ b.name)

/-- The entry that an item of two parts makes. -/
def pairEntry (item : Value) (position : Nat) : Except Fault (Value × Value) :=
  match item.iterated? with
  | some [key, value] =>
      match key.changeable? with
      | some kind => .error (.changeable kind)
      | none => .ok (key, value)
  | other => .error (.notPair position (other.map List.length))

/-- The entries of a base: those of a mapping, or those that pairs make. -/
def baseEntries (value : Value) : Except Fault (List (Value × Value)) :=
  match value with
  | .map entries | .object _ _ (.mapping entries) => .ok entries
  | other =>
      match other.iterated? with
      | none => .error (.notIterable other.familyKindName)
      | some items => do
          let pairs ← items.zipIdx.mapM fun (item, position) => pairEntry item position
          return Value.distinctEntries pairs

/-- The entries that a document adds; one that describes nothing adds none. -/
def entriesOf (value : Value) : Except Fault (List (Value × Value)) :=
  if value.truth then
    match value with
    | .map entries | .object _ _ (.mapping entries) => .ok entries
    | other => .error (.noMember other.ownerText "items")
  else .ok []

/-- The entries of a tree that a document adds to those below it. -/
def entryTreesOf (stage : Nat) (tree : Settings.Tree) : Except Fault (List (Value × Settings.Tree)) :=
  if tree.value.truth then
    match tree with
    | .map _ entries => .ok entries
    | .leaf (.object _ _ (.mapping entries)) _ => .ok (Settings.Tree.ofEntries stage [] entries)
    | other => .error (.noMember other.value.ownerText "items")
  else .ok []

/-- Lays a document over a base. The merged map is a new one. -/
def mergeDocument (read : String → Except Fault Document) (base : Settings.Tree)
    (item : FolderItem) : Except Fault Settings.Tree := do
  let document ← read (item.text.getD "")
  let upper := document.tree base.nextStage
  let stage := max base.nextStage upper.nextStage
  return .overlaid stage (← entryTreesOf stage upper) base

/-- Lays the documents over the base, the first fault ending it. -/
def merge (read : String → Except Fault Document) (base : Settings.Tree) (folder : Folder) :
    Except Fault Settings.Tree :=
  folder.documents.foldlM (mergeDocument read) base

end Folder
end Stencil
