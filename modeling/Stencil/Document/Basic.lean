import Stencil.Fault
import Stencil.Settings.Tree

set_option autoImplicit false

/-!
Documents: values some parts of which may be named and referred to. A part that is referred to
stands at several places at once.
-/

namespace Stencil

/-- A part of a document. It may refer to named parts by their numbers. -/
inductive Draft where
  | plain (value : Value)
  | list (items : List Draft)
  | map (entries : List (Value × Draft))
  | alias (part : Nat)

instance : Inhabited Draft := ⟨.plain .null⟩

/-- The named parts in order, each of which may refer to those before it, and the whole. -/
structure Document where
  parts : List Draft
  root : Draft

namespace Draft
open Settings

mutual

/-- The tree of a part, given those of the parts that it refers to. -/
def tree (stage : Nat) (known : List Tree) (place : List Nat) : Draft → Tree
  | .plain value => .ofValue stage place value
  | .list items => .list ⟨stage, place⟩ (itemTrees stage known place items)
  | .map entries => .map ⟨stage, place⟩ (entryTrees stage known place entries)
  | .alias part => known.getD part .null

def itemTrees (stage : Nat) (known : List Tree) (place : List Nat) : List Draft → List Tree
  | [] => []
  | draft :: rest =>
      tree stage known (rest.length :: place) draft :: itemTrees stage known place rest

def entryTrees (stage : Nat) (known : List Tree) (place : List Nat) :
    List (Value × Draft) → List (Value × Tree)
  | [] => []
  | (key, draft) :: rest =>
      (key, tree stage known (rest.length :: place) draft) :: entryTrees stage known place rest

end

end Draft

namespace Document
open Settings

/-- The trees of the named parts, each made in a stage of its own. -/
def partTrees (stage : Nat) (parts : List Draft) : List Tree :=
  parts.foldl (fun known draft => known ++ [draft.tree (stage + known.length) known []]) []

/-- The tree of a document, made in stages from a given one on. -/
def tree (stage : Nat) (document : Document) : Tree :=
  let known := partTrees stage document.parts
  document.root.tree (stage + known.length) known []

/-- The value that the document describes. -/
def value (document : Document) : Value := (document.tree 0).value

/-- A document in which nothing is named. -/
def ofValue (value : Value) : Document := ⟨[], .plain value⟩

/-- The value of a document that may be missing or malformed. A default takes its place, and also
that of null, unless missing and malformed documents are refused. -/
def readOr (read : String → Except Fault Document) (otherwise : Value) (refusing : Bool)
    (file : String) : Option String → Except Fault Value
  | none => if refusing then .error (.noFile ("File not found: " ++ file)) else .ok otherwise
  | some text =>
      match (read text).map value with
      | .ok .null => .ok otherwise
      | .ok value => .ok value
      | .error .malformedDocument => if refusing then .error .malformedDocument else .ok otherwise
      | .error fault => .error fault

end Document
end Stencil
