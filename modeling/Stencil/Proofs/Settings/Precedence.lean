import Stencil.Proofs.Document.Layers
import Stencil.Proofs.Document.Reading
import Stencil.Proofs.Settings.Overriding
import Stencil.Settings.Standard

set_option autoImplicit false

/-!
Which source of settings wins. The documents of a project are laid over the bundled settings in the
order of their names, and the overrides of the environment over both in the order of theirs. An
override holds unless a later one goes to its place, above it or below it; where no override does,
the documents hold. A document in which a part stands at several places may let an override show at
the others too.
-/

namespace Stencil.Settings

/-- The same items in the order of their names. -/
structure InNameOrder {α : Type} (name : α → String) (items ordered : List α) : Prop where
  perm : ordered.Perm items
  sorted : ordered.Pairwise fun a b => name a ≤ name b

theorem inNameOrder_mergeSort {α : Type} (name : α → String) (items : List α) :
    InNameOrder name items (items.mergeSort fun a b => decide (name a ≤ name b)) := by
  have sorted : (items.mergeSort fun a b => decide (name a ≤ name b)).Pairwise
      fun a b => decide (name a ≤ name b) :=
    List.pairwise_mergeSort (fun _ _ _ => by simpa using String.le_trans)
      (fun a b => by simpa using String.le_total (name a) (name b)) items
  exact ⟨List.mergeSort_perm _ _, by simpa using sorted⟩

/-- The documents of a project, none if there is no project. -/
def documentFiles (project : Option Folder) : List FolderItem :=
  project.elim [] (List.filter Folder.isDocument)

/-- The bundled settings with documents over them, each laid over those before it. -/
def layered (documents : List (List (Value × Value))) : Value :=
  .map ((defaults :: documents).foldl mergeEntries [])

theorem layered_eq (documents : List (List (Value × Value))) :
    layered documents = .map (documents.foldl mergeEntries defaults) := rfl

theorem grounded_bundled : bundled.Grounded := (Tree.built_ofValue 0 (.map defaults) []).grounded

variable {loader : Loader} {strict : Bool} {project : Option Folder} {environment : Environment}
  {base settings : Tree} {overrides : List Override}

theorem exists_of_layers (merged : layers loader project = .ok base) :
    ∃ files documents, InNameOrder FolderItem.name (documentFiles project) files ∧
      files.mapM (Folder.readEntries loader.read) = .ok documents ∧
      base.value = layered documents ∧ base.Grounded := by
  cases project with
  | none =>
      cases merged
      exact ⟨[], [], ⟨.refl _, .nil⟩, rfl, Tree.value_ofValue 0 _ [], grounded_bundled⟩
  | some folder =>
      rw [layers] at merged
      cases folded : folder.merge loader.read bundled with
      | error fault =>
          rw [folded] at merged
          cases merged
      | ok own =>
          rw [folded] at merged
          cases merged
          obtain ⟨documents, read, shown, grounded⟩ :=
            Folder.exists_of_foldlM_mergeDocument (Tree.value_ofValue 0 _ []) grounded_bundled folded
          exact ⟨folder.documents, documents, inNameOrder_mergeSort FolderItem.name _, read,
            shown.trans (layered_eq documents).symm, grounded⟩

/-- Settings that are loaded without a check come from their sources by assignments. -/
theorem exists_of_load (loaded : load loader ⟨false, strict⟩ project environment = .ok settings) :
    ∃ base overrides, layers loader project = .ok base ∧
      readOverrides strict environment.ordered = .ok overrides ∧
      AssignsAll overrides base settings := by
  rw [load] at loaded
  obtain ⟨base, merged, loaded⟩ := exists_of_bind_eq_ok loaded
  cases stopped : (applyEnvironment strict base environment).fault with
  | some fault =>
      simp only [stopped] at loaded
      cases loaded
  | none =>
      obtain ⟨overrides, asked, assigns⟩ := assignsAll_of_applyVariables stopped
      simp only [stopped] at loaded
      cases loaded
      exact ⟨base, overrides, merged, asked, assigns⟩

def cardPage : FolderItem :=
  ⟨"page.yaml", some "\x7b\"page\":\x7b\"title\":\"Menu\",\"tags\":[\"new\"]\x7d\x7d"⟩

def cardEscape : FolderItem := ⟨"escape.yml", some "\x7b\"rendering\":\x7b\"escape\":\"none\"\x7d\x7d"⟩

def cardVariables : Environment :=
  [⟨"WHISKER_PAGE__TITLE", "Card"⟩, ⟨"HOME", "/"⟩, ⟨"WHISKER_PAGE__TAGS__2", "7"⟩]

theorem documents_card :
    Folder.documents [cardPage, cardEscape] = [cardEscape, cardPage] := by
  have kept : List.filter Folder.isDocument [cardPage, cardEscape] = [cardPage, cardEscape] := rfl
  rw [Folder.documents, kept]
  simp [cardPage, cardEscape, List.mergeSort]

theorem ordered_card : cardVariables.ordered =
    [⟨"HOME", "/"⟩, ⟨"WHISKER_PAGE__TAGS__2", "7"⟩, ⟨"WHISKER_PAGE__TITLE", "Card"⟩] := by
  simp [Environment.ordered, cardVariables, List.mergeSort]

theorem read_cardPage : Document.read (cardPage.text.getD "") = .ok ⟨[], .map
    [(.text "page", .map [(.text "title", .plain (.text "Menu")),
      (.text "tags", .list [.plain (.text "new")])])]⟩ :=
  Document.read_of_takeDraft .none rfl rfl

theorem read_cardEscape : Document.read (cardEscape.text.getD "") = .ok ⟨[], .map
    [(.text "rendering", .map [(.text "escape", .plain (.text "none"))])]⟩ :=
  Document.read_of_takeDraft .none rfl rfl

/-- The bundled settings with the first document over them. -/
def cardRendering : Tree :=
  bundled.overlaid 2
    [(.text "rendering", .map ⟨1, [0]⟩ [(.text "escape", .ofValue 1 [] (.text "none"))])]

/-- All that the documents set. -/
def cardBase : Tree :=
  cardRendering.overlaid 4
    [(.text "page", .map ⟨3, [0]⟩ [(.text "title", .ofValue 3 [] (.text "Menu")),
      (.text "tags", .list ⟨3, [0, 0]⟩ [.ofValue 3 [] (.text "new")])])]

theorem mergeDocument_cardEscape :
    Folder.mergeDocument Document.read bundled cardEscape = .ok cardRendering := by
  rw [Folder.mergeDocument, read_cardEscape]
  rfl

theorem mergeDocument_cardPage :
    Folder.mergeDocument Document.read cardRendering cardPage = .ok cardBase := by
  rw [Folder.mergeDocument, read_cardPage]
  rfl

theorem layers_card : layers .standard (some [cardPage, cardEscape]) = .ok cardBase := by
  simp only [layers, Folder.merge, documents_card, List.foldlM_cons, List.foldlM_nil,
    Loader.standard, bind, Except.bind, mergeDocument_cardEscape, mergeDocument_cardPage]
  rfl

def cardTags : Override := ⟨"PAGE__TAGS__2", [.key "page", .key "tags", .index 2], .int 7⟩

def cardTitle : Override := ⟨"PAGE__TITLE", [.key "page", .key "title"], .text "Card"⟩

theorem override?_cardTags : Variable.override? true ⟨"WHISKER_PAGE__TAGS__2", "7"⟩ =
    .ok (some cardTags) := rfl

theorem override?_cardTitle : Variable.override? true ⟨"WHISKER_PAGE__TITLE", "Card"⟩ =
    .ok (some cardTitle) := rfl

theorem load_card : load .standard ⟨false, true⟩ (some [cardPage, cardEscape]) cardVariables =
    .ok (cardBase.assignAll [cardTags, cardTitle]) := by
  have other : Variable.override? true ⟨"HOME", "/"⟩ = .ok none := rfl
  simp only [load, layers_card, bind, Except.bind, applyEnvironment, ordered_card, applyVariables,
    other, override?_cardTags, override?_cardTitle, applyOverride]
  rfl

end Stencil.Settings
