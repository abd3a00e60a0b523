import Mathlib.Data.List.Nodup
import Stencil.Proofs.Settings.Precedence
import Stencil.Proofs.Settings.Relevance

set_option autoImplicit false

/-!
What loading does not see: the order in which files and variables are listed, files that are no
documents, and variables without the mark. As no two files of a folder have one name, and no two
variables, the order of names is the only one they can be put in.
-/

namespace Stencil.Settings

section Ordering

variable {α : Type} {name : α → String} {items others ordered : List α} {a b : α}

/-- No two items have one name. -/
def AreNamedApart (name : α → String) (items : List α) : Prop := (items.map name).Nodup

theorem AreNamedApart.eq (apart : AreNamedApart name items) (member : a ∈ items)
    (other : b ∈ items) (same : name a = name b) : a = b :=
  List.inj_on_of_nodup_map apart member other same

theorem AreNamedApart.filter (apart : AreNamedApart name items) (chosen : α → Bool) :
    AreNamedApart name (items.filter chosen) :=
  List.Nodup.sublist (List.Sublist.map name List.filter_sublist) apart

/-- There is only one order of names. -/
theorem InNameOrder.eq_mergeSort (inOrder : InNameOrder name items ordered)
    (apart : AreNamedApart name items) (perm : others.Perm items) :
    ordered = others.mergeSort fun a b => decide (name a ≤ name b) := by
  have sorted := inNameOrder_mergeSort name others
  apply List.Perm.eq_of_pairwise _ inOrder.sorted sorted.sorted
  · exact inOrder.perm.trans (perm.symm.trans sorted.perm.symm)
  · intro a b member other less more
    apply apart.eq (inOrder.perm.mem_iff.mp member)
    · exact perm.mem_iff.mp (sorted.perm.mem_iff.mp other)
    · exact String.le_antisymm less more

/-- The same items, however listed, are put in the same order. -/
theorem mergeSort_filter_congr (chosen : α → Bool) (apart : AreNamedApart name items)
    (otherApart : AreNamedApart name others)
    (same : ∀ item, chosen item = true → (item ∈ items ↔ item ∈ others)) :
    (items.filter chosen).mergeSort (fun a b => decide (name a ≤ name b)) =
      (others.filter chosen).mergeSort fun a b => decide (name a ≤ name b) := by
  have members : ∀ item, item ∈ others.filter chosen ↔ item ∈ items.filter chosen := by
    intro item
    rw [List.mem_filter, List.mem_filter]
    constructor
    · rintro ⟨member, isChosen⟩
      exact ⟨(same item isChosen).mpr member, isChosen⟩
    · rintro ⟨member, isChosen⟩
      exact ⟨(same item isChosen).mp member, isChosen⟩
  have left := apart.filter chosen
  have right := otherApart.filter chosen
  apply (inNameOrder_mergeSort name _).eq_mergeSort left
  exact (List.perm_ext_iff_of_nodup right.of_map left.of_map).mpr members

end Ordering

variable {loader : Loader} {project other : Option Folder} {environment others : Environment}

theorem layers_congr
    (same : Folder.documents (project.getD []) = Folder.documents (other.getD [])) :
    layers loader project = layers loader other := by
  have listed (project : Option Folder) :
      layers loader project = layers loader (some (project.getD [])) := by
    cases project with
    | none => simp [layers, Folder.merge, Folder.documents, Except.mapError, pure, Except.pure]
    | some folder => rfl
  rw [listed project, listed other, layers, layers, Folder.merge, Folder.merge, same]

theorem load_of_layers (options : LoadOptions) (same : layers loader project = layers loader other)
    (environment : Environment) :
    load loader options project environment = load loader options other environment := by
  simp only [load, same]

/-- Where the documents are the same and the variables with the mark are the same, loading ends the
same way. -/
theorem load_eq_of_same_sources (loader : Loader) (options : LoadOptions)
    (files : AreNamedApart FolderItem.name (project.getD []))
    (otherFiles : AreNamedApart FolderItem.name (other.getD []))
    (documents : ∀ item, Folder.isDocument item = true →
      (item ∈ project.getD [] ↔ item ∈ other.getD []))
    (names : AreNamedApart Variable.name environment)
    (otherNames : AreNamedApart Variable.name others)
    (marked : ∀ v : Variable, v.path?.isSome = true → (v ∈ environment ↔ v ∈ others)) :
    load loader options project environment = load loader options other others := by
  have sameDocuments := mergeSort_filter_congr Folder.isDocument files otherFiles documents
  have sameVariables : others.relevant = environment.relevant :=
    (mergeSort_filter_congr (fun v : Variable => v.path?.isSome) names otherNames marked).symm
  rw [load_of_layers options (layers_congr sameDocuments), load_congr sameVariables]

/-! The project of the card, listed in another order and with more in its folder and around it. -/

def crowdedFolder : Folder :=
  [⟨"notes.txt", some "- [unclosed"⟩, cardEscape, ⟨"old.yaml", none⟩, cardPage]

def crowdedVariables : Environment := ⟨"PAGE__TITLE", "Draft"⟩ :: cardVariables.reverse

theorem load_of_crowded :
    AreNamedApart FolderItem.name [cardPage, cardEscape] ∧
      AreNamedApart FolderItem.name crowdedFolder ∧
      (∀ item, Folder.isDocument item = true →
        (item ∈ [cardPage, cardEscape] ↔ item ∈ crowdedFolder)) ∧
      AreNamedApart Variable.name cardVariables ∧ AreNamedApart Variable.name crowdedVariables ∧
      (∀ v : Variable, v.path?.isSome = true → (v ∈ cardVariables ↔ v ∈ crowdedVariables)) ∧
      load .standard ⟨false, true⟩ (some crowdedFolder) crowdedVariables =
        .ok (cardBase.assignAll [cardTags, cardTitle]) := by
  have files : AreNamedApart FolderItem.name [cardPage, cardEscape] := by
    simp [AreNamedApart, cardPage, cardEscape]
  have crowded : AreNamedApart FolderItem.name crowdedFolder := by
    simp [AreNamedApart, crowdedFolder, cardPage, cardEscape]
  have documents : ∀ item, Folder.isDocument item = true →
      (item ∈ [cardPage, cardEscape] ↔ item ∈ crowdedFolder) := by
    intro item isDocument
    have notes : item ≠ ⟨"notes.txt", some "- [unclosed"⟩ := by
      rintro rfl
      revert isDocument
      decide
    have old : item ≠ ⟨"old.yaml", none⟩ := by
      rintro rfl
      revert isDocument
      decide
    simp only [crowdedFolder, List.mem_cons, List.not_mem_nil, or_false, notes, old, false_or]
    exact or_comm
  have names : AreNamedApart Variable.name cardVariables := by
    simp [AreNamedApart, cardVariables]
  have crowdedNames : AreNamedApart Variable.name crowdedVariables := by
    simp [AreNamedApart, crowdedVariables, cardVariables]
  have marked : ∀ v : Variable, v.path?.isSome = true →
      (v ∈ cardVariables ↔ v ∈ crowdedVariables) := by
    intro v isMarked
    have unmarked : v ≠ ⟨"PAGE__TITLE", "Draft"⟩ := by
      rintro rfl
      revert isMarked
      decide
    simp [crowdedVariables, unmarked]
  have same : load .standard ⟨false, true⟩ (some [cardPage, cardEscape]) cardVariables =
      load .standard ⟨false, true⟩ (some crowdedFolder) crowdedVariables :=
    load_eq_of_same_sources _ _ files crowded documents names crowdedNames marked
  exact ⟨files, crowded, documents, names, crowdedNames, marked, same.symm.trans load_card⟩

end Stencil.Settings
