import Stencil.Document.Folder
import Stencil.Proofs.Resolve.Agreement
import Stencil.Proofs.Settings.Grounding

set_option autoImplicit false

/-!
Documents as layers of settings. A document shows the same value in whatever stage its tree is made,
laying it over settings merges what both show, and no list or map comes to stand in itself.
-/

namespace Stencil

namespace Draft
open Settings

mutual

/-- What a draft shows does not depend on the stage, nor on what other trees that show the same are
known. -/
theorem value_tree {known others : List Tree} (same : known.map Tree.value = others.map Tree.value)
    (stage stage' : Nat) : ∀ (draft : Draft) (place place' : List Nat),
    (draft.tree stage known place).value = (draft.tree stage' others place').value
  | .plain value, place, place' => by rw [tree, tree, Tree.value_ofValue, Tree.value_ofValue]
  | .list items, place, place' => by
      rw [tree, tree, Tree.value, Tree.value, values_itemTrees same stage stage' items]
  | .map entries, place, place' => by
      rw [tree, tree, Tree.value, Tree.value, entryValues_entryTrees same stage stage' entries]
  | .alias part, place, place' => by
      rw [tree, tree, List.getD_eq_getElem?_getD, List.getD_eq_getElem?_getD,
        ← Option.getD_map Tree.value, ← Option.getD_map Tree.value, ← List.getElem?_map, same,
        List.getElem?_map]

theorem values_itemTrees {known others : List Tree}
    (same : known.map Tree.value = others.map Tree.value) (stage stage' : Nat) :
    ∀ (items : List Draft) (place place' : List Nat),
    Tree.values (itemTrees stage known place items) =
      Tree.values (itemTrees stage' others place' items)
  | [], _, _ => rfl
  | draft :: rest, place, place' => by
      rw [itemTrees, itemTrees, Tree.values, Tree.values, value_tree same stage stage' draft,
        values_itemTrees same stage stage' rest]

theorem entryValues_entryTrees {known others : List Tree}
    (same : known.map Tree.value = others.map Tree.value) (stage stage' : Nat) :
    ∀ (entries : List (Value × Draft)) (place place' : List Nat),
    Tree.entryValues (entryTrees stage known place entries) =
      Tree.entryValues (entryTrees stage' others place' entries)
  | [], _, _ => rfl
  | (key, draft) :: rest, place, place' => by
      rw [entryTrees, entryTrees, Tree.entryValues, Tree.entryValues,
        value_tree same stage stage' draft, entryValues_entryTrees same stage stage' rest]

end

mutual

/-- A draft is built of the known parts, which are older. -/
theorem built_tree {stage : Nat} {known : List Tree}
    (older : ∀ tree ∈ known, tree.Grounded ∧ ∀ origin ∈ tree.origins, origin.stage < stage) :
    ∀ (draft : Draft) (place : List Nat), Tree.Built stage place.length (draft.tree stage known place)
  | .plain value, place => Tree.built_ofValue stage value place
  | .list items, place => Tree.built_list (built_itemTrees older items place)
  | .map entries, place => Tree.built_map (built_entryTrees older entries place)
  | .alias part, place => by
      rw [tree, List.getD_eq_getElem?_getD]
      cases found : known[part]? with
      | none => exact Tree.built_leaf .null rfl
      | some part =>
          have ⟨grounded, before⟩ := older part (List.mem_of_getElem? found)
          exact grounded.built before

theorem built_itemTrees {stage : Nat} {known : List Tree}
    (older : ∀ tree ∈ known, tree.Grounded ∧ ∀ origin ∈ tree.origins, origin.stage < stage) :
    ∀ (items : List Draft) (place : List Nat),
    ∀ item ∈ itemTrees stage known place items, Tree.Built stage (place.length + 1) item
  | [], _ => nofun
  | draft :: rest, place => by
      rw [itemTrees, List.forall_mem_cons]
      exact ⟨built_tree older draft (rest.length :: place), built_itemTrees older rest place⟩

theorem built_entryTrees {stage : Nat} {known : List Tree}
    (older : ∀ tree ∈ known, tree.Grounded ∧ ∀ origin ∈ tree.origins, origin.stage < stage) :
    ∀ (entries : List (Value × Draft)) (place : List Nat),
    ∀ entry ∈ entryTrees stage known place entries, Tree.Built stage (place.length + 1) entry.2
  | [], _ => nofun
  | (key, draft) :: rest, place => by
      rw [entryTrees, List.forall_mem_cons]
      exact ⟨built_tree older draft (rest.length :: place), built_entryTrees older rest place⟩

end

end Draft

namespace Document
open Settings

theorem partTrees_concat (stage : Nat) (parts : List Draft) (draft : Draft) :
    partTrees stage (parts ++ [draft]) = partTrees stage parts ++
      [draft.tree (stage + (partTrees stage parts).length) (partTrees stage parts) []] := by
  rw [partTrees, List.foldl_append]
  rfl

theorem map_value_partTrees (stage stage' : Nat) (parts : List Draft) :
    (partTrees stage parts).map Tree.value = (partTrees stage' parts).map Tree.value := by
  induction parts using List.reverseRecOn with
  | nil => rfl
  | append_singleton parts draft inductionHypothesis =>
      rw [partTrees_concat, partTrees_concat, List.map_append, List.map_append, inductionHypothesis,
        List.map_singleton, List.map_singleton, Draft.value_tree inductionHypothesis]

/-- A document shows the same in all stages. -/
theorem value_tree (document : Document) (stage : Nat) : (document.tree stage).value = document.value :=
  Draft.value_tree (map_value_partTrees stage 0 document.parts) _ _ document.root [] []

theorem grounded_partTrees (stage : Nat) (parts : List Draft) :
    ∀ tree ∈ partTrees stage parts, tree.Grounded ∧
      ∀ origin ∈ tree.origins, origin.stage < stage + (partTrees stage parts).length := by
  induction parts using List.reverseRecOn with
  | nil => nofun
  | append_singleton parts draft inductionHypothesis =>
      rw [partTrees_concat]
      intro tree member
      rw [List.length_append, List.length_singleton]
      rcases List.mem_append.mp member with known | new
      · have ⟨grounded, older⟩ := inductionHypothesis tree known
        exact ⟨grounded, fun origin inside => (older origin inside).trans (Nat.lt_succ_self _)⟩
      · obtain rfl := List.mem_singleton.mp new
        have built := Draft.built_tree inductionHypothesis draft []
        refine ⟨built.grounded, fun origin inside => ?_⟩
        have made := built.made origin inside
        omega

theorem grounded_tree (document : Document) (stage : Nat) : (document.tree stage).Grounded :=
  (Draft.built_tree (grounded_partTrees stage document.parts) document.root []).grounded

end Document

namespace Folder
open Settings

variable {read : String → Except Fault Document} {base next : Tree} {item : FolderItem}
  {below : List (Value × Value)}

/-- The entries that a document adds to those below it. -/
def readEntries (read : String → Except Fault Document) (item : FolderItem) :
    Except Fault (List (Value × Value)) := do
  entriesOf (← read (item.text.getD "")).value

theorem entryValues_entryTreesOf (stage : Nat) (tree : Tree) :
    (entryTreesOf stage tree).map Tree.entryValues = entriesOf tree.value := by
  unfold entryTreesOf entriesOf
  split
  next =>
    cases tree with
    | list | map => rfl
    | leaf own plain =>
        cases own with
        | list | map => cases plain
        | object cls name shape =>
            cases shape with
            | mapping entries => exact congrArg Except.ok (Tree.entryValues_ofEntries stage entries [])
            | _ => rfl
        | _ => rfl
  next => rfl

theorem built_of_entryTreesOf {stage : Nat} {tree : Tree} {upper : List (Value × Tree)}
    (grounded : tree.Grounded) (older : ∀ origin ∈ tree.origins, origin.stage < stage)
    (made : entryTreesOf stage tree = .ok upper) :
    ∀ entry ∈ upper, Tree.Built stage 1 entry.2 := by
  unfold entryTreesOf at made
  split at made
  · split at made
    next origin entries =>
      cases made
      exact (grounded.built older : Tree.Built stage 0 _).entries
    next =>
      cases made
      exact Tree.built_ofEntries stage _ []
    next => cases made
  · cases made
    nofun

theorem value_overlaid (stage : Nat) (upper : List (Value × Tree)) (shown : base.value = .map below) :
    (base.overlaid stage upper).value = .map (mergeEntries below (Tree.entryValues upper)) := by
  obtain ⟨origin, entries, rfl, rfl⟩ := Tree.exists_eq_map_of_value shown
  exact congrArg Value.map (Tree.entryValues_mergeEntries stage upper entries [])

/-- Laying a document over settings merges what both show. -/
theorem exists_of_mergeDocument (shown : base.value = .map below) (grounded : base.Grounded)
    (merged : mergeDocument read base item = .ok next) :
    ∃ entries, readEntries read item = .ok entries ∧
      next.value = .map (mergeEntries below entries) ∧ next.Grounded := by
  obtain ⟨document, described, merged⟩ := exists_of_bind_eq_ok merged
  obtain ⟨upper, added, merged⟩ := exists_of_bind_eq_ok merged
  cases merged
  refine ⟨Tree.entryValues upper, ?_, value_overlaid _ upper shown, ?_⟩
  · have shows := entryValues_entryTreesOf (max base.nextStage (document.tree base.nextStage).nextStage)
      (document.tree base.nextStage)
    rw [document.value_tree, added] at shows
    rw [readEntries, described]
    exact shows.symm
  · have above := built_of_entryTreesOf (document.grounded_tree base.nextStage)
      (fun origin inside =>
        (Tree.stage_lt_nextStage _ origin inside).trans_le (Nat.le_max_right _ _)) added
    refine ((grounded.built fun origin inside => ?_).overlaid above).grounded
    exact (base.stage_lt_nextStage origin inside).trans_le (Nat.le_max_left _ _)

/-- Laying documents over settings merges what each of them adds, in order. -/
theorem exists_of_foldlM_mergeDocument {files : List FolderItem}
    (shown : base.value = .map below) (grounded : base.Grounded)
    (merged : files.foldlM (mergeDocument read) base = .ok next) :
    ∃ documents, files.mapM (readEntries read) = .ok documents ∧
      next.value = .map (documents.foldl mergeEntries below) ∧ next.Grounded := by
  induction files generalizing base below with
  | nil =>
      cases merged
      exact ⟨[], rfl, shown, grounded⟩
  | cons file rest inductionHypothesis =>
      rw [List.foldlM_cons] at merged
      obtain ⟨middle, first, others⟩ := exists_of_bind_eq_ok merged
      obtain ⟨entries, own, shown, grounded⟩ := exists_of_mergeDocument shown grounded first
      obtain ⟨documents, read, shown, grounded⟩ := inductionHypothesis shown grounded others
      refine ⟨entries :: documents, ?_, shown, grounded⟩
      rw [List.mapM_cons, own, read]
      rfl

end Folder
end Stencil
