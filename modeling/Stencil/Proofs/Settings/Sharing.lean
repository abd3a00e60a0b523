import Stencil.Proofs.Settings.Placement
import Stencil.Proofs.Settings.Tree

set_option autoImplicit false

/-!
What a change of a single list or map shows in a tree. Wherever that list or map stands, the changed
entry is what the change puts there; all other entries stay, and what does not have the list or map
in it stays as it is.
-/

namespace Stencil.Settings.Tree

/-- What a step leads to: the entry of a map under a text or a number, or an item of a list. -/
def enter? : Tree → Step → Option Tree
  | .map _ entries, .key name => Value.entry? name entries
  | .map _ entries, .index number => Value.lookup? (.int number) entries
  | .list _ items, .index position => items[position]?
  | _, _ => none

def reach? : Tree → Path → Option Tree
  | tree, [] => some tree
  | tree, step :: rest => (enter? tree step).bind fun inner => reach? inner rest

/-- The list or map that stands at a place. -/
def originAt? (tree : Tree) (place : Path) : Option Origin := (tree.reach? place).bind origin?

variable {tree inner found former : Tree} {change : Change} {step : Step} {place front rest : Path}
  {origin : Origin}

theorem reach?_cons (tree : Tree) (step : Step) (rest : Path) :
    tree.reach? (step :: rest) = (tree.enter? step).bind fun inner => inner.reach? rest := rfl

theorem reach?_append (tree : Tree) (front rest : Path) :
    tree.reach? (front ++ rest) = (tree.reach? front).bind fun inner => inner.reach? rest := by
  induction front generalizing tree with
  | nil => rfl
  | cons step others inductionHypothesis =>
      rw [List.cons_append, reach?_cons, reach?_cons, Option.bind_assoc]
      exact congrArg (Option.bind _) (funext inductionHypothesis)

/-! The value that a tree shows is reached by the same places. -/

theorem enter?_value (tree : Tree) (step : Step) :
    Settings.enter? tree.value step = (tree.enter? step).map value := by
  cases tree with
  | leaf own plain => cases own <;> cases step <;> first | rfl | cases plain
  | list origin items =>
      cases step with
      | key name => rfl
      | index position =>
          rw [value, values_eq_map]
          exact List.getElem?_map
  | map origin entries =>
      cases step with
      | key name => exact entry?_entryValues name entries
      | index number => exact lookup?_entryValues (.int number) entries

theorem reach?_value (tree : Tree) (place : Path) :
    Settings.reach? tree.value place = (tree.reach? place).map value := by
  induction place generalizing tree with
  | nil => rfl
  | cons step rest inductionHypothesis =>
      rw [Settings.reach?_cons, reach?_cons, enter?_value, Option.map_bind, Option.bind_map]
      exact congrArg (Option.bind _) (funext inductionHypothesis)

/-! What a change shows in a single list or map. -/

theorem applyItems_eq_map (change : Change) (items : List Tree) :
    applyItems change items = items.map (apply change) := by
  induction items with
  | nil => rfl
  | cons item rest inductionHypothesis => rw [applyItems, inductionHypothesis, List.map_cons]

theorem applyEntries_eq_map (change : Change) (entries : List (Value × Tree)) :
    applyEntries change entries = entries.map fun entry => (entry.1, apply change entry.2) := by
  induction entries with
  | nil => rfl
  | cons entry rest inductionHypothesis =>
      obtain ⟨key, tree⟩ := entry
      rw [applyEntries, inductionHypothesis, List.map_cons]

@[simp] theorem origin?_apply (change : Change) (tree : Tree) :
    (tree.apply change).origin? = tree.origin? := by
  cases tree <;> rw [apply] <;> rfl

theorem enter?_applied_list (change : Change) (origin : Origin) (items : List Tree)
    (position : Nat) :
    (list origin (items.map (apply change))).enter? (.index position) =
      ((list origin items).enter? (.index position)).map (apply change) := List.getElem?_map

theorem enter?_applied_map (change : Change) (origin : Origin) (entries : List (Value × Tree))
    (step : Step) :
    (map origin (entries.map fun entry => (entry.1, apply change entry.2))).enter? step =
      ((map origin entries).enter? step).map (apply change) := by
  cases step with
  | key name => exact Value.entry?_map _ name entries
  | index number => exact Value.lookup?_map _ (.int number) entries

theorem enter?_putEntry_of_ne {name : String} {entries : List (Value × Tree)}
    (apart : step ≠ .key name) :
    (map origin (Value.putEntry name tree entries)).enter? step = (map origin entries).enter? step := by
  cases step with
  | key own =>
      have other : own ≠ name := by
        rintro rfl
        exact apart rfl
      exact Value.entry?_putEntry_of_ne other tree
  | index number => exact lookup?_putEntry_of_not (equals_text_int name number)

/-- A step that is not the changed one of the changed list or map leads to the same entry, with the
change in it. -/
theorem enter?_apply_of_apart
    (apart : tree.origin? = some change.origin → step ≠ change.step)
    (there : tree.enter? step = some found) :
    (tree.apply change).enter? step = some (found.apply change) := by
  cases tree with
  | leaf => cases there
  | list origin items =>
      cases step with
      | key => cases there
      | index position =>
          have kept := enter?_applied_list change origin items position
          rw [there] at kept
          rw [apply, applyItems_eq_map]
          split
          next own =>
            have moved := apart (congrArg some own)
            unfold Change.items
            split
            next changed same =>
              have other : position ≠ changed := by
                rintro rfl
                exact moved same.symm
              exact getElem?_putItem_of_ne other kept
            next => exact kept
          next => exact kept
  | map origin entries =>
      have kept := enter?_applied_map change origin entries step
      rw [there] at kept
      rw [apply, applyEntries_eq_map]
      split
      next own =>
        have moved := apart (congrArg some own)
        unfold Change.entries
        split
        next name same => rwa [enter?_putEntry_of_ne (same ▸ moved)]
        next => exact kept
      next => exact kept

theorem enter?_apply_self (own : tree.origin? = some change.origin)
    (suits : change.step.Suits tree.value) :
    (tree.apply change).enter? change.step = some change.tree := by
  cases tree with
  | leaf => cases own
  | list origin items =>
      cases step : change.step with
      | key name =>
          rw [step] at suits
          cases suits
      | index position =>
          rw [apply, if_pos (Option.some.inj own), Change.items, step]
          exact getElem?_putItem_self _ _ position _
  | map origin entries =>
      cases step : change.step with
      | key name =>
          rw [apply, if_pos (Option.some.inj own), Change.entries, step]
          exact Value.entry?_putEntry_self _
      | index position =>
          rw [step] at suits
          cases suits

theorem exists_former (kept : (tree.enter? step).map (apply change) = some found) :
    ∃ former, tree.enter? step = some former ∧ found = former.apply change := by
  obtain ⟨former, there, rfl⟩ := Option.map_eq_some_iff.mp kept
  exact ⟨former, there, rfl⟩

/-- What is new in a list or map: the changed entry, and the nulls before a position. -/
theorem enter?_of_apply (there : (tree.apply change).enter? step = some found) :
    (∃ former, tree.enter? step = some former ∧ found = former.apply change) ∨
      tree.origin? = some change.origin ∧
        (step = change.step ∧ found = change.tree ∨
          ∃ position lower, change.step = .index position ∧ step = .index lower ∧
            lower < position ∧ found = null) := by
  cases tree with
  | leaf =>
      rw [apply] at there
      cases there
  | list origin items =>
      cases step with
      | key => cases there
      | index position =>
          have kept := enter?_applied_list change origin items position
          rw [apply, applyItems_eq_map] at there
          split at there
          next own =>
            unfold Change.items at there
            split at there
            next changed same =>
              by_cases here : position = changed
              · subst here
                have put : some change.tree = some found :=
                  (getElem?_putItem_self _ _ position _).symm.trans there
                exact .inr ⟨congrArg some own, .inl ⟨same.symm, (Option.some.inj put).symm⟩⟩
              · rcases getElem?_of_putItem here there with unchanged | ⟨lower, padded⟩
                · exact .inl (exists_former (kept.symm.trans unchanged))
                · exact .inr ⟨congrArg some own, .inr ⟨changed, position, same, rfl, lower, padded⟩⟩
            next => exact .inl (exists_former (kept.symm.trans there))
          next => exact .inl (exists_former (kept.symm.trans there))
  | map origin entries =>
      have kept := enter?_applied_map change origin entries step
      rw [apply, applyEntries_eq_map] at there
      split at there
      next own =>
        unfold Change.entries at there
        split at there
        next name same =>
          by_cases here : step = .key name
          · subst here
            have put : some change.tree = some found :=
              (Value.entry?_putEntry_self _).symm.trans there
            exact .inr ⟨congrArg some own, .inl ⟨same.symm, (Option.some.inj put).symm⟩⟩
          · rw [enter?_putEntry_of_ne here] at there
            exact .inl (exists_former (kept.symm.trans there))
        next => exact .inl (exists_former (kept.symm.trans there))
      next => exact .inl (exists_former (kept.symm.trans there))

/-! What a change shows at a place. -/

theorem originAt?_cons (there : tree.enter? step = some inner) (place : Path) :
    tree.originAt? (step :: place) = inner.originAt? place := by
  rw [originAt?, reach?_cons, there, Option.bind_some, originAt?]

/-- A way on which the changed entry of the list or map is not gone through leads where it led. -/
theorem reach?_apply_of_apart
    (apart : ∀ front, front ++ [change.step] <+: place → tree.originAt? front ≠ some change.origin)
    (there : tree.reach? place = some found) :
    (tree.apply change).reach? place = some (found.apply change) := by
  induction place generalizing tree with
  | nil =>
      cases there
      rfl
  | cons step rest inductionHypothesis =>
      obtain ⟨inner, here, inside⟩ := Option.bind_eq_some_iff.mp there
      have moved : tree.origin? = some change.origin → step ≠ change.step := by
        rintro own rfl
        exact apart [] (List.prefix_append [_] rest) own
      rw [reach?_cons, enter?_apply_of_apart moved here, Option.bind_some]
      refine inductionHypothesis (fun front within own => ?_) inside
      refine apart (step :: front) (List.cons_prefix_cons.mpr ⟨rfl, within⟩) ?_
      rw [originAt?_cons here, own]

mutual

/-- Where the changed list or map does not stand, nothing changes. -/
theorem apply_eq_self : ∀ {tree : Tree}, change.origin ∉ tree.origins → tree.apply change = tree
  | .leaf .., _ => by rw [apply]
  | .list origin items, absent => by
      rw [origins, List.mem_cons, not_or] at absent
      rw [apply, if_neg (Ne.symm absent.1), applyItems_eq_self absent.2]
  | .map origin entries, absent => by
      rw [origins, List.mem_cons, not_or] at absent
      rw [apply, if_neg (Ne.symm absent.1), applyEntries_eq_self absent.2]

theorem applyItems_eq_self : ∀ {items : List Tree}, change.origin ∉ itemOrigins items →
    applyItems change items = items
  | [], _ => rfl
  | tree :: rest, absent => by
      rw [itemOrigins, List.mem_append, not_or] at absent
      rw [applyItems, apply_eq_self absent.1, applyItems_eq_self absent.2]

theorem applyEntries_eq_self : ∀ {entries : List (Value × Tree)},
    change.origin ∉ entryOrigins entries → applyEntries change entries = entries
  | [], _ => rfl
  | (key, tree) :: rest, absent => by
      rw [entryOrigins, List.mem_append, not_or] at absent
      rw [applyEntries, apply_eq_self absent.1, applyEntries_eq_self absent.2]

end

/-- No list or map stands in itself. -/
def Acyclic (tree : Tree) : Prop :=
  ∀ front rest origin, tree.originAt? front = some origin →
    tree.originAt? (front ++ rest) = some origin → rest = []

/-- On a single way a list or map stands once at most. -/
theorem Acyclic.eq_of_prefix {one other whole : Path} (acyclic : tree.Acyclic)
    (first : tree.originAt? one = some origin) (second : tree.originAt? other = some origin)
    (reached : one <+: whole) (reached' : other <+: whole) : one = other := by
  rcases List.prefix_or_prefix_of_prefix reached reached' with ⟨more, rfl⟩ | ⟨more, rfl⟩
  · rw [acyclic one more origin first second, List.append_nil]
  · rw [acyclic other more origin second first, List.append_nil]

/-- Where the changed list or map stands, the changed entry is what the change puts there. -/
theorem reach?_apply_of_own {container : Tree} (acyclic : tree.Acyclic)
    (there : tree.reach? front = some container) (own : container.origin? = some change.origin)
    (suits : change.step.Suits container.value) (rest : Path) :
    (tree.apply change).reach? (front ++ change.step :: rest) = change.tree.reach? rest := by
  have standing : tree.originAt? front = some change.origin := by rw [originAt?, there]; exact own
  have apart : ∀ other, other ++ [change.step] <+: front →
      tree.originAt? other ≠ some change.origin := by
    rintro other ⟨others, rfl⟩ earlier
    rw [List.append_assoc] at standing
    cases acyclic other _ _ earlier standing
  rw [reach?_append, reach?_apply_of_apart apart there, Option.bind_some, reach?_cons,
    enter?_apply_self own suits, Option.bind_some]

/-- Where something stands after a change: what stood there before, with the change in it, or else
what the change puts there. -/
theorem reach?_of_apply (there : (tree.apply change).reach? place = some found) :
    (∃ former, tree.reach? place = some former ∧ found = former.apply change) ∨
      ∃ front, tree.originAt? front = some change.origin ∧
        ((∃ rest, place = front ++ change.step :: rest ∧ change.tree.reach? rest = some found) ∨
          ∃ position lower, change.step = .index position ∧ place = front ++ [.index lower] ∧
            lower < position ∧ found = null) := by
  induction place generalizing tree with
  | nil =>
      cases there
      exact .inl ⟨tree, rfl, rfl⟩
  | cons step rest inductionHypothesis =>
      obtain ⟨inner, here, inside⟩ := Option.bind_eq_some_iff.mp there
      rcases enter?_of_apply here with ⟨former, entered, rfl⟩ | ⟨own, new⟩
      · rcases inductionHypothesis inside with ⟨last, kept, rfl⟩ | ⟨front, standing, new⟩
        · exact .inl ⟨last, by rw [reach?_cons, entered, Option.bind_some, kept], rfl⟩
        · refine .inr ⟨step :: front, by rw [originAt?_cons entered, standing], ?_⟩
          rcases new with ⟨others, rfl, put⟩ | ⟨position, lower, changed, rfl, less, padded⟩
          · exact .inl ⟨others, rfl, put⟩
          · exact .inr ⟨position, lower, changed, rfl, less, padded⟩
      · refine .inr ⟨[], own, ?_⟩
        rcases new with ⟨rfl, rfl⟩ | ⟨position, lower, changed, rfl, less, rfl⟩
        · exact .inl ⟨rest, rfl, inside⟩
        · cases rest with
          | nil =>
              cases inside
              exact .inr ⟨position, lower, changed, rfl, less, rfl⟩
          | cons => cases inside

end Stencil.Settings.Tree
