import Stencil.Proofs.Settings.Separation

set_option autoImplicit false

/-!
Assigning along a path in a tree. It succeeds just if the path fits what the tree shows. Then a single
list or map is changed, the last one that there is on the path, and wherever it stands the rest of the
path leads to the value.
-/

namespace Stencil.Settings.Tree

variable {tree : Tree} {change : Change} {value : Value} {path front rest : Path} {stage : Nat}

/-- What is made for the rest of a path: containers on the way, and the value in the end. -/
structure Builds (value : Value) (path : Path) (made : Value) : Prop where
  held : Settings.reach? made path = some value
  accounted : ∀ place found, Settings.reach? made place = some found → Made value path place found

/-- The change does what an assignment is to do: it changes what stands at the front of the path, and
puts there what the rest of the path is to lead through, if there was nothing but null. -/
structure Change.Serves (change : Change) (value : Value) (tree : Tree) (path front rest : Path) :
    Prop where
  whole : path = front ++ change.step :: rest
  keys : ∀ step ∈ front, ∃ name, step = .key name
  stands : ∃ container, tree.reach? front = some container ∧
    container.origin? = some change.origin ∧ change.step.Suits container.value
  vacant : rest ≠ [] → ∀ former, tree.reach? (front ++ [change.step]) = some former → former = null
  final : ∀ position, change.step = .index position → rest = []
  puts : Builds value rest change.tree.value

theorem Change.Serves.cons {name : String} {inner : Tree}
    (entered : tree.enter? (.key name) = some inner)
    (serves : change.Serves value inner path front rest) :
    change.Serves value tree (.key name :: path) (.key name :: front) rest where
  whole := by rw [serves.whole, List.cons_append]
  keys := List.forall_mem_cons.mpr ⟨⟨name, rfl⟩, serves.keys⟩
  stands := by
    obtain ⟨container, there, own⟩ := serves.stands
    exact ⟨container, by rw [reach?_cons, entered, Option.bind_some, there], own⟩
  vacant long former there := by
    rw [List.cons_append, reach?_cons, entered, Option.bind_some] at there
    exact serves.vacant long former there
  final := serves.final
  puts := serves.puts

theorem eq_null_of_value {tree : Tree} (shown : tree.value = .null) : tree = null := by
  cases tree with
  | leaf own plain =>
      rw [value_leaf] at shown
      subst shown
      rfl
  | list => cases shown
  | map => cases shown

theorem builds_nil (value : Value) : Builds value [] value where
  held := rfl
  accounted _ _ there := .part rfl there

/-- What is made where there was nothing is what the path is to lead through. -/
theorem builds_of_assign {next : Step}
    (succeeds : (Settings.assign value next.container (next :: rest)).2 = none) :
    Builds value (next :: rest) (Settings.assign value next.container (next :: rest)).1 := by
  have placed := (assigns_of_assign (List.cons_ne_nil next rest) succeeds).placed
  refine ⟨placed.held, fun place found there => ?_⟩
  rcases placed.accounted place found there with former | new
  · obtain ⟨rfl, rfl⟩ := eq_of_reach?_container former
    exact .container (List.nil_append _).symm next.suits_container
  · exact new

section Equations

variable {origin : Origin} {entries : List (Value × Tree)} {inner : Tree} {name : String}
  {next : Step}

/-- Where something but null stands under a key, an assignment goes on. -/
theorem change?_of_found (there : Value.entry? name entries = some inner) (solid : inner ≠ null) :
    change? stage value (.map origin entries) (.key name :: next :: rest) =
      change? stage value inner (next :: rest) := by
  rw [change?, there]
  split
  next absent => cases absent
  next plain null =>
    cases null
    exact absurd rfl solid
  next found _ same =>
    cases same
    rfl

/-- Where there is nothing or null under a key, all that the rest of the path needs is made. -/
theorem change?_of_vacant (vacant : ∀ inner, Value.entry? name entries = some inner → inner = null) :
    change? stage value (.map origin entries) (.key name :: next :: rest) =
      (some ⟨origin, .key name,
          ofValue stage [] (Settings.assign value next.container (next :: rest)).1⟩,
        (Settings.assign value next.container (next :: rest)).2) := by
  rw [change?]
  split
  · rfl
  · rfl
  next found solid same =>
    obtain rfl := vacant found same
    exact absurd rfl (solid _)

theorem openEntry_of_vacant (next : Step)
    (vacant : ∀ inner, Value.entry? name entries = some inner → inner = null) :
    openEntry name next (entryValues entries) = next.container := by
  rw [openEntry, entry?_entryValues]
  cases found : Value.entry? name entries with
  | none => rfl
  | some inner =>
      rw [vacant inner found]
      rfl

theorem openEntry_of_solid (next : Step) (there : Value.entry? name entries = some inner)
    (solid : inner ≠ null) : openEntry name next (entryValues entries) = inner.value :=
  openEntry_of_found (by rw [entry?_entryValues, there]; rfl) (mt eq_null_of_value solid)

end Equations

theorem change?_fault (stage : Nat) (value : Value) (tree : Tree) (path : Path) :
    (change? stage value tree path).2 = (Settings.assign value tree.value path).2 := by
  induction path generalizing tree with
  | nil => rfl
  | cons step rest inductionHypothesis =>
      cases rest with
      | nil =>
          cases step <;> cases tree with
          | leaf own plain => cases own <;> first | rfl | cases plain
          | _ => rfl
      | cons next rest =>
          cases step with
          | index position => rfl
          | key name =>
              cases tree with
              | leaf own plain => cases own <;> first | rfl | cases plain
              | list => rfl
              | map origin entries =>
                  rw [Tree.value, Settings.assign]
                  by_cases vacant : ∀ inner, Value.entry? name entries = some inner → inner = null
                  · rw [change?_of_vacant vacant, openEntry_of_vacant next vacant]
                  · obtain ⟨inner, there, solid⟩ := by simpa only [not_forall] using vacant
                    rw [change?_of_found there solid, openEntry_of_solid next there solid,
                      inductionHypothesis inner]

theorem eq_list_of_isList (shown : isList tree.value = true) :
    ∃ origin items, tree = .list origin items := by
  cases tree with
  | leaf own plain => rw [value_leaf, not_isList_of_isLeaf plain] at shown; cases shown
  | list origin items => exact ⟨origin, items, rfl⟩
  | map => cases shown

theorem eq_map_of_isMap (shown : isMap tree.value = true) :
    ∃ origin entries, tree = .map origin entries := by
  cases tree with
  | leaf own plain => rw [value_leaf, not_isMap_of_isLeaf plain] at shown; cases shown
  | list => cases shown
  | map origin entries => exact ⟨origin, entries, rfl⟩

/-- At the last step the value itself is put into what holds the step. -/
theorem exists_serves_last (stage : Nat) (value : Value) {step : Step}
    (suits : step.Suits tree.value) :
    ∃ change, change? stage value tree [step] = (some change, none) ∧
      change.Serves value tree [step] [] [] := by
  have puts : Builds value [] (ofValue stage [] value).value := by
    rw [value_ofValue]
    exact builds_nil value
  cases step with
  | index position =>
      obtain ⟨origin, items, rfl⟩ := eq_list_of_isList suits
      exact ⟨⟨origin, .index position, ofValue stage [] value⟩, rfl, rfl, nofun, ⟨_, rfl, rfl, suits⟩,
        fun long => absurd rfl long, fun _ _ => rfl, puts⟩
  | key name =>
      obtain ⟨origin, entries, rfl⟩ := eq_map_of_isMap suits
      exact ⟨⟨origin, .key name, ofValue stage [] value⟩, rfl, rfl, nofun, ⟨_, rfl, rfl, suits⟩,
        fun long => absurd rfl long, fun _ _ => rfl, puts⟩

theorem exists_serves_of_vacant (stage : Nat) {name : String} {next : Step} {origin : Origin}
    {entries : List (Value × Tree)}
    (vacant : ∀ inner, Value.entry? name entries = some inner → inner = null)
    (succeeds : (Settings.assign value next.container (next :: rest)).2 = none) :
    ∃ change,
      change? stage value (.map origin entries) (.key name :: next :: rest) = (some change, none) ∧
        change.Serves value (.map origin entries) (.key name :: next :: rest) [] (next :: rest) := by
  let made := (Settings.assign value next.container (next :: rest)).1
  refine ⟨⟨origin, .key name, ofValue stage [] made⟩, by rw [change?_of_vacant vacant, succeeds], ?_⟩
  constructor
  case whole => rfl
  case keys => exact List.forall_mem_nil _
  case stands => exact ⟨_, rfl, rfl, rfl⟩
  case vacant =>
    intro _ former there
    obtain ⟨inner, here, inside⟩ := Option.bind_eq_some_iff.mp there
    cases inside
    exact vacant former here
  case final =>
    intro position isIndex
    cases isIndex
  case puts =>
    rw [value_ofValue]
    exact builds_of_assign succeeds

/-- An assignment along a path that fits makes a change that serves it. -/
theorem exists_serves (stage : Nat) (nonempty : path ≠ [])
    (succeeds : (Settings.assign value tree.value path).2 = none) :
    ∃ change front rest, change? stage value tree path = (some change, none) ∧
      change.Serves value tree path front rest := by
  induction path generalizing tree with
  | nil => exact absurd rfl nonempty
  | cons step rest inductionHypothesis =>
      cases rest with
      | nil =>
          have suits : step.Suits tree.value := by
            cases step <;> cases shown : tree.value <;>
              simp [shown, Settings.assign, Step.Suits, isMap, isList] at succeeds ⊢
          obtain ⟨change, changed, serves⟩ := exists_serves_last stage value suits
          exact ⟨change, [], [], changed, serves⟩
      | cons next rest =>
          cases step with
          | index position => cases succeeds
          | key name =>
              have isMap : isMap tree.value = true := by
                cases shown : tree.value <;>
                  simp [shown, Settings.assign, Settings.isMap] at succeeds ⊢
              obtain ⟨origin, entries, rfl⟩ := eq_map_of_isMap isMap
              rw [Tree.value, Settings.assign] at succeeds
              by_cases vacant : ∀ inner, Value.entry? name entries = some inner → inner = null
              · rw [openEntry_of_vacant next vacant] at succeeds
                obtain ⟨change, changed, serves⟩ := exists_serves_of_vacant stage vacant succeeds
                exact ⟨change, [], next :: rest, changed, serves⟩
              · obtain ⟨inner, there, solid⟩ := by simpa only [not_forall] using vacant
                rw [openEntry_of_solid next there solid] at succeeds
                obtain ⟨change, front, others, changed, serves⟩ :=
                  inductionHypothesis (List.cons_ne_nil next rest) succeeds
                refine ⟨change, .key name :: front, others, ?_, serves.cons there⟩
                rw [change?_of_found there solid, changed]

/-- The change that is made along a path shows at another place: the list or map stands there or below
it, or on the way, but not that of the path, and the way goes on through the changed entry. -/
def Change.ShowsApart (change : Change) (tree : Tree) (path place : Path) : Prop :=
  (∃ found, tree.reach? place = some found ∧ change.origin ∈ found.origins) ∨
    ∃ other, tree.originAt? other = some change.origin ∧ other ++ [change.step] <+: place ∧
      ¬other ++ [change.step] <+: path

/-- Where no list or map stands at two places, a change shows only along its path. -/
theorem Change.Serves.not_showsApart (serves : change.Serves value tree path front rest)
    (acyclic : tree.Acyclic) (unshared : tree.Unshared) {place : Path}
    (apart : ¬Overlaps path place) : ¬change.ShowsApart tree path place := by
  obtain ⟨container, there, own, _⟩ := serves.stands
  have standing : tree.originAt? front = some change.origin := by
    rw [originAt?, there]
    exact own
  have within : front <+: path := serves.whole ▸ List.prefix_append front _
  rintro (⟨found, here, inside⟩ | ⟨other, standing', _, along⟩)
  · exact apart (.inr ((unshared.prefix_of_mem serves.keys standing here inside).trans within))
  · obtain ⟨found, here, own'⟩ := Option.bind_eq_some_iff.mp standing'
    have before := unshared.prefix_of_mem serves.keys standing here (mem_origins_of_origin? own')
    obtain rfl := acyclic.eq_of_prefix standing' standing before List.prefix_rfl
    exact along (serves.whole ▸ ⟨rest, by simp⟩)

/-- The settings after an assignment: wherever the changed list or map stands, the rest of the path
leads to the value; what is apart from the path is as before, but where the change shows; and there
is nothing new but what the assignment made in the changed list or map. If no list or map stands at
two places, the change shows nowhere apart from the path. -/
structure Altered (value : Value) (path : Path) (before after : Tree) (change : Change)
    (front rest : Path) : Prop where
  serves : change.Serves value before path front rest
  held : (after.reach? path).map Tree.value = some value
  shown : ∀ other, before.reach? other = before.reach? front →
    (after.reach? (other ++ change.step :: rest)).map Tree.value = some value
  kept : ∀ place found, ¬Overlaps path place → ¬change.ShowsApart before path place →
    before.reach? place = some found → after.reach? place = some found
  accounted : ∀ place found, after.reach? place = some found →
    (∃ former, before.reach? place = some former ∧ found = former.apply change) ∨
      ∃ other inner, place = other ++ inner ∧ before.originAt? other = some change.origin ∧
        Made value (change.step :: rest) inner found.value
  alone : before.Unshared → ∀ place, ¬Overlaps path place → ¬change.ShowsApart before path place

theorem Change.Serves.altered (serves : change.Serves value tree path front rest)
    (acyclic : tree.Acyclic) : Altered value path tree (tree.apply change) change front rest := by
  obtain ⟨container, there, own, suits⟩ := serves.stands
  have shown : ∀ other, tree.reach? other = tree.reach? front →
      ((tree.apply change).reach? (other ++ change.step :: rest)).map Tree.value = some value := by
    intro other same
    rw [reach?_apply_of_own acyclic (same.trans there) own suits, ← reach?_value]
    exact serves.puts.held
  refine ⟨serves, serves.whole ▸ shown front rfl, shown, ?_, ?_, fun unshared _ =>
    serves.not_showsApart acyclic unshared⟩
  · intro place found apart hidden here
    have absent : change.origin ∉ found.origins := fun inside => hidden (.inl ⟨found, here, inside⟩)
    rw [← apply_eq_self absent]
    refine reach?_apply_of_apart (fun other within standing => ?_) here
    by_cases along : other ++ [change.step] <+: path
    · obtain rfl : other = front := by
        have standing' : tree.originAt? front = some change.origin := by
          rw [originAt?, there]
          exact own
        exact acyclic.eq_of_prefix standing standing' ((List.prefix_append other _).trans along)
          (serves.whole ▸ List.prefix_append front _)
      -- The place goes through the changed entry itself: it extends the path, or there was a null
      -- for which the rest of the path was made.
      obtain ⟨others, rfl⟩ := within
      rw [serves.whole] at apart
      by_cases last : rest = []
      · subst last
        exact apart (.inl (List.prefix_append _ others))
      · rw [reach?_append] at here
        obtain ⟨former, there, inside⟩ := Option.bind_eq_some_iff.mp here
        obtain rfl := serves.vacant last former there
        cases others with
        | nil => exact apart (.inr (by simp))
        | cons => cases inside
    · exact hidden (.inr ⟨other, standing, within, along⟩)
  · intro place found here
    rcases reach?_of_apply here with former | ⟨other, standing, new⟩
    · exact .inl former
    · rcases new with ⟨inner, rfl, put⟩ | ⟨position, lower, changed, rfl, less, rfl⟩
      · refine .inr ⟨other, change.step :: inner, rfl, standing, ?_⟩
        exact (serves.puts.accounted inner found.value (by rw [reach?_value, put]; rfl)).cons _
      · refine .inr ⟨other, [.index lower], rfl, standing, ?_⟩
        rw [serves.final position changed, changed]
        exact .padding (List.nil_append _).symm (List.nil_append _).symm less value_null

/-- What a change puts into a tree is made for it. -/
theorem exists_tree_eq_ofValue (made : (change? stage value tree path).1 = some change) :
    ∃ own, change.tree = ofValue stage [] own := by
  induction path generalizing tree with
  | nil => cases made
  | cons step rest inductionHypothesis =>
      cases rest with
      | nil =>
          cases step <;> cases tree <;> cases made <;> exact ⟨value, rfl⟩
      | cons next rest =>
          cases step with
          | index => cases made
          | key name =>
              cases tree with
              | leaf | list => cases made
              | map origin entries =>
                  by_cases vacant : ∀ inner, Value.entry? name entries = some inner → inner = null
                  · rw [change?_of_vacant vacant] at made
                    cases made
                    exact ⟨_, rfl⟩
                  · obtain ⟨inner, there, solid⟩ := by simpa only [not_forall] using vacant
                    rw [change?_of_found there solid] at made
                    exact inductionHypothesis made

theorem assign_fault (value : Value) (tree : Tree) (path : Path) :
    (tree.assign value path).2 = (Settings.assign value tree.value path).2 :=
  change?_fault tree.nextStage value tree path

theorem assign_fst (value : Value) (tree : Tree) (path : Path) :
    (tree.assign value path).1 =
      (change? tree.nextStage value tree path).1.elim tree fun change => tree.apply change := rfl

/-- What a change puts into a tree is nothing that is in it. -/
theorem fresh_of_change? (made : (change? tree.nextStage value tree path).1 = some change) :
    ∀ origin ∈ change.tree.origins, origin ∉ tree.origins := by
  obtain ⟨own, new⟩ := exists_tree_eq_ofValue made
  intro origin inside old
  rw [new] at inside
  have stage := stage_of_mem_ofValue tree.nextStage own [] origin inside
  have less := stage_lt_nextStage tree origin old
  omega

/-- An assignment leaves a tree acyclic. -/
theorem Acyclic.assign (acyclic : tree.Acyclic) (value : Value) (path : Path) :
    (tree.assign value path).1.Acyclic := by
  rw [assign_fst]
  cases made : (change? tree.nextStage value tree path).1 with
  | none => exact acyclic
  | some change =>
      obtain ⟨own, new⟩ := exists_tree_eq_ofValue made
      have built : Built tree.nextStage 0 change.tree := new ▸ built_ofValue tree.nextStage own []
      exact acyclic.apply built.grounded.acyclic (fresh_of_change? made)

theorem Unshared.assign (unshared : tree.Unshared) (value : Value) (path : Path) :
    (tree.assign value path).1.Unshared := by
  rw [assign_fst]
  cases made : (change? tree.nextStage value tree path).1 with
  | none => exact unshared
  | some change =>
      obtain ⟨own, new⟩ := exists_tree_eq_ofValue made
      exact unshared.apply (new ▸ unshared_ofValue tree.nextStage own []) (fresh_of_change? made)

/-- An assignment that succeeds changes a single list or map, and does all that it is to do. -/
theorem exists_altered (acyclic : tree.Acyclic) (nonempty : path ≠ [])
    (succeeds : (tree.assign value path).2 = none) :
    ∃ change front rest, change? tree.nextStage value tree path = (some change, none) ∧
      Altered value path tree (tree.assign value path).1 change front rest := by
  obtain ⟨change, front, rest, changed, serves⟩ :=
    exists_serves tree.nextStage nonempty ((assign_fault value tree path).symm.trans succeeds)
  refine ⟨change, front, rest, changed, ?_⟩
  rw [assign_fst, changed]
  exact serves.altered acyclic

/-- An assignment along a path succeeds just if the path fits the settings; otherwise it is a fault of
the settings. If it succeeds, it changes a single list or map: wherever that stands, the rest of the
path leads to the value; what is apart from the path stays, but where the change shows; and there is
nothing new but what the assignment made in the changed list or map. -/
theorem assign_succeeds_iff_fits (value : Value) {origin : Origin} {entries : List (Value × Tree)}
    (acyclic : (map origin entries).Acyclic) {path : Path} (nonempty : path ≠ []) :
    (((map origin entries).assign value path).2 = none ↔ Fits path (map origin entries).value) ∧
      (¬Fits path (map origin entries).value →
        ∃ fault, ((map origin entries).assign value path).2 = some fault ∧
          (Fault.assignment fault).family? = some .settings) ∧
      (Fits path (map origin entries).value → ∃ change front rest,
        Altered value path (map origin entries) ((map origin entries).assign value path).1 change
          front rest) := by
  have succeeds : ((map origin entries).assign value path).2 = none ↔
      Fits path (map origin entries).value := by
    rw [assign_fault]
    exact assign_eq_none_iff_fits value nonempty nofun
  refine ⟨succeeds, fun misfits => ?_, fun fits => ?_⟩
  · obtain ⟨fault, failed⟩ := Option.ne_none_iff_exists'.mp (mt succeeds.mp misfits)
    exact ⟨fault, failed, rfl⟩
  · obtain ⟨change, front, rest, _, altered⟩ := exists_altered acyclic nonempty (succeeds.mpr fits)
    exact ⟨change, front, rest, altered⟩

/-! A page whose tags are null gets its third tag. -/

def pageOfTags (tags : Value) : List (Value × Value) :=
  [(.text "page", .ofFields [("title", .text "Menu"), ("tags", tags)])]

def untaggedPage : Tree := .ofValue 0 [] (.map (pageOfTags .null))

def thirdTag : Path := [.key "page", .key "tags", .index 2]

theorem third_tag_assigned :
    untaggedPage.Acyclic ∧ thirdTag ≠ [] ∧ Fits thirdTag untaggedPage.value ∧
      (untaggedPage.assign (.text "hot") thirdTag).1.value =
        .map (pageOfTags (.list [.null, .null, .text "hot"])) ∧
      ∃ change front rest, Altered (.text "hot") thirdTag untaggedPage
        (untaggedPage.assign (.text "hot") thirdTag).1 change front rest := by
  have acyclic : untaggedPage.Acyclic := (built_ofValue 0 _ []).grounded.acyclic
  have nonempty : thirdTag ≠ [] := by simp [thirdTag]
  have ⟨succeeds, _, altered⟩ := assign_succeeds_iff_fits (.text "hot") acyclic nonempty
  have fits := succeeds.mp rfl
  exact ⟨acyclic, nonempty, fits, rfl, altered fits⟩

/-! A map that stands at two places is changed at both. -/

def sharingPage : Tree :=
  .map ⟨1, []⟩
    [(.text "draft", .map ⟨0, []⟩ [(.text "title", .leaf (.text "Menu") rfl)]),
      (.text "print", .map ⟨0, []⟩ [(.text "title", .leaf (.text "Menu") rfl)])]

def draftTitle : Path := [.key "draft", .key "title"]

theorem not_kept_of_sharingPage :
    (sharingPage.assign (.text "Card") draftTitle).2 = none ∧
      ¬∀ place found, ¬Overlaps draftTitle place → Settings.reach? sharingPage.value place = some found →
        Settings.reach? (sharingPage.assign (.text "Card") draftTitle).1.value place = some found := by
  refine ⟨rfl, fun kept => ?_⟩
  have apart : ¬Overlaps draftTitle [.key "print", .key "title"] := by simp [Overlaps, draftTitle]
  have same : some (Value.text "Card") = some (.text "Menu") := kept _ _ apart rfl
  simp at same

end Stencil.Settings.Tree
