import Stencil.Proofs.Settings.Layering

set_option autoImplicit false

/-!
Layers that set different things. Two layers are apart if wherever both lead to something they lead
to maps. Such layers can be laid over any base in either order, or first over each other: at every
path the outcomes show the same, be it what one of the layers has there, what the base has, or
nothing. Only the order of entries differs.
-/

namespace Stencil.Settings

variable {base left right value : Value} {path : List Value} {shown shown' : Option Value}

/-- Wherever both values lead to something, they lead to maps. -/
def Apart (left right : Value) : Prop :=
  ∀ path one other, descend? left path = some one → descend? right path = some other →
    isMap one = true ∧ isMap other = true

theorem Apart.symm (apart : Apart left right) : Apart right left :=
  fun path one other here there => (apart path other one there here).symm

theorem Apart.leavesOpen (apart : Apart left right) (there : descend? right path = some value) :
    LeavesOpen left path := by
  rintro before key after rfl found held
  obtain ⟨inner, within⟩ := exists_descend?_of_append there
  exact (apart before found inner held within).1

/-- One of the layers over the other hides what either hides. -/
theorem Apart.leavesOpen_mergeValue_iff (apart : Apart left right)
    (keyed : isWellKeyed right = true) :
    LeavesOpen (mergeValue (some left) right) path ↔
      LeavesOpen left path ∧ LeavesOpen right path := by
  constructor
  · intro isOpen
    have rightOpen : LeavesOpen right path := by
      rintro before key after rfl found held
      rw [← isMap_mergeValue]
      exact isOpen before key after rfl _ (descend?_mergeValue_of_some keyed held _)
    refine ⟨?_, rightOpen⟩
    rintro before key after rfl found held
    cases there : descend? right before with
    | some other => exact (apart before found other held there).1
    | none =>
        refine isOpen before key after rfl found ?_
        rw [(descend?_mergeValue_of_none keyed there _).1 rightOpen.of_append]
        exact held
  · rintro ⟨leftOpen, rightOpen⟩ before key after rfl found held
    cases there : descend? right before with
    | some other =>
        rw [descend?_mergeValue_of_some keyed there] at held
        cases held
        rw [isMap_mergeValue]
        exact rightOpen before key after rfl other there
    | none =>
        rw [(descend?_mergeValue_of_none keyed there _).1 rightOpen.of_append] at held
        exact leftOpen before key after rfl found held

/-- It is enough that the values under equal keys are apart. -/
theorem Apart.of_entries {own other : List (Value × Value)}
    (inside : ∀ entry ∈ own, ∀ entry' ∈ other, entry.1.equals entry'.1 = true →
      Apart entry.2 entry'.2) : Apart (.map own) (.map other) := by
  intro path one two here there
  cases path with
  | nil =>
      cases here
      cases there
      exact ⟨rfl, rfl⟩
  | cons key rest =>
      rw [descend?_map_cons] at here there
      obtain ⟨value, found, here⟩ := Option.bind_eq_some_iff.mp here
      obtain ⟨value', found', there⟩ := Option.bind_eq_some_iff.mp there
      obtain ⟨ownKey, member, same⟩ := Value.mem_of_lookup? found
      obtain ⟨otherKey, member', same'⟩ := Value.mem_of_lookup? found'
      have alike : ownKey.equals otherKey = true :=
        Value.equals_trans same ((Value.equals_comm key otherKey).trans same')
      exact inside _ member _ member' alike rest one two here there

/-! Entries that no key leads to are kept by all layers. -/

theorem strays_mergeEntries (below entries : List (Value × Value)) :
    Value.strays (mergeEntries below entries) = Value.strays below ++ Value.strays entries := by
  induction entries generalizing below with
  | nil => exact (List.append_nil _).symm
  | cons entry rest inductionHypothesis =>
      obtain ⟨key, value⟩ := entry
      rw [mergeEntries, inductionHypothesis, Value.strays_insertEntry, List.append_assoc]
      congr 1
      cases self : key.equals key with
      | true => simp [Value.strays, self]
      | false =>
          rw [Value.lookup?_eq_none_of_stray self, mergeValue_none]
          exact (List.filter_append [(key, value)] rest).symm

/-- The entries that no key leads to in what is a map. -/
def straysOf : Option Value → List (Value × Value)
  | some (.map entries) => Value.strays entries
  | _ => []

theorem exists_mergeValue_eq_map (below : Option Value) (entries : List (Value × Value)) :
    ∃ merged, mergeValue below (.map entries) = .map merged ∧
      Value.strays merged = straysOf below ++ Value.strays entries := by
  cases below with
  | none => exact ⟨entries, rfl, rfl⟩
  | some lower =>
      cases isOwnMap : isMap lower with
      | true =>
          obtain ⟨own, rfl⟩ := eq_map_of_isMap isOwnMap
          exact ⟨mergeEntries own entries, rfl, strays_mergeEntries own entries⟩
      | false =>
          refine ⟨entries, mergeValue_of_not_map isOwnMap entries, ?_⟩
          cases lower with
          | map own => cases isOwnMap
          | _ => rfl

/-- What two layers show at a path, with the base below them. -/
structure ShownBy (base left right : Value) (path : List Value) (shown : Option Value) : Prop where
  ofLeft : ∀ value, descend? left path = some value → descend? right path = none →
    shown = some (mergeValue (descend? base path) value)
  ofRight : ∀ value, descend? left path = none → descend? right path = some value →
    shown = some (mergeValue (descend? base path) value)
  ofBoth : ∀ own other, descend? left path = some (.map own) →
    descend? right path = some (.map other) →
    ∃ entries, shown = some (.map entries) ∧ (Value.strays entries).Perm
      (straysOf (descend? base path) ++ (Value.strays own ++ Value.strays other))
  ofBase : descend? left path = none → descend? right path = none →
    LeavesOpen left path ∧ LeavesOpen right path → shown = descend? base path
  hidden : descend? left path = none → descend? right path = none →
    ¬(LeavesOpen left path ∧ LeavesOpen right path) → shown = none

theorem ShownBy.swap (shows : ShownBy base right left path shown) :
    ShownBy base left right path shown where
  ofLeft value here absent := shows.ofRight value absent here
  ofRight value absent there := shows.ofLeft value there absent
  ofBoth own other here there := by
    obtain ⟨entries, map, strays⟩ := shows.ofBoth other own there here
    exact ⟨entries, map, strays.trans (List.Perm.append_left _ List.perm_append_comm)⟩
  ofBase absent absent' isOpen := shows.ofBase absent' absent isOpen.symm
  hidden absent absent' blocked := shows.hidden absent' absent fun isOpen => blocked isOpen.symm

/-- At a path there is the same: nothing, one value, or maps with the same strays. -/
inductive AgreeAt : Option Value → Option Value → Prop where
  | same (shown : Option Value) : AgreeAt shown shown
  | maps {own other : List (Value × Value)} : (Value.strays own).Perm (Value.strays other) →
      AgreeAt (some (.map own)) (some (.map other))

theorem AgreeAt.of_eq (same : shown = shown') : AgreeAt shown shown' := same ▸ .same shown

/-- Whatever two layers that are apart show, they show the same up to order. -/
theorem Apart.agreeAt (apart : Apart left right) (first : ShownBy base left right path shown)
    (second : ShownBy base left right path shown') : AgreeAt shown shown' := by
  cases here : descend? left path with
  | some value =>
      cases there : descend? right path with
      | some value' =>
          have ⟨ownMap, otherMap⟩ := apart path value value' here there
          obtain ⟨own, rfl⟩ := eq_map_of_isMap ownMap
          obtain ⟨other, rfl⟩ := eq_map_of_isMap otherMap
          obtain ⟨entries, rfl, strays⟩ := first.ofBoth own other here there
          obtain ⟨entries', rfl, strays'⟩ := second.ofBoth own other here there
          exact .maps (strays.trans strays'.symm)
      | none => exact .of_eq ((first.ofLeft _ here there).trans (second.ofLeft _ here there).symm)
  | none =>
      cases there : descend? right path with
      | some value =>
          exact .of_eq ((first.ofRight _ here there).trans (second.ofRight _ here there).symm)
      | none =>
          by_cases isOpen : LeavesOpen left path ∧ LeavesOpen right path
          · exact .of_eq ((first.ofBase here there isOpen).trans
              (second.ofBase here there isOpen).symm)
          · exact .of_eq ((first.hidden here there isOpen).trans
              (second.hidden here there isOpen).symm)

theorem descend?_mergeValue_of_neither (rightKeyed : isWellKeyed right = true)
    (absent : descend? left path = none) (absent' : descend? right path = none) :
    descend? (mergeValue (some left) right) path = none := by
  by_cases isOpen : LeavesOpen right path
  · exact ((descend?_mergeValue_of_none rightKeyed absent' _).1 isOpen).trans absent
  · exact (descend?_mergeValue_of_none rightKeyed absent' _).2 isOpen

theorem Apart.shownBy_twice (apart : Apart left right) (leftKeyed : isWellKeyed left = true)
    (rightKeyed : isWellKeyed right = true) (base : Value) (path : List Value) :
    ShownBy base left right path
      (descend? (mergeValue (some (mergeValue (some base) left)) right) path) where
  ofLeft value here absent := by
    rw [(descend?_mergeValue_of_none rightKeyed absent _).1 (apart.symm.leavesOpen here)]
    exact descend?_mergeValue_of_some leftKeyed here (some base)
  ofRight value absent there := by
    rw [descend?_mergeValue_of_some rightKeyed there, Option.bind_some,
      (descend?_mergeValue_of_none leftKeyed absent _).1 (apart.leavesOpen there)]
    rfl
  ofBoth own other here there := by
    rw [descend?_mergeValue_of_some rightKeyed there, Option.bind_some,
      descend?_mergeValue_of_some leftKeyed here, Option.bind_some]
    obtain ⟨once, sameOnce, strays⟩ := exists_mergeValue_eq_map (descend? base path) own
    obtain ⟨twice, sameTwice, strays'⟩ := exists_mergeValue_eq_map (some (.map once)) other
    rw [sameOnce, sameTwice]
    refine ⟨twice, rfl, .of_eq ?_⟩
    rw [strays', straysOf, strays, List.append_assoc]
  ofBase absent absent' isOpen := by
    rw [(descend?_mergeValue_of_none rightKeyed absent' _).1 isOpen.2]
    exact (descend?_mergeValue_of_none leftKeyed absent _).1 isOpen.1
  hidden absent absent' blocked := by
    by_cases rightOpen : LeavesOpen right path
    · have leftBlocked : ¬LeavesOpen left path := fun leftOpen => blocked ⟨leftOpen, rightOpen⟩
      rw [(descend?_mergeValue_of_none rightKeyed absent' _).1 rightOpen]
      exact (descend?_mergeValue_of_none leftKeyed absent _).2 leftBlocked
    · exact (descend?_mergeValue_of_none rightKeyed absent' _).2 rightOpen

theorem Apart.shownBy_joined (apart : Apart left right) (leftKeyed : isWellKeyed left = true)
    (rightKeyed : isWellKeyed right = true) (base : Value) (path : List Value) :
    ShownBy base left right path
      (descend? (mergeValue (some base) (mergeValue (some left) right)) path) := by
  have keyed : isWellKeyed (mergeValue (some left) right) = true :=
    isWellKeyed_mergeValue (some left) right (fun _ same => Option.some.inj same ▸ leftKeyed)
      rightKeyed
  constructor
  case ofLeft =>
    intro value here absent
    have joined : descend? (mergeValue (some left) right) path = some value :=
      ((descend?_mergeValue_of_none rightKeyed absent _).1 (apart.symm.leavesOpen here)).trans here
    exact descend?_mergeValue_of_some keyed joined (some base)
  case ofRight =>
    intro value absent there
    have joined : descend? (mergeValue (some left) right) path = some value := by
      rw [descend?_mergeValue_of_some rightKeyed there, Option.bind_some, absent, mergeValue_none]
    exact descend?_mergeValue_of_some keyed joined (some base)
  case ofBoth =>
    intro own other here there
    obtain ⟨inner, sameInner, strays⟩ := exists_mergeValue_eq_map (some (.map own)) other
    have joined : descend? (mergeValue (some left) right) path = some (.map inner) := by
      rw [descend?_mergeValue_of_some rightKeyed there, Option.bind_some, here, sameInner]
    obtain ⟨entries, same, strays'⟩ := exists_mergeValue_eq_map (descend? base path) inner
    refine ⟨entries, ?_, .of_eq (strays'.trans (congrArg _ strays))⟩
    rw [descend?_mergeValue_of_some keyed joined, Option.bind_some, same]
  case ofBase =>
    intro absent absent' isOpen
    have joined := descend?_mergeValue_of_neither rightKeyed absent absent'
    exact (descend?_mergeValue_of_none keyed joined _).1
      ((apart.leavesOpen_mergeValue_iff rightKeyed).mpr isOpen)
  case hidden =>
    intro absent absent' blocked
    have joined := descend?_mergeValue_of_neither rightKeyed absent absent'
    exact (descend?_mergeValue_of_none keyed joined _).2
      fun isOpen => blocked ((apart.leavesOpen_mergeValue_iff rightKeyed).mp isOpen)

/-- Two maps are the same but for the order of entries, in them and in the maps under their keys. -/
structure SameEntries (own other : List (Value × Value)) : Prop where
  keyed : areWellKeyed own = true
  keyed' : areWellKeyed other = true
  agree : ∀ path, AgreeAt (descend? (.map own) path) (descend? (.map other) path)

/-- Layers that are apart can be laid over a base in either order, and over each other first. -/
theorem sameEntries_of_apart (base left right : List (Value × Value))
    (baseKeyed : areWellKeyed base = true) (leftKeyed : areWellKeyed left = true)
    (rightKeyed : areWellKeyed right = true) (apart : Apart (.map left) (.map right)) :
    SameEntries (mergeEntries (mergeEntries base left) right)
        (mergeEntries (mergeEntries base right) left) ∧
      SameEntries (mergeEntries (mergeEntries base left) right)
        (mergeEntries base (mergeEntries left right)) ∧
      SameEntries (mergeEntries (mergeEntries base right) left)
        (mergeEntries base (mergeEntries left right)) := by
  have inOrder (path : List Value) : ShownBy (.map base) (.map left) (.map right) path _ :=
    apart.shownBy_twice leftKeyed rightKeyed (.map base) path
  have inTurn (path : List Value) : ShownBy (.map base) (.map left) (.map right) path _ :=
    (apart.symm.shownBy_twice rightKeyed leftKeyed (.map base) path).swap
  have joined (path : List Value) : ShownBy (.map base) (.map left) (.map right) path _ :=
    apart.shownBy_joined leftKeyed rightKeyed (.map base) path
  have orderKeyed := areWellKeyed_mergeEntries _ right
    (areWellKeyed_mergeEntries base left baseKeyed leftKeyed) rightKeyed
  have turnKeyed := areWellKeyed_mergeEntries _ left
    (areWellKeyed_mergeEntries base right baseKeyed rightKeyed) leftKeyed
  have joinedKeyed := areWellKeyed_mergeEntries base _ baseKeyed
    (areWellKeyed_mergeEntries left right leftKeyed rightKeyed)
  exact ⟨⟨orderKeyed, turnKeyed, fun path => apart.agreeAt (inOrder path) (inTurn path)⟩,
    ⟨orderKeyed, joinedKeyed, fun path => apart.agreeAt (inOrder path) (joined path)⟩,
    ⟨turnKeyed, joinedKeyed, fun path => apart.agreeAt (inTurn path) (joined path)⟩⟩

/-! A page that is no map yet, and two layers that make a map of it and set one thing each. -/

def draftPage : List (Value × Value) :=
  [(.text "page", .text "draft"), (.text "tags", .list [.text "new"])]

def styleLayer : List (Value × Value) :=
  [(.text "page", .ofFields [("style", .text "plain")]),
    (.text "tags", .list [.text "+", .text "hot"])]

def authorLayer : List (Value × Value) :=
  [(.text "page", .ofFields [("author", .text "Ada")]), (.text "count", .int 2)]

theorem apart_styleLayer_authorLayer : Apart (.map styleLayer) (.map authorLayer) := by
  have pageCount : (Value.text "page").equals (.text "count") = false := by decide +kernel
  have tagsPage : (Value.text "tags").equals (.text "page") = false := by decide +kernel
  have tagsCount : (Value.text "tags").equals (.text "count") = false := by decide +kernel
  have styleAuthor : (Value.text "style").equals (.text "author") = false := by decide +kernel
  have pages : Apart (.ofFields [("style", .text "plain")]) (.ofFields [("author", .text "Ada")]) :=
    .of_entries (by simp [styleAuthor])
  exact .of_entries (by simp [styleLayer, authorLayer, pageCount, tagsPage, tagsCount, pages])

/-- In either order the page is a map with a style and an author, and the tags are joined. -/
theorem sameEntries_draftPage :
    areWellKeyed draftPage = true ∧ areWellKeyed styleLayer = true ∧
      areWellKeyed authorLayer = true ∧ Apart (.map styleLayer) (.map authorLayer) ∧
      SameEntries (mergeEntries (mergeEntries draftPage styleLayer) authorLayer)
        (mergeEntries (mergeEntries draftPage authorLayer) styleLayer) ∧
      SameEntries (mergeEntries (mergeEntries draftPage styleLayer) authorLayer)
        (mergeEntries draftPage (mergeEntries styleLayer authorLayer)) := by
  have pageKeyed : areWellKeyed draftPage = true := by decide +kernel
  have styleKeyed : areWellKeyed styleLayer = true := by decide +kernel
  have authorKeyed : areWellKeyed authorLayer = true := by decide +kernel
  have apart := apart_styleLayer_authorLayer
  have ⟨inTurn, joined, _⟩ :=
    sameEntries_of_apart draftPage styleLayer authorLayer pageKeyed styleKeyed authorKeyed apart
  exact ⟨pageKeyed, styleKeyed, authorKeyed, apart, inTurn, joined⟩

end Stencil.Settings
