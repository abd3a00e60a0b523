import Stencil.Proofs.Value.Keys
import Stencil.Settings.Merge

set_option autoImplicit false

/-!
What stands at a path of keys after one map was laid over another. What the upper map holds there is
laid over what the lower one holds there; where it holds nothing, the lower one shows through, unless
something that is no map stands in the way above.
-/

namespace Stencil.Settings

/-- The value that a path of keys leads to, through maps only. -/
def descend? : Value → List Value → Option Value
  | value, [] => some value
  | .map entries, key :: rest => (Value.lookup? key entries).bind fun value => descend? value rest
  | _, _ :: _ => none

def isMap : Value → Bool
  | .map _ => true
  | _ => false

def isList : Value → Bool
  | .list _ => true
  | _ => false

mutual

/-- Neither the value, if it is a map, nor any map under its keys holds two equal keys. -/
def isWellKeyed : Value → Bool
  | .map entries => areWellKeyed entries
  | _ => true

def areWellKeyed : List (Value × Value) → Bool
  | [] => true
  | (key, value) :: rest =>
      rest.all (fun entry => !key.equals entry.1) && isWellKeyed value && areWellKeyed rest

end

/-- The upper value hides nothing at the path: what it has at the beginnings of the path are maps. -/
def LeavesOpen (upper : Value) (path : List Value) : Prop :=
  ∀ before key after, path = before ++ key :: after →
    ∀ found, descend? upper before = some found → isMap found = true

variable {key value upper : Value} {base : Option Value} {entries : List (Value × Value)}
  {path rest : List Value}

theorem descend?_map_cons (key : Value) (rest : List Value) (entries : List (Value × Value)) :
    descend? (.map entries) (key :: rest) =
      (Value.lookup? key entries).bind fun value => descend? value rest := rfl

theorem descend?_cons_of_not_map (other : isMap value = false) :
    descend? value (key :: rest) = none := by
  cases value with
  | map entries => cases other
  | _ => rfl

/-- The first key of a path, and the others from the value under it. -/
theorem descend?_cons (value key : Value) (rest : List Value) :
    descend? value (key :: rest) =
      (descend? value [key]).bind fun inner => descend? inner rest := by
  cases value with
  | map entries =>
      rw [descend?_map_cons, descend?_map_cons, Option.bind_assoc]
      rfl
  | _ => rfl

theorem bind_descend?_cons (base : Option Value) (key : Value) (rest : List Value) :
    base.bind (descend? · (key :: rest)) =
      (base.bind (descend? · [key])).bind (descend? · rest) := by
  rw [Option.bind_assoc]
  exact congrArg base.bind (funext fun value => descend?_cons value key rest)

theorem descend?_append (value : Value) (before after : List Value) :
    descend? value (before ++ after) = (descend? value before).bind (descend? · after) := by
  induction before generalizing value with
  | nil => rfl
  | cons key rest inductionHypothesis =>
      rw [List.cons_append, descend?_cons, descend?_cons value key rest, Option.bind_assoc]
      exact congrArg (descend? value [key]).bind (funext inductionHypothesis)

theorem exists_descend?_of_append {after before : List Value}
    (there : descend? upper (before ++ after) = some value) :
    ∃ inner, descend? upper before = some inner := by
  rw [descend?_append] at there
  obtain ⟨inner, found, _⟩ := Option.bind_eq_some_iff.mp there
  exact ⟨inner, found⟩

theorem areWellKeyed_cons_iff :
    areWellKeyed ((key, value) :: entries) = true ↔
      Value.lookup? key entries = none ∧ isWellKeyed value = true ∧
        areWellKeyed entries = true := by
  rw [areWellKeyed, Bool.and_eq_true, Bool.and_eq_true, List.all_eq_true, and_assoc,
    Value.lookup?_eq_none_iff]
  refine and_congr_left' (forall₂_congr fun entry _ => ?_)
  rw [Value.equals_comm]
  simp

theorem isWellKeyed_of_lookup? (wellKeyed : areWellKeyed entries = true)
    (found : Value.lookup? key entries = some value) : isWellKeyed value = true := by
  obtain ⟨own, member, _⟩ := Value.mem_of_lookup? found
  clear found
  induction entries with
  | nil => cases member
  | cons entry rest inductionHypothesis =>
      obtain ⟨_, inner, others⟩ := areWellKeyed_cons_iff.mp wellKeyed
      cases member with
      | head => exact inner
      | tail _ later => exact inductionHypothesis others later

theorem mergeValue_none (value : Value) : mergeValue none value = value := by
  cases value <;> rfl

theorem mergeValue_of_not_map {below : Value} (other : isMap below = false)
    (entries : List (Value × Value)) : mergeValue (some below) (.map entries) = .map entries := by
  cases below with
  | map own => cases other
  | _ => rfl

theorem mergeValue_of_scalar (otherMap : isMap value = false) (otherList : isList value = false)
    (base : Option Value) : mergeValue base value = value := by
  unfold mergeValue
  split
  · cases otherMap
  · cases otherList
  · rfl

theorem eq_map_of_isMap (isOwnMap : isMap value = true) : ∃ entries, value = .map entries := by
  cases value with
  | map entries => exact ⟨entries, rfl⟩
  | _ => cases isOwnMap

theorem isMap_mergeValue (base : Option Value) (value : Value) :
    isMap (mergeValue base value) = isMap value := by
  unfold mergeValue
  split <;> rfl

/-! Merging keeps maps well keyed. -/

theorem areWellKeyed_insertEntry (wellKeyed : areWellKeyed entries = true)
    (inner : isWellKeyed value = true) :
    areWellKeyed (Value.insertEntry key value entries) = true := by
  induction entries with
  | nil => exact areWellKeyed_cons_iff.mpr ⟨rfl, inner, rfl⟩
  | cons entry rest inductionHypothesis =>
      obtain ⟨own, former⟩ := entry
      obtain ⟨unrepeated, ownInner, others⟩ := areWellKeyed_cons_iff.mp wellKeyed
      rw [Value.insertEntry]
      cases here : own.equals key with
      | true => exact areWellKeyed_cons_iff.mpr ⟨unrepeated, inner, others⟩
      | false =>
          refine areWellKeyed_cons_iff.mpr ⟨?_, ownInner, inductionHypothesis others⟩
          rw [Value.lookup?_insertEntry, Value.equals_comm, here]
          exact unrepeated

theorem isWellKeyed_of_not_map (other : isMap value = false) : isWellKeyed value = true := by
  cases value with
  | map entries => cases other
  | _ => rfl

mutual

theorem isWellKeyed_mergeValue (base : Option Value) (value : Value)
    (baseKeyed : ∀ below, base = some below → isWellKeyed below = true)
    (keyed : isWellKeyed value = true) : isWellKeyed (mergeValue base value) = true := by
  cases value with
  | map entries =>
      cases base with
      | none => exact keyed
      | some below =>
          cases isOwnMap : isMap below with
          | false => rwa [mergeValue_of_not_map isOwnMap]
          | true =>
              obtain ⟨own, rfl⟩ := eq_map_of_isMap isOwnMap
              exact areWellKeyed_mergeEntries own entries (baseKeyed _ rfl) keyed
  | _ => exact isWellKeyed_of_not_map ((isMap_mergeValue base _).trans rfl)

theorem areWellKeyed_mergeEntries (below entries : List (Value × Value))
    (belowKeyed : areWellKeyed below = true) (keyed : areWellKeyed entries = true) :
    areWellKeyed (mergeEntries below entries) = true := by
  match entries with
  | [] => exact belowKeyed
  | (key, value) :: rest =>
      obtain ⟨_, inner, others⟩ := areWellKeyed_cons_iff.mp keyed
      refine areWellKeyed_mergeEntries _ rest (areWellKeyed_insertEntry belowKeyed ?_) others
      exact isWellKeyed_mergeValue _ value
        (fun _ found => isWellKeyed_of_lookup? belowKeyed found) inner

end

/-- Under a single key, the value of the upper map is laid over that of the lower one. -/
theorem lookup?_mergeEntries {below : List (Value × Value)} (wellKeyed : areWellKeyed entries = true)
    (key : Value) :
    Value.lookup? key (mergeEntries below entries) =
      match Value.lookup? key entries with
      | some value => some (mergeValue (Value.lookup? key below) value)
      | none => Value.lookup? key below := by
  induction entries generalizing below with
  | nil => rfl
  | cons entry rest inductionHypothesis =>
      obtain ⟨own, value⟩ := entry
      obtain ⟨unrepeated, _, others⟩ := areWellKeyed_cons_iff.mp wellKeyed
      rw [mergeEntries, inductionHypothesis others, Value.lookup?_insertEntry]
      cases same : own.equals key with
      | true =>
          rw [Value.lookup?_cons_self same, ← Value.lookup?_congr same, unrepeated,
            ← Value.lookup?_congr same]
          rfl
      | false =>
          rw [Value.lookup?_cons_of_not same]
          rfl

/-- One step down a path through what was laid over something. -/
theorem descend?_mergeValue_cons (wellKeyed : areWellKeyed entries = true) (base : Option Value)
    (key : Value) (rest : List Value) :
    descend? (mergeValue base (.map entries)) (key :: rest) =
      match Value.lookup? key entries with
      | some value => descend? (mergeValue (base.bind (descend? · [key])) value) rest
      | none => base.bind (descend? · (key :: rest)) := by
  -- Only over a map are the entries merged; over anything else they stand as they are.
  have alone : ∀ below : Option Value, mergeValue below (.map entries) = .map entries →
      (∀ later, below.bind (descend? · (key :: later)) = none) →
      descend? (mergeValue below (.map entries)) (key :: rest) =
        match Value.lookup? key entries with
        | some value => descend? (mergeValue (below.bind (descend? · [key])) value) rest
        | none => below.bind (descend? · (key :: rest)) := by
    intro below whole nowhere
    rw [whole, nowhere, nowhere, descend?_map_cons]
    cases Value.lookup? key entries with
    | none => rfl
    | some value => exact (congrArg (descend? · rest) (mergeValue_none value)).symm
  cases base with
  | none => exact alone none (mergeValue_none _) fun _ => rfl
  | some below =>
      cases isOwnMap : isMap below with
      | false =>
          exact alone (some below) (mergeValue_of_not_map isOwnMap entries)
            fun _ => descend?_cons_of_not_map isOwnMap
      | true =>
          cases below with
          | map own =>
              show descend? (.map (mergeEntries own entries)) (key :: rest) = _
              rw [descend?_map_cons, lookup?_mergeEntries wellKeyed]
              cases Value.lookup? key entries with
              | none => rfl
              | some value =>
                  show _ = descend? (mergeValue (descend? (.map own) [key]) value) rest
                  rw [descend?_map_cons]
                  cases Value.lookup? key own <;> rfl
          | _ => cases isOwnMap

/-- What the upper value holds at a path is laid over what the lower one holds there. -/
theorem descend?_mergeValue_of_some (wellKeyed : isWellKeyed upper = true)
    (there : descend? upper path = some value) (base : Option Value) :
    descend? (mergeValue base upper) path =
      some (mergeValue (base.bind (descend? · path)) value) := by
  induction path generalizing base upper with
  | nil =>
      cases there
      cases base <;> rfl
  | cons key rest inductionHypothesis =>
      cases upper with
      | map entries =>
          rw [descend?_map_cons] at there
          obtain ⟨inner, found, there⟩ := Option.bind_eq_some_iff.mp there
          rw [descend?_mergeValue_cons wellKeyed, found, bind_descend?_cons base key rest]
          exact inductionHypothesis (isWellKeyed_of_lookup? wellKeyed found) there _
      | _ => cases there

/-! What the upper value leaves open, key by key. -/

theorem leavesOpen_map_cons_iff (found : Value.lookup? key entries = some value) :
    LeavesOpen (.map entries) (key :: rest) ↔ LeavesOpen value rest := by
  constructor
  · rintro isOpen before own after rfl inner there
    apply isOpen (key :: before) own after rfl inner
    rw [descend?_map_cons, found]
    exact there
  · intro isOpen before own after split inner there
    cases before with
    | nil =>
        cases there
        rfl
    | cons first before =>
        obtain ⟨rfl, rfl⟩ := List.cons_eq_cons.mp split
        rw [descend?_map_cons, found] at there
        exact isOpen before own after rfl inner there

theorem leavesOpen_of_lookup?_eq_none (absent : Value.lookup? key entries = none) :
    LeavesOpen (.map entries) (key :: rest) := by
  intro before own after split inner there
  cases before with
  | nil =>
      cases there
      rfl
  | cons first before =>
      obtain ⟨rfl, rfl⟩ := List.cons_eq_cons.mp split
      rw [descend?_map_cons, absent] at there
      cases there

/-- A value that is held at a path leaves the path open. -/
theorem leavesOpen_of_some (there : descend? upper path = some value) :
    LeavesOpen upper path := by
  induction path generalizing upper with
  | nil =>
      intro before key after split
      cases before <;> cases split
  | cons key rest inductionHypothesis =>
      cases upper with
      | map entries =>
          rw [descend?_map_cons] at there
          obtain ⟨inner, found, there⟩ := Option.bind_eq_some_iff.mp there
          exact (leavesOpen_map_cons_iff found).mpr (inductionHypothesis there)
      | _ => cases there

theorem LeavesOpen.of_append {before after : List Value}
    (isOpen : LeavesOpen upper (before ++ after)) : LeavesOpen upper before := by
  rintro first key last rfl found held
  exact isOpen first key (last ++ after) (by simp) found held

/-- Where the upper value holds nothing, the lower one shows through if the path is left open. -/
theorem descend?_mergeValue_of_none (wellKeyed : isWellKeyed upper = true)
    (absent : descend? upper path = none) (base : Option Value) :
    (LeavesOpen upper path →
        descend? (mergeValue base upper) path = base.bind (descend? · path)) ∧
      (¬LeavesOpen upper path → descend? (mergeValue base upper) path = none) := by
  induction path generalizing base upper with
  | nil => cases absent
  | cons key rest inductionHypothesis =>
      cases isOwnMap : isMap upper with
      | false =>
          have blocked : ¬LeavesOpen upper (key :: rest) := by
            intro isOpen
            have held := isOpen [] key rest rfl upper rfl
            rw [isOwnMap] at held
            cases held
          have merged : isMap (mergeValue base upper) = false := by
            unfold mergeValue
            split
            · cases isOwnMap
            · rfl
            · exact isOwnMap
          exact ⟨fun isOpen => absurd isOpen blocked, fun _ => descend?_cons_of_not_map merged⟩
      | true =>
          cases upper with
          | map entries =>
              rw [descend?_mergeValue_cons wellKeyed]
              rw [descend?_map_cons] at absent
              cases found : Value.lookup? key entries with
              | none =>
                  exact ⟨fun _ => rfl,
                    fun blocked => absurd (leavesOpen_of_lookup?_eq_none found) blocked⟩
              | some inner =>
                  rw [found] at absent
                  rw [leavesOpen_map_cons_iff found, bind_descend?_cons base key rest]
                  exact inductionHypothesis (isWellKeyed_of_lookup? wellKeyed found) absent _
          | _ => cases isOwnMap

/-- What stands at a path after the upper map was laid over the base. -/
structure LaidOver (base upper merged : Value) (path : List Value) : Prop where
  held : (∃ found, descend? merged path = some found) ↔
    (∃ found, descend? upper path = some found) ∨
      (∃ found, descend? base path = some found) ∧ LeavesOpen upper path
  replaced : ∀ value, descend? upper path = some value → isMap value = false →
    isList value = false → descend? merged path = some value
  kept : descend? upper path = none → (∃ found, descend? merged path = some found) →
    descend? merged path = descend? base path
  joined : ∀ below items, descend? upper path = some (.list items) →
    descend? base path = some (.list below) → LeavesOpen upper path →
    descend? merged path = some (.list (mergeLists below items))
  unjoined : ∀ items, descend? upper path = some (.list items) →
    (∀ below, descend? base path = some (.list below) → ¬LeavesOpen upper path) →
    descend? merged path = some (.list items)

/-- A path leads to something after a merge just if it did in the upper map, or in the base and the
upper map leaves it open. What is no map replaces what is below it, but for lists, which are joined
with lists. -/
theorem laidOver_mergeEntries {base upper : List (Value × Value)}
    (wellKeyed : areWellKeyed upper = true) (path : List Value) :
    LaidOver (.map base) (.map upper) (.map (mergeEntries base upper)) path := by
  have nested : isWellKeyed (.map upper) = true := wellKeyed
  have layered {value : Value} (there : descend? (.map upper) path = some value) :
      descend? (.map (mergeEntries base upper)) path =
        some (mergeValue (descend? (.map base) path) value) :=
    descend?_mergeValue_of_some nested there (some (.map base))
  have shown (absent : descend? (.map upper) path = none) (isOpen : LeavesOpen (.map upper) path) :
      descend? (.map (mergeEntries base upper)) path = descend? (.map base) path :=
    (descend?_mergeValue_of_none nested absent (some (.map base))).1 isOpen
  have hidden (absent : descend? (.map upper) path = none)
      (blocked : ¬LeavesOpen (.map upper) path) :
      descend? (.map (mergeEntries base upper)) path = none :=
    (descend?_mergeValue_of_none nested absent (some (.map base))).2 blocked
  constructor
  case held =>
    cases there : descend? (.map upper) path with
    | some value => simp [layered there]
    | none =>
        by_cases isOpen : LeavesOpen (.map upper) path
        · simp [shown there isOpen, isOpen]
        · simp [hidden there isOpen, isOpen]
  case replaced =>
    intro value there otherMap otherList
    rw [layered there, mergeValue_of_scalar otherMap otherList]
  case kept =>
    intro absent held
    by_cases isOpen : LeavesOpen (.map upper) path
    · exact shown absent isOpen
    · obtain ⟨found, there⟩ := held
      rw [hidden absent isOpen] at there
      cases there
  case joined =>
    intro below items there under _
    rw [layered there, under]
    rfl
  case unjoined =>
    intro items there apart
    rw [layered there]
    cases under : descend? (.map base) path with
    | none => rfl
    | some below =>
        cases below with
        | list own => exact absurd (leavesOpen_of_some there) (apart own under)
        | _ => rfl

/-! A page and the changes to it: more tags, another style that is no map, and a note. -/

def pageBase : List (Value × Value) :=
  [(.text "page", .ofFields
      [("title", .text "Menu"), ("tags", .list [.text "new"]),
        ("style", .ofFields [("color", .text "red")])]),
    (.text "count", .int 1)]

def pageChanges : List (Value × Value) :=
  [(.text "page", .ofFields
      [("tags", .list [.text "+", .text "hot"]), ("style", .text "plain"),
        ("note", .ofFields [("by", .text "Ada")])])]

/-- The tags are joined, the title is kept, and the colour is gone with the former style. -/
theorem laidOver_pageChanges :
    let page := Value.map (mergeEntries pageBase pageChanges)
    areWellKeyed pageChanges = true ∧
      descend? page [.text "page", .text "tags"] = some (.list [.text "new", .text "hot"]) ∧
      descend? page [.text "page", .text "title"] = some (.text "Menu") ∧
      ¬∃ found, descend? page [.text "page", .text "style", .text "color"] = some found := by
  intro page
  have wellKeyed : areWellKeyed pageChanges = true := by decide +kernel
  have laid (path : List Value) : LaidOver (.map pageBase) (.map pageChanges) page path :=
    laidOver_mergeEntries wellKeyed path
  have titleOpen : LeavesOpen (.map pageChanges) [.text "page", .text "title"] :=
    (leavesOpen_map_cons_iff rfl).mpr (leavesOpen_of_lookup?_eq_none rfl)
  refine ⟨wellKeyed, ?_, ?_, ?_⟩
  · exact (laid _).joined [.text "new"] [.text "+", .text "hot"] rfl rfl (leavesOpen_of_some rfl)
  · exact (laid _).kept rfl ((laid _).held.mpr (.inr ⟨⟨.text "Menu", rfl⟩, titleOpen⟩))
  · rw [(laid _).held]
    rintro (⟨_, there⟩ | ⟨_, isOpen⟩)
    · cases there
    · have style := isOpen [.text "page", .text "style"] (.text "color") [] rfl (.text "plain") rfl
      cases style

end Stencil.Settings
