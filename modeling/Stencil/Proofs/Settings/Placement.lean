import Stencil.Proofs.Fault.Family
import Stencil.Proofs.Settings.Assignment
import Stencil.Proofs.Settings.Layering

set_option autoImplicit false

/-!
Which paths an assignment can go along, and what it makes of a value. It succeeds just if the path
fits the value: keys lead to maps as far as there is anything, and what is to hold the last step can
hold it. Afterwards the assigned value stands at the path, and all else stands where it stood, but for
the containers on the way and the nulls before a position.
-/

namespace Stencil.Settings

/-- What a step leads to: the entry of a map under a text or a number, or an item of a list. -/
def enter? : Value → Step → Option Value
  | .map entries, .key name => Value.entry? name entries
  | .map entries, .index number => Value.lookup? (.int number) entries
  | .list items, .index position => items[position]?
  | _, _ => none

def reach? : Value → Path → Option Value
  | value, [] => some value
  | value, step :: rest => (enter? value step).bind fun inner => reach? inner rest

/-- Something is assigned under a key in a map and at a position in a list. -/
def Step.Suits : Step → Value → Prop
  | key _, value => isMap value = true
  | index _, value => isList value = true

/-- Only the last step may be a position. What stands on the way, unless it is null, is a map, and
what stands before the last step is a container that suits it. -/
structure Fits (path : Path) (settings : Value) : Prop where
  keys : ∀ step ∈ path.dropLast, ∃ name, step = .key name
  maps : ∀ front rest found, path = front ++ rest → 2 ≤ rest.length →
    reach? settings front = some found → found ≠ .null → isMap found = true
  container : ∀ front last found, path = front ++ [last] →
    reach? settings front = some found → found ≠ .null → last.Suits found

/-- What an assignment puts at a place: the value with all that is in it, a container on the way, or
a null before the position of the value. -/
inductive Made (value : Value) (path place : Path) (found : Value) : Prop where
  | part {rest} : place = path ++ rest → reach? value rest = some found → Made value path place found
  | container {step rest} :
      path = place ++ step :: rest → step.Suits found → Made value path place found
  | padding {front position lower} :
      path = front ++ [.index position] → place = front ++ [.index lower] → lower < position →
      found = .null → Made value path place found

/-- The settings after an assignment hold the value at the path, what was apart from the path before,
and nothing else but what the assignment made. -/
structure Placed (value : Value) (path : Path) (before after : Value) : Prop where
  held : reach? after path = some value
  kept : ∀ place found, ¬Overlaps path place → reach? before place = some found →
    reach? after place = some found
  accounted : ∀ place found, reach? after place = some found →
    reach? before place = some found ∨ Made value path place found

variable {value current before after inner changed found : Value} {path place rest : Path}
  {step next : Step} {name : String} {entries : List (Value × Value)} {items : List Value}

/-! Single steps. -/

theorem reach?_cons (settings : Value) (step : Step) (rest : Path) :
    reach? settings (step :: rest) = (enter? settings step).bind fun inner => reach? inner rest :=
  rfl

theorem equals_text_int (name : String) (n : Int) :
    (Value.text name).equals (.int n) = false := by
  rw [Bool.eq_false_iff]
  intro same
  obtain ⟨text, named, numbered⟩ := Value.equals_iff.mp same
  simp only [Value.canonical?, Value.tagged, Option.some.injEq] at named numbered
  have heads := congrArg (fun s => s.toList.head?) (named.trans numbered.symm)
  simp at heads

theorem lookup?_putEntry_of_not {α : Type} {entries : List (Value × α)} {value : α} {key : Value}
    (apart : (Value.text name).equals key = false) :
    Value.lookup? key (Value.putEntry name value entries) = Value.lookup? key entries := by
  induction entries with
  | nil => exact Value.lookup?_cons_of_not apart
  | cons entry rest inductionHypothesis =>
      obtain ⟨own, former⟩ := entry
      cases here : own.isText name with
      | true =>
          obtain rfl := Value.eq_text_of_isText here
          simp only [Value.putEntry, here, if_true, Value.lookup?_cons_of_not apart]
      | false =>
          rw [Value.putEntry, here, if_neg Bool.false_ne_true]
          cases same : own.equals key with
          | true => rw [Value.lookup?_cons_self same, Value.lookup?_cons_self same]
          | false =>
              rw [Value.lookup?_cons_of_not same, Value.lookup?_cons_of_not same,
                inductionHypothesis]

theorem enter?_putEntry_of_ne (apart : step ≠ .key name) :
    enter? (.map (Value.putEntry name value entries)) step = enter? (.map entries) step := by
  cases step with
  | key own =>
      have other : own ≠ name := by
        rintro rfl
        exact apart rfl
      exact Value.entry?_putEntry_of_ne other value
  | index number => exact lookup?_putEntry_of_not (equals_text_int name number)

/-- Nothing is in a null. -/
theorem eq_of_reach?_null (there : reach? .null place = some found) :
    place = [] ∧ found = .null := by
  cases place with
  | nil => exact ⟨rfl, (Option.some.inj there).symm⟩
  | cons step rest => cases there

/-- There is nothing in a container that is made on the way. -/
theorem eq_of_reach?_container (there : reach? next.container place = some found) :
    place = [] ∧ found = next.container := by
  cases place with
  | nil => exact ⟨rfl, (Option.some.inj there).symm⟩
  | cons other others =>
      cases next <;> cases other <;>
        simp [reach?, enter?, Step.container, Value.entry?, Value.lookup?] at there

/-! A container that an assignment goes through is the one that is there, or else a new one. -/

theorem Step.suits_container (step : Step) : step.Suits step.container := by
  cases step <;> rfl

theorem openEntry_ne_null (name : String) (next : Step) (entries : List (Value × Value)) :
    openEntry name next entries ≠ .null := by
  unfold openEntry
  split
  · cases next <;> simp [Step.container]
  · cases next <;> simp [Step.container]
  · assumption

/-- All that can be reached through the entry stays, but for a null that is the entry itself. -/
theorem reach?_openEntry (next : Step) (solid : place = [] → found ≠ .null)
    (there : reach? (.map entries) (.key name :: place) = some found) :
    reach? (openEntry name next entries) place = some found := by
  obtain ⟨item, here, inside⟩ := Option.bind_eq_some_iff.mp there
  have nonnull : item ≠ .null := by
    rintro rfl
    obtain ⟨outside, null⟩ := eq_of_reach?_null inside
    exact solid outside null
  rw [openEntry_of_found here nonnull, inside]

theorem reach?_of_openEntry
    (there : reach? (openEntry name next entries) place = some found) :
    reach? (.map entries) (.key name :: place) = some found ∨
      place = [] ∧ found = next.container := by
  cases here : Value.entry? name entries with
  | none =>
      rw [openEntry, here] at there
      exact .inr (eq_of_reach?_container there)
  | some item =>
      by_cases null : item = .null
      · subst null
        rw [openEntry, here] at there
        exact .inr (eq_of_reach?_container there)
      · rw [openEntry_of_found here null] at there
        exact .inl (by rw [reach?_cons, enter?, here, Option.bind_some, there])

/-! What an assignment makes of a list and of a map. -/

theorem Made.cons (step : Step) (made : Made value path place found) :
    Made value (step :: path) (step :: place) found := by
  cases made with
  | part whole inside => exact .part (by rw [whole, List.cons_append]) inside
  | container whole suits => exact .container (by rw [whole, List.cons_append]) suits
  | padding whole lower less null =>
      exact .padding (by rw [whole, List.cons_append]) (by rw [lower, List.cons_append]) less null

theorem placed_at_position (value : Value) (position : Nat) (items : List Value) :
    Placed value [.index position] (.list items) (.list (putItem .null position value items)) where
  held := by simp [reach?, enter?, getElem?_putItem_self]
  kept place found apart there := by
    cases place with
    | nil => exact absurd (overlaps_nil _).symm apart
    | cons step rest =>
        cases step with
        | key name => cases there
        | index lower =>
            obtain ⟨item, here, inside⟩ := Option.bind_eq_some_iff.mp there
            have moved : lower ≠ position := by
              rintro rfl
              exact apart ((overlaps_nil rest).cons _)
            rw [reach?_cons, enter?, getElem?_putItem_of_ne moved here, Option.bind_some, inside]
  accounted place found there := by
    cases place with
    | nil =>
        cases there
        exact .inr (.container (List.nil_append _).symm rfl)
    | cons step rest =>
        cases step with
        | key name => cases there
        | index lower =>
            obtain ⟨item, here, inside⟩ := Option.bind_eq_some_iff.mp there
            by_cases same : lower = position
            · subst same
              rw [enter?, getElem?_putItem_self, Option.some.injEq] at here
              subst here
              exact .inr (.part rfl inside)
            · rcases getElem?_of_putItem same here with unchanged | ⟨less, rfl⟩
              · exact .inl (by rw [reach?_cons, enter?, unchanged, Option.bind_some, inside])
              · obtain ⟨rfl, null⟩ := eq_of_reach?_null inside
                exact .inr (.padding (List.nil_append _).symm (List.nil_append _).symm less null)

/-- What stands under a key is changed by the rest of an assignment. -/
theorem Placed.under_key (placed : Placed value rest inner changed)
    (opened : ∀ place found, ¬Overlaps rest place →
      reach? (.map entries) (.key name :: place) = some found → reach? inner place = some found)
    (opens : ∀ place found, reach? inner place = some found →
      reach? (.map entries) (.key name :: place) = some found ∨
        Made value (.key name :: rest) (.key name :: place) found) :
    Placed value (.key name :: rest) (.map entries)
      (.map (Value.putEntry name changed entries)) where
  held := by
    rw [reach?_cons, enter?, Value.entry?_putEntry_self, Option.bind_some, placed.held]
  kept place found apart there := by
    cases place with
    | nil => exact absurd (overlaps_nil _).symm apart
    | cons step others =>
        by_cases same : step = .key name
        · subst same
          have further : ¬Overlaps rest others := fun overlaps => apart (overlaps.cons _)
          rw [reach?_cons, enter?, Value.entry?_putEntry_self, Option.bind_some]
          exact placed.kept others found further (opened others found further there)
        · rwa [reach?_cons, enter?_putEntry_of_ne same]
  accounted place found there := by
    cases place with
    | nil =>
        cases there
        exact .inr (.container (List.nil_append _).symm rfl)
    | cons step others =>
        by_cases same : step = .key name
        · subst same
          rw [reach?_cons, enter?, Value.entry?_putEntry_self, Option.bind_some] at there
          rcases placed.accounted others found there with unchanged | made
          · exact opens others found unchanged
          · exact .inr (made.cons _)
        · rw [reach?_cons, enter?_putEntry_of_ne same] at there
          exact .inl there

theorem placed_nil (value before : Value) : Placed value [] before value where
  held := rfl
  kept _ _ apart _ := absurd (overlaps_nil _) apart
  accounted _ _ there := .inr (.part rfl there)

theorem Assigns.placed (assigns : Assigns value path before after) :
    Placed value path before after := by
  induction assigns with
  | @index position items => exact placed_at_position value position items
  | @key name entries =>
      refine (placed_nil value value).under_key ?_ ?_
      · intro place found apart
        exact absurd (overlaps_nil place) apart
      · intro place found there
        exact .inr (.part rfl there)
  | @inside name next rest entries inner _ placed =>
      refine placed.under_key ?_ ?_
      · intro place found apart there
        refine reach?_openEntry next ?_ there
        rintro rfl
        exact absurd (overlaps_nil _).symm apart
      · intro place found there
        rcases reach?_of_openEntry there with unchanged | ⟨rfl, rfl⟩
        · exact .inl unchanged
        · exact .inr (.container rfl next.suits_container)

/-! Where an assignment succeeds. -/

theorem isMap_of_fits (fits : Fits (step :: next :: rest) current) (nonnull : current ≠ .null) :
    isMap current = true :=
  fits.maps [] (step :: next :: rest) current rfl (by simp) rfl nonnull

/-- At the last step all that counts is the container. -/
theorem fits_singleton (nonnull : current ≠ .null) : Fits [step] current ↔ step.Suits current := by
  constructor
  · intro fits
    exact fits.container [] step current rfl rfl nonnull
  · intro suits
    refine ⟨by simp, ?_, ?_⟩
    · intro front rest found whole long
      have lengths := congrArg List.length whole
      simp only [List.length_singleton, List.length_append] at lengths
      omega
    · intro front last found whole there _
      obtain ⟨rfl, rfl⟩ : front = [] ∧ last = step := by
        simpa [List.singleton_eq_append_iff] using whole
      cases there
      exact suits

/-- More than one step is left behind the front, so the step after the key is a key as well. -/
theorem Fits.exists_key (fits : Fits (.key name :: next :: rest) current)
    {front others : Path} (whole : next :: rest = front ++ others) (long : 2 ≤ others.length) :
    ∃ own, next = .key own := by
  apply fits.keys
  cases rest with
  | nil =>
      have lengths := congrArg List.length whole
      simp only [List.length_singleton, List.length_append] at lengths
      omega
  | cons => simp

theorem Fits.under_key (fits : Fits (.key name :: next :: rest) (.map entries)) :
    Fits (next :: rest) (openEntry name next entries) where
  keys step member := by
    apply fits.keys
    simpa using .inr member
  maps front others found whole long there nonnull := by
    rcases reach?_of_openEntry there with held | ⟨rfl, rfl⟩
    · exact fits.maps (.key name :: front) others found (by rw [whole, List.cons_append]) long
        held nonnull
    · obtain ⟨own, rfl⟩ := fits.exists_key whole long
      rfl
  container front last found whole there nonnull := by
    rcases reach?_of_openEntry there with held | ⟨rfl, rfl⟩
    · exact fits.container (.key name :: front) last found (by rw [whole, List.cons_append]) held
        nonnull
    · obtain ⟨rfl, rfl⟩ : next = last ∧ rest = [] := by simpa using whole
      exact next.suits_container

theorem Fits.of_under_key (fits : Fits (next :: rest) (openEntry name next entries)) :
    Fits (.key name :: next :: rest) (.map entries) where
  keys step member := by
    rw [List.dropLast_cons_cons, List.mem_cons] at member
    rcases member with rfl | later
    · exact ⟨name, rfl⟩
    · exact fits.keys step later
  maps front others found whole long there nonnull := by
    cases front with
    | nil =>
        cases there
        rfl
    | cons step front =>
        obtain ⟨rfl, left⟩ := List.cons_eq_cons.mp whole
        exact fits.maps front others found left long
          (reach?_openEntry next (fun _ => nonnull) there) nonnull
  container front last found whole there nonnull := by
    cases front with
    | nil => simp at whole
    | cons step front =>
        obtain ⟨rfl, left⟩ := List.cons_eq_cons.mp whole
        exact fits.container front last found left
          (reach?_openEntry next (fun _ => nonnull) there) nonnull

/-- A path with a key in front fits just if the rest fits what stands under the key, or the container
that is made there. -/
theorem fits_key_cons : Fits (.key name :: next :: rest) (.map entries) ↔
    Fits (next :: rest) (openEntry name next entries) :=
  ⟨Fits.under_key, Fits.of_under_key⟩

theorem assign_eq_none_iff_fits (value : Value) (nonempty : path ≠ []) (nonnull : current ≠ .null) :
    (assign value current path).2 = none ↔ Fits path current := by
  induction path generalizing current with
  | nil => exact absurd rfl nonempty
  | cons step rest inductionHypothesis =>
      cases rest with
      | nil =>
          rw [fits_singleton nonnull]
          cases step <;> cases current <;> simp [assign, Step.Suits, isMap, isList]
      | cons next rest =>
          cases step with
          | index position =>
              constructor
              · intro succeeds
                cases succeeds
              · intro fits
                obtain ⟨name, isKey⟩ := fits.keys (.index position) (by simp)
                cases isKey
          | key name =>
              by_cases map : isMap current = true
              · obtain ⟨entries, rfl⟩ := eq_map_of_isMap map
                rw [fits_key_cons]
                exact inductionHypothesis (List.cons_ne_nil _ _) (openEntry_ne_null name next entries)
              · constructor
                · intro succeeds
                  cases current <;> simp [assign, isMap] at succeeds map
                · intro fits
                  exact absurd (isMap_of_fits fits nonnull) map

end Stencil.Settings
