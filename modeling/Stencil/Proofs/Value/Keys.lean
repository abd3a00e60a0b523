import Stencil.Value.Canonical

set_option autoImplicit false

/-!
Values under keys of any kind. Equality of keys is symmetric and transitive, and it holds of a key
and itself unless the key is no number or has one in it; such a key leads nowhere. After inserting a
value under a key, all keys equal to it lead to the value, and the other keys lead where they did.
The entries that no key leads to, the strays, stay as they are.
-/

namespace Stencil.Value

variable {α β : Type} {a b c key own other : Value} {value : α} {entries : List (Value × α)}

theorem equals_iff : a.equals b = true ↔
    ∃ text, a.canonical? = some text ∧ b.canonical? = some text := by
  rw [equals]
  cases a.canonical? with
  | none => simp
  | some text =>
      cases b.canonical? with
      | none => simp
      | some own =>
          constructor
          · intro same
            exact ⟨text, rfl, congrArg some (beq_iff_eq.mp same).symm⟩
          · rintro ⟨_, ⟨⟩, ⟨⟩⟩
            exact beq_self_eq_true _

theorem equals_comm (a b : Value) : a.equals b = b.equals a := by
  rw [Bool.eq_iff_iff, equals_iff, equals_iff]
  exact exists_congr fun _ => and_comm

theorem equals_trans (first : a.equals b = true) (second : b.equals c = true) :
    a.equals c = true := by
  obtain ⟨text, left, middle⟩ := equals_iff.mp first
  obtain ⟨own, middle', right⟩ := equals_iff.mp second
  rw [middle, Option.some.injEq] at middle'
  exact equals_iff.mpr ⟨text, left, middle' ▸ right⟩

/-- Equal keys are equal to the same keys. -/
theorem equals_congr (same : a.equals b = true) (c : Value) : c.equals a = c.equals b := by
  rw [Bool.eq_iff_iff]
  exact ⟨fun left => equals_trans left same,
    fun right => equals_trans right ((equals_comm b a).trans same)⟩

theorem lookup?_congr (same : a.equals b = true) (entries : List (Value × α)) :
    lookup? a entries = lookup? b entries := by
  simp only [lookup?, equals_congr same]

theorem lookup?_cons_self (here : key.equals other = true) :
    lookup? other ((key, value) :: entries) = some value := by
  simp [lookup?, here]

theorem lookup?_cons_of_not (elsewhere : key.equals other = false) :
    lookup? other ((key, value) :: entries) = lookup? other entries := by
  simp [lookup?, elsewhere]

theorem lookup?_eq_none_iff :
    lookup? key entries = none ↔ ∀ entry ∈ entries, entry.1.equals key = false := by
  simp [lookup?]

theorem mem_of_lookup? (found : lookup? key entries = some value) :
    ∃ own, (own, value) ∈ entries ∧ own.equals key = true := by
  obtain ⟨⟨own, _⟩, first, rfl⟩ := Option.map_eq_some_iff.mp found
  exact ⟨own, List.mem_of_find?_eq_some first, by simpa using List.find?_some first⟩

theorem lookup?_map (change : α → β) (key : Value) (entries : List (Value × α)) :
    lookup? key (entries.map fun entry => (entry.1, change entry.2)) =
      (lookup? key entries).map change := by
  rw [lookup?, lookup?, List.find?_map, Option.map_map, Option.map_map]
  rfl

/-- Inserting changes what equal keys lead to, and nothing else. -/
theorem lookup?_insertEntry (key other : Value) (value : α) (entries : List (Value × α)) :
    lookup? other (insertEntry key value entries) =
      if key.equals other then some value else lookup? other entries := by
  induction entries with
  | nil =>
      cases same : key.equals other with
      | true => exact lookup?_cons_self same
      | false => exact lookup?_cons_of_not same
  | cons entry rest inductionHypothesis =>
      obtain ⟨own, former⟩ := entry
      cases here : own.equals key with
      | true =>
          -- The entry keeps its own key, which is equal to the same keys as the one inserted.
          have alike : own.equals other = key.equals other := by
            rw [equals_comm own, equals_comm key, equals_congr here]
          rw [insertEntry, if_pos here, ← alike]
          cases same : own.equals other with
          | true => exact lookup?_cons_self same
          | false => rw [lookup?_cons_of_not same, lookup?_cons_of_not same]; rfl
      | false =>
          rw [insertEntry, if_neg (by simp [here])]
          cases same : own.equals other with
          | true =>
              have apart : key.equals other = false := by
                rw [← equals_congr same, equals_comm, here]
              rw [lookup?_cons_self same, lookup?_cons_self same, apart]
              rfl
          | false => rw [lookup?_cons_of_not same, lookup?_cons_of_not same, inductionHypothesis]

/-- The entries whose keys are not equal to themselves; no key leads to them. -/
def strays (entries : List (Value × Value)) : List (Value × Value) :=
  entries.filter fun entry => !entry.1.equals entry.1

theorem equals_self_of_equals (same : own.equals key = true) : own.equals own = true :=
  equals_trans same ((equals_comm key own).trans same)

theorem strays_insertEntry (key value : Value) (entries : List (Value × Value)) :
    strays (insertEntry key value entries) = strays entries ++ strays [(key, value)] := by
  induction entries with
  | nil => rfl
  | cons entry rest inductionHypothesis =>
      obtain ⟨own, former⟩ := entry
      rw [insertEntry]
      cases here : own.equals key with
      | true =>
          have ownSelf := equals_self_of_equals here
          have keySelf := equals_self_of_equals ((equals_comm key own).trans here)
          simp [strays, ownSelf, keySelf]
      | false =>
          rw [if_neg (by simp)]
          cases self : own.equals own <;> simpa [strays, self] using inductionHypothesis

theorem lookup?_eq_none_of_stray (stray : key.equals key = false) : lookup? key entries = none := by
  refine lookup?_eq_none_iff.mpr fun entry _ => ?_
  rw [Bool.eq_false_iff]
  intro same
  rw [equals_self_of_equals ((equals_comm key entry.1).trans same)] at stray
  cases stray

end Stencil.Value
