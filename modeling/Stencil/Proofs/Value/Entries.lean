import Stencil.Value.Basic

set_option autoImplicit false

/-!
Values under text keys. A key leads to an entry that has it, if there is one. After putting a value
under a key, the key leads to the value, and the other entries stay.
-/

namespace Stencil.Value

variable {α β : Type} {key name : String} {entries : List (Value × α)}

theorem eq_text_of_isText {value : Value} (isText : value.isText key = true) :
    value = .text key := by
  cases value with
  | text own =>
      have same : key = own := by simpa [Value.isText] using isText
      rw [same]
  | _ => exact Bool.noConfusion isText

theorem isText_text : (Value.text key).isText key = true := by simp [isText]

theorem isText_iff {value : Value} : value.isText key = true ↔ value = .text key :=
  ⟨eq_text_of_isText, fun same => same ▸ isText_text⟩

theorem mem_of_found {value : α} (found : entry? key entries = some value) :
    (.text key, value) ∈ entries := by
  obtain ⟨⟨k, v⟩, first, rfl⟩ := Option.map_eq_some_iff.mp found
  have isText : k.isText key = true := by simpa using List.find?_some first
  rw [← eq_text_of_isText isText]
  exact List.mem_of_find?_eq_some first

theorem exists_found_of_mem {value : α} (member : (.text key, value) ∈ entries) :
    ∃ first, entry? key entries = some first := by
  have held : (entries.find? fun entry => entry.1.isText key).isSome = true :=
    List.find?_isSome.mpr ⟨_, member, isText_text⟩
  obtain ⟨entry, first⟩ := Option.isSome_iff_exists.mp held
  exact ⟨entry.2, Option.map_eq_some_iff.mpr ⟨entry, first, rfl⟩⟩

theorem exists_found_iff :
    (∃ value, entry? key entries = some value) ↔ ∃ value, (.text key, value) ∈ entries :=
  ⟨fun ⟨value, found⟩ => ⟨value, mem_of_found found⟩, fun ⟨_, member⟩ => exists_found_of_mem member⟩

theorem entry?_map (change : α → β) (key : String) (entries : List (Value × α)) :
    entry? key (entries.map fun entry => (entry.1, change entry.2)) =
      (Value.entry? key entries).map change := by
  rw [Value.entry?, Value.entry?, List.find?_map, Option.map_map, Option.map_map]
  rfl

theorem entry?_putEntry_self (value : α) :
    entry? key (putEntry key value entries) = some value := by
  induction entries with
  | nil => simp [ entry?, putEntry, isText_text]
  | cons entry rest inductionHypothesis =>
      obtain ⟨k, v⟩ := entry
      cases here : k.isText key with
      | true => simp [ entry?, putEntry, here]
      | false => simpa [ entry?, putEntry, here] using inductionHypothesis

theorem entry?_putEntry_of_ne (other : name ≠ key) (value : α) :
    entry? name (putEntry key value entries) = entry? name entries := by
  have elsewhere : (Value.text key).isText name = false := by simpa [isText] using other
  induction entries with
  | nil => simp [ entry?, putEntry, elsewhere]
  | cons entry rest inductionHypothesis =>
      obtain ⟨k, v⟩ := entry
      cases here : k.isText key with
      | true =>
          obtain rfl := eq_text_of_isText here
          simp [ entry?, putEntry, here, elsewhere]
      | false =>
          cases found : k.isText name with
          | true => simp [ entry?, putEntry, here, found]
          | false => simpa [ entry?, putEntry, here, found] using inductionHypothesis

theorem forall_mem_putEntry {property : Value × α → Prop} {value : α}
    (kept : ∀ entry ∈ entries, property entry) (new : property (.text key, value)) :
    ∀ entry ∈ putEntry key value entries, property entry := by
  induction entries with
  | nil => simpa [putEntry] using new
  | cons entry rest inductionHypothesis =>
      obtain ⟨k, v⟩ := entry
      have ⟨first, others⟩ := List.forall_mem_cons.mp kept
      rw [putEntry]
      split
      next here =>
        rw [eq_text_of_isText here]
        exact List.forall_mem_cons.mpr ⟨new, others⟩
      next => exact List.forall_mem_cons.mpr ⟨first, inductionHypothesis others⟩

end Stencil.Value
