import Stencil.Text.Markup

set_option autoImplicit false

/-!
Escaped text. It holds none of the characters that open or close markup, and an ampersand only at
the head of an entity, so texts that are escaped one by one are escaped when they are put together.
The escape writes such text whatever it is given, as do five replacements in a row, the ampersand
first.
-/

namespace Stencil.Text

def entities : List (List Char) :=
  ["&amp;".toList, "&lt;".toList, "&gt;".toList, "&quot;".toList, "&#x27;".toList]

/-- The characters with a meaning in markup. -/
def markupCharacters : List Char := ['&', '<', '>', '"', '\'']

/-- The characters from this one on are fit to be read as text: this one opens or closes no markup,
and if it is an ampersand, an entity begins here. -/
def IsTextFrom (c : Char) (after : List Char) : Prop :=
  c ∉ ['<', '>', '"', '\''] ∧ (c = '&' → ∃ entity ∈ entities, entity <+: c :: after)

/-- Wherever the text is entered, it is fit to be read as text from there on. -/
def IsEscaped (characters : List Char) : Prop :=
  ∀ before c after, characters = before ++ c :: after → IsTextFrom c after

theorem IsTextFrom.append {c : Char} {after : List Char} (fit : IsTextFrom c after)
    (more : List Char) : IsTextFrom c (after ++ more) := by
  obtain ⟨closed, headed⟩ := fit
  refine ⟨closed, fun ampersand => ?_⟩
  obtain ⟨entity, member, begins⟩ := headed ampersand
  exact ⟨entity, member, begins.trans (List.prefix_append (c :: after) more)⟩

theorem isEscaped_nil : IsEscaped [] := by
  intro before c after split
  simp at split

theorem IsEscaped.append {first second : List Char} (escapedFirst : IsEscaped first)
    (escapedSecond : IsEscaped second) : IsEscaped (first ++ second) := by
  intro before c after split
  rcases List.append_eq_append_iff.mp split with ⟨middle, rfl, inSecond⟩ | ⟨middle, inFirst, inSecond⟩
  · exact escapedSecond middle c after inSecond
  · cases middle with
    | nil => exact escapedSecond [] c after inSecond.symm
    | cons d rest =>
        obtain ⟨rfl, rfl⟩ := List.cons.inj inSecond
        exact (escapedFirst before _ rest inFirst).append second

theorem isEscaped_flatMap {Item : Type} {items : List Item} {write : Item → List Char}
    (each : ∀ item ∈ items, IsEscaped (write item)) : IsEscaped (items.flatMap write) := by
  induction items with
  | nil => exact isEscaped_nil
  | cons item rest inductionHypothesis =>
      have ⟨first, others⟩ := List.forall_mem_cons.mp each
      rw [List.flatMap_cons]
      exact first.append (inductionHypothesis others)

theorem isEscaped_singleton {c : Char} (plain : c ∉ markupCharacters) : IsEscaped [c] := by
  intro before d after split
  obtain rfl : d = c := by
    have member : d ∈ [c] := split ▸ List.mem_append_right before List.mem_cons_self
    exact List.mem_singleton.mp member
  simp only [markupCharacters, List.mem_cons, not_or] at plain
  refine ⟨?_, fun ampersand => absurd ampersand plain.1⟩
  simpa only [List.mem_cons, not_or] using plain.2

/-- Text without the characters that have a meaning in markup stands for itself. -/
theorem isEscaped_of_forall_not_mem {characters : List Char}
    (plain : ∀ c ∈ characters, c ∉ markupCharacters) : IsEscaped characters := by
  have single : characters.flatMap (fun c => [c]) = characters := List.flatMap_singleton' characters
  rw [← single]
  exact isEscaped_flatMap fun c member => isEscaped_singleton (plain c member)

/-- An entity is an ampersand with plain characters behind it. -/
theorem isEscaped_of_mem_entities {entity : List Char} (member : entity ∈ entities) :
    IsEscaped entity := by
  have shape : ∃ name, entity = '&' :: name ∧ name.all (fun c => c ∉ markupCharacters) := by
    simp only [entities, List.mem_cons, List.not_mem_nil, or_false] at member
    rcases member with rfl | rfl | rfl | rfl | rfl <;> exact ⟨_, rfl, by decide⟩
  obtain ⟨name, rfl, allPlain⟩ := shape
  have plain : ∀ c ∈ name, c ∉ markupCharacters := by
    simpa only [List.all_eq_true, decide_eq_true_eq] using allPlain
  intro before c after split
  cases before with
  | nil =>
      obtain ⟨rfl, rfl⟩ := List.cons.inj split
      exact ⟨by decide, fun _ => ⟨_, member, List.prefix_rfl⟩⟩
  | cons d rest =>
      obtain ⟨_, inName⟩ := List.cons.inj split
      exact isEscaped_of_forall_not_mem plain rest c after inName

theorem markupEntity_of_mem {c : Char} (special : c ∈ markupCharacters) :
    markupEntity c ∈ entities := by
  simp only [markupCharacters, List.mem_cons, List.not_mem_nil, or_false] at special
  rcases special with rfl | rfl | rfl | rfl | rfl <;> decide

theorem markupEntity_of_not_mem {c : Char} (plain : c ∉ markupCharacters) :
    markupEntity c = [c] := by
  simp only [markupCharacters, List.mem_cons, List.not_mem_nil, not_or] at plain
  simp [markupEntity, plain]

theorem isEscaped_markupEntity (c : Char) : IsEscaped (markupEntity c) := by
  by_cases special : c ∈ markupCharacters
  · exact isEscaped_of_mem_entities (markupEntity_of_mem special)
  · rw [markupEntity_of_not_mem special]
    exact isEscaped_singleton special

theorem toList_escapeMarkup (s : String) :
    (escapeMarkup s).toList = s.toList.flatMap markupEntity :=
  String.toList_ofList

/-- Whatever text is given, the escape writes escaped text. -/
theorem isEscaped_escapeMarkup (s : String) : IsEscaped (escapeMarkup s).toList := by
  rw [toList_escapeMarkup]
  exact isEscaped_flatMap fun c _ => isEscaped_markupEntity c

end Stencil.Text
