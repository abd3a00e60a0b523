import Stencil.Proofs.Resolve.Position
import Stencil.Proofs.Resolve.Agreement
import Stencil.Proofs.Value.Classification
import Stencil.Proofs.Value.Entries

set_option autoImplicit false

/-!
Values without a stream anywhere inside. Whatever blocks and key paths take out of such a value is
of the same kind.
-/

namespace Stencil

/-- The values inside, keys before the values under them. -/
def Contents.parts : Contents Value → List Value
  | .closed => []
  | .iterable items | .sequence items => items
  | .mapping entries => entries.map (·.1) ++ entries.map (·.2)

namespace Value

/-- The values that a value is made of. -/
def parts : Value → List Value
  | .list items | .tuple items | .set _ items | .stream _ items => items
  | .record _ fields => fields.map (·.2)
  | .map entries => entries.map (·.1) ++ entries.map (·.2)
  | .object _ members contents => members.map (·.2) ++ contents.parts
  | _ => []

/-- Neither the value nor anything inside it is a stream. -/
inductive IsStreamless : Value → Prop where
  | mk {value} : ¬value.IsStream → (∀ part ∈ value.parts, IsStreamless part) → IsStreamless value

variable {sorting : Sorting} {value : Value} {found : Value}

theorem IsStreamless.not_isStream (streamless : value.IsStreamless) : ¬value.IsStream := by
  cases streamless with
  | mk steady _ => exact steady

theorem IsStreamless.of_mem_parts (streamless : value.IsStreamless) {part : Value}
    (member : part ∈ value.parts) : part.IsStreamless := by
  cases streamless with
  | mk _ inside => exact inside part member

/-- Nothing is inside, and the value itself is no stream. -/
def IsAtom (value : Value) : Prop := value.parts = [] ∧ ¬value.IsStream

theorem IsAtom.isStreamless (atom : value.IsAtom) : value.IsStreamless :=
  .mk atom.2 fun part member => by simp [atom.1] at member

theorem isAtom_of_dateMember? {day : Date} {name : String}
    (read : dateMember? day name = some found) : found.IsAtom := by
  unfold dateMember? at read
  split at read <;> cases read <;> exact ⟨rfl, id⟩

theorem isAtom_of_momentMember? {time : Moment} {name : String}
    (read : momentMember? time name = some found) : found.IsAtom := by
  unfold momentMember? at read
  split at read
  case h_5 =>
    cases read
    cases time.zone <;> exact ⟨rfl, id⟩
  case h_7 => exact isAtom_of_dateMember? read
  all_goals cases read; exact ⟨rfl, id⟩

theorem mem_of_field? {name : String} {fields : List (String × Value)}
    (read : field? name fields = some found) : found ∈ fields.map (·.2) := by
  obtain ⟨field, first, rfl⟩ := Option.map_eq_some_iff.mp read
  exact List.mem_map_of_mem (List.mem_of_find?_eq_some first)

theorem mem_of_entry? {key : String} {entries : List (Value × Value)}
    (read : entry? key entries = some found) : found ∈ entries.map (·.2) :=
  List.mem_map.mpr ⟨_, mem_of_found read, rfl⟩

/-- A member is made for the question, or it is a part of the value. -/
theorem isAtom_or_mem_of_member? {name : String} (read : value.member? name = .ok (some found)) :
    found.IsAtom ∨ found ∈ value.parts := by
  cases value with
  | bool _ | int _ | float _ | complex _ _ | decimal _ | range _ _ _ =>
      left
      simp only [member?, Except.ok.injEq, intMember?, floatMember?, complexMember?, decimalMember?,
        rangeMember?] at read
      split at read <;> cases read <;> exact ⟨rfl, id⟩
  | date day => exact .inl (isAtom_of_dateMember? (Except.ok.inj read))
  | moment time => exact .inl (isAtom_of_momentMember? (Except.ok.inj read))
  | record type fields => exact .inr (mem_of_field? (Except.ok.inj read))
  | object profile members contents =>
      rw [member?] at read
      split at read
      · cases read
      · exact .inr (List.mem_append_left _ (mem_of_field? (Except.ok.inj read)))
  | _ => cases read

theorem isAtom_or_mem_of_item? {position : Nat} (there : value.item? position = some found) :
    found.IsAtom ∨ found ∈ value.parts := by
  cases value with
  | list items | tuple items => exact .inr (List.mem_of_getElem? there)
  | record type fields =>
      obtain ⟨field, here, rfl⟩ := Option.map_eq_some_iff.mp there
      exact .inr (List.mem_map_of_mem (List.mem_of_getElem? here))
  | range start stop step =>
      rw [item?] at there
      split at there
      · cases there
        exact .inl ⟨rfl, id⟩
      · cases there
  | object profile members contents =>
      cases contents with
      | sequence items => exact .inr (List.mem_append_right _ (List.mem_of_getElem? there))
      | _ => cases there
  | _ => cases there

/-- An element is made for the pass, or it is a part of the value. -/
theorem isAtom_or_mem_of_items? {spent : List Nat} {items : List Value}
    (going : value.items? spent = some items) :
    ∀ item ∈ items, item.IsAtom ∨ item ∈ value.parts := by
  intro item member
  cases value with
  | list own | tuple own | set frozen own | record type own =>
      cases going
      exact .inr member
  | range start stop step =>
      cases going
      obtain ⟨position, _, rfl⟩ := List.mem_map.mp member
      exact .inl ⟨rfl, id⟩
  | stream id own =>
      rw [items?] at going
      split at going
      · cases going
        cases member
      · cases going
        exact .inr member
  | object profile members contents =>
      cases contents with
      | iterable own | sequence own =>
          cases going
          exact .inr (List.mem_append_right _ member)
      | _ => cases going
  | _ => cases going

theorem isAtom_or_mem_of_elements? {spent : List Nat} {items : List Value}
    (passed : value.elements? sorting spent = .ok (some items)) :
    ∀ item ∈ items, item.IsAtom ∨ item ∈ value.parts := by
  unfold elements? at passed
  split at passed
  · cases checked : value.checkLength with
    | error fault =>
        rw [checked] at passed
        cases passed
    | ok =>
        rw [checked] at passed
        cases value with
        | set frozen own =>
            intro item member
            cases sorted : inOrder sorting own with
            | error fault => simp [sorted, Bind.bind, Except.bind] at passed
            | ok ordered =>
                simp only [sorted] at passed
                cases passed
                exact .inr ((perm_of_inOrder sorted).mem_iff.mp member)
        | _ => exact isAtom_or_mem_of_items? (Except.ok.inj passed)
  · cases passed

theorem mem_of_mappingEntries? {entries : List (Value × Value)}
    (isMapping : Resolver.mappingEntries? value = some entries) :
    ∀ part ∈ entries.map (·.2), part ∈ value.parts := by
  intro part member
  cases value with
  | map own =>
      cases isMapping
      exact List.mem_append_right _ member
  | object profile members contents =>
      cases contents with
      | mapping own =>
          cases isMapping
          exact List.mem_append_right _ (List.mem_append_right _ member)
      | _ => cases isMapping
  | _ => cases isMapping

theorem isAtom_or_mem_of_atPosition {segment : String} (index : isIndexSegment segment = true)
    (resolved : Resolver.atPosition value segment = .ok (some found)) :
    found.IsAtom ∨ found ∈ value.parts := by
  rw [Resolver.atPosition_eq index] at resolved
  split at resolved
  · cases resolved
  · split at resolved
    · cases resolved
    · split at resolved
      · cases resolved
      · split at resolved
        next item there =>
          cases resolved
          exact isAtom_or_mem_of_item? there
        next => cases resolved

theorem isAtom_or_mem_of_shownMember? {name : String}
    (shown : value.shownMember? name = .ok (some found)) :
    found.IsAtom ∨ found ∈ value.parts := by
  rw [shownMember?] at shown
  split at shown
  · cases read : value.member? name with
    | error fault =>
        rw [read] at shown
        cases shown
    | ok member =>
        rw [read] at shown
        obtain ⟨rfl, _⟩ := Option.filter_eq_some_iff.mp (Except.ok.inj shown)
        exact isAtom_or_mem_of_member? read
  · cases shown

/-- What a segment leads to is made for the question, or it is a part of the value. -/
theorem isAtom_or_mem_of_resolve {segment : String}
    (resolved : Registry.standard.resolve value segment = .ok (some found)) :
    found.IsAtom ∨ found ∈ value.parts := by
  cases position : value.isIndexable && isIndexSegment segment with
  | true =>
      have ⟨indexable, index⟩ := Bool.and_eq_true_iff.mp position
      rw [Registry.resolve_standard_of_index indexable index] at resolved
      exact isAtom_or_mem_of_atPosition index resolved
  | false =>
      by_cases null : value = .null
      · subst null
        cases resolved
      · rw [Registry.resolve_standard_of_other null position] at resolved
        cases isMapping : Resolver.mappingEntries? value with
        | none =>
            rw [isMapping] at resolved
            exact isAtom_or_mem_of_shownMember? resolved
        | some entries =>
            rw [isMapping] at resolved
            exact .inr (mem_of_mappingEntries? isMapping found
              ( mem_of_entry? (Except.ok.inj resolved)))

namespace IsStreamless

variable (streamless : value.IsStreamless)
include streamless

theorem of_isAtom_or_mem (taken : found.IsAtom ∨ found ∈ value.parts) : found.IsStreamless :=
  taken.elim IsAtom.isStreamless streamless.of_mem_parts

theorem elements? {spent : List Nat} {items : List Value}
    (passed : value.elements? sorting spent = .ok (some items)) : ∀ item ∈ items, item.IsStreamless :=
  fun item member => streamless.of_isAtom_or_mem (isAtom_or_mem_of_elements? passed item member)

theorem resolve {segment : String}
    (resolved : Registry.standard.resolve value segment = .ok (some found)) :
    found.IsStreamless :=
  streamless.of_isAtom_or_mem (isAtom_or_mem_of_resolve resolved)

end IsStreamless

theorem isStreamless_map_iff {entries : List (Value × Value)} :
    (Value.map entries).IsStreamless ↔
      ∀ entry ∈ entries, entry.1.IsStreamless ∧ entry.2.IsStreamless := by
  constructor
  · intro streamless entry member
    exact ⟨streamless.of_mem_parts (List.mem_append_left _ (List.mem_map_of_mem member)),
      streamless.of_mem_parts (List.mem_append_right _ (List.mem_map_of_mem member))⟩
  · intro each
    refine .mk id fun part member => ?_
    rcases List.mem_append.mp member with inKeys | inValues
    · obtain ⟨entry, listed, rfl⟩ := List.mem_map.mp inKeys
      exact (each entry listed).1
    · obtain ⟨entry, listed, rfl⟩ := List.mem_map.mp inValues
      exact (each entry listed).2

theorem IsStreamless.putEntry {key : String} {entries : List (Value × Value)}
    (streamless : (Value.map entries).IsStreamless) (streamlessValue : value.IsStreamless) :
    (Value.map (putEntry key value entries)).IsStreamless :=
  isStreamless_map_iff.mpr
    (forall_mem_putEntry (isStreamless_map_iff.mp streamless)
      ⟨IsAtom.isStreamless ⟨rfl, id⟩, streamlessValue⟩)

/-- The same value, without a stream in it. -/
def SameStreamless (value value' : Value) : Prop := value' = value ∧ value.IsStreamless

theorem optionRel_sameStreamless {found : Option Value}
    (streamless : ∀ value, found = some value → value.IsStreamless) :
    Option.Rel SameStreamless found found := by
  cases found with
  | none => exact .none
  | some value => exact .some ⟨rfl, streamless value rfl⟩

end Value

theorem Registry.standard_respects_sameStreamless : standard.Respects Value.SameStreamless := by
  rintro _ value segment ⟨rfl, streamless⟩
  cases resolved : standard.resolve value segment with
  | error fault => exact .error fault
  | ok found =>
      refine .ok (Value.optionRel_sameStreamless fun next isNext => ?_)
      subst isNext
      exact streamless.resolve resolved

end Stencil
