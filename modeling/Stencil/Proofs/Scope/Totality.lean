import Stencil.Proofs.Lookup.Plain
import Stencil.Proofs.Resolve.Position
import Stencil.Proofs.Scope.Delegation
import Stencil.Proofs.Text.Split

set_option autoImplicit false

/-!
When a lookup has an answer. A search asks values for segments, one after the other, and it fails
just if one of them fails to answer. With the standard resolvers, calm values refuse nothing but
positions: those whose numeral is too long, those in a collection too long to be measured, and those
that a collection claims to have and has not.
-/

namespace Stencil

namespace ScopeSettings

variable {settings : ScopeSettings} {segment : String} {asked : Value} {chain : List Value}

/-- A value that is asked and fails ends the search. -/
theorem Asks.resolveOutward_eq_error {fault : Fault} (isAsked : settings.Asks segment chain asked)
    (failed : settings.resolveOwn asked segment = .error fault) :
    settings.resolveOutward segment chain = .error fault := by
  induction isAsked with
  | here => exact resolveOutward_cons_error failed
  | outward own _ inductionHypothesis =>
      rw [resolveOutward_cons_none own, inductionHypothesis failed]

end ScopeSettings

namespace Scope

variable {scope : Scope} {path : String}

/-- On the way along the path, the value is asked for the segment. -/
inductive Resolves (scope : Scope) (path : String) : Value → String → Prop where
  | first {asked} :
      scope.settings.isCurrent path = false →
      scope.settings.isCurrent (scope.firstSegment path) = false →
      scope.settings.Asks (scope.firstSegment path) scope.chain asked →
      Resolves scope path asked (scope.firstSegment path)
  | later {found reached segment ahead} :
      scope.settings.isCurrent path = false →
      scope.StartsAt path found →
      scope.settings.registry.Trail found (scope.laterSegments path) reached (segment :: ahead) →
      Resolves scope path reached segment

theorem undisturbed_of_resolves (other : scope.settings.isCurrent path = false)
    (answered : ∀ value segment, scope.Resolves path value segment →
      ∃ found, scope.settings.registry.resolve value segment = .ok found) :
    scope.Undisturbed path := by
  constructor
  · intro asked isAsked
    cases current : scope.settings.isCurrent (scope.firstSegment path) with
    | true => exact ⟨some asked, if_pos current⟩
    | false =>
        obtain ⟨found, resolved⟩ := answered asked _ (.first other current isAsked)
        exact ⟨found, (if_neg (by simp [current])).trans resolved⟩
  · intro found reached segment ahead starts trail
    exact answered reached segment (.later other starts trail)

theorem Resolves.find_eq_error {value : Value} {segment : String} {fault : Fault}
    (separated : scope.settings.separator ≠ "") (resolves : scope.Resolves path value segment)
    (failed : scope.settings.registry.resolve value segment = .error fault) :
    scope.find path = .error fault := by
  cases resolves with
  | first other otherFirst isAsked =>
      have own : scope.settings.resolveOwn value (scope.firstSegment path) = .error fault :=
        (if_neg (by simp [otherFirst])).trans failed
      rw [find_of_not_isCurrent separated other, isAsked.resolveOutward_eq_error own]
      rfl
  | later other starts trail =>
      rw [find_of_not_isCurrent separated other,
        ScopeSettings.resolveOutward_eq_some_iff.mpr starts]
      exact trail.walk.trans (Registry.walk_cons_error failed)

/-- A search has an answer just if every value asked on the way has one. -/
theorem exists_find_eq_ok_iff (separated : scope.settings.separator ≠ "") :
    (∃ reach, scope.find path = .ok reach) ↔
      ∀ value segment, scope.Resolves path value segment →
        ∃ found, scope.settings.registry.resolve value segment = .ok found := by
  constructor
  · rintro ⟨reach, found⟩ value segment resolves
    cases resolved : scope.settings.registry.resolve value segment with
    | ok answer => exact ⟨answer, rfl⟩
    | error fault =>
        rw [resolves.find_eq_error separated resolved] at found
        cases found
  · intro answered
    cases current : scope.settings.isCurrent path with
    | true => exact ⟨.found scope.value, find_of_isCurrent current⟩
    | false => exact exists_find_eq_ok separated (undisturbed_of_resolves current answered)

/-- A row of digits is a path of one segment, which denotes no scope itself. -/
theorem find_root_of_index {family : Nat} {value : Value} (indexable : value.isIndexable = true)
    (index : isIndexSegment path = true) :
    (Scope.root family .standard value).find path =
      (Resolver.atPosition value path).map fun item =>
        match item with
        | some item => .found item
        | none => .missing path := by
  have ⟨nonempty, digits⟩ := Bool.and_eq_true_iff.mp index
  have digit : ∀ c ∈ path.toList, ('0' ≤ c && c ≤ '9') = true := List.all_eq_true.mp digits
  -- Neither the separator nor a key for the scope itself is made of digits.
  have undotted : '.' ∉ path.toList := fun dot => absurd (digit '.' dot) (by decide)
  have lettered : 't' ∉ path.toList := fun letter => absurd (digit 't' letter) (by decide)
  have other : ScopeSettings.standard.isCurrent path = false := by
    have noDot : path ≠ "." := by
      rintro rfl
      exact undotted (by decide)
    have noThis : path ≠ "this" := by
      rintro rfl
      exact lettered (by decide)
    simp [ScopeSettings.isCurrent, ScopeSettings.standard, Value.isText, noDot, noThis]
  have whole : Text.pieces "." path = (path, []) :=
    Text.pieces_of_not_infix fun dotted => undotted (dotted.subset (by decide))
  have first : (Scope.root family .standard value).firstSegment path = path :=
    congrArg Prod.fst whole
  have later : (Scope.root family .standard value).laterSegments path = [] :=
    congrArg Prod.snd whole
  have own : ScopeSettings.standard.resolveOwn value path = Resolver.atPosition value path :=
    (if_neg (by simp [other])).trans (Registry.resolve_standard_of_index indexable index)
  rw [find_of_not_isCurrent (show "." ≠ "" by decide) other, first]
  show ScopeSettings.standard.resolveOutward path [value] >>= _ = _
  cases resolved : Resolver.atPosition value path with
  | error fault => rw [ScopeSettings.resolveOutward_cons_error (own.trans resolved)]; rfl
  | ok item =>
      cases item with
      | some item =>
          rw [ScopeSettings.resolveOutward_cons_some (own.trans resolved)]
          show Registry.walk _ item _ = _
          rw [later]
          rfl
      | none =>
          rw [ScopeSettings.resolveOutward_cons_none (own.trans resolved)]
          show Except.ok (Reach.missing _) = _
          rw [first]
          rfl

end Scope

namespace Lookup

/-- With the standard resolvers and no handlers, a lookup along any path that asks calm values has
an answer and changes nothing, unless one of them refuses a position; and then it has none. A
position that is not refused has the item there for an answer, or none beyond the length. -/
theorem exists_execute_standard_iff (behaviour : Behaviour) (scope : Scope) (path : String)
    (session : Session) (registry : scope.settings.registry = .standard)
    (separated : scope.settings.separator ≠ "") (unheard : session.Unheard scope.family)
    (calm : ∀ value segment, scope.Resolves path value segment → value.IsCalm) :
    ((∃ found, (standard behaviour scope path).execute session = (.ok found, session)) ↔
        ∀ value segment, scope.Resolves path value segment → ¬value.Refuses segment) ∧
      ∀ value segment, scope.Resolves path value segment → value.isIndexable = true →
        isIndexSegment segment = true → ¬value.Refuses segment →
        scope.settings.registry.resolve value segment =
          .ok (if Value.position segment < value.toldLength
            then value.item? (Value.position segment) else none) := by
  constructor
  · have searched : (∃ found, (standard behaviour scope path).execute session =
        (.ok found, session)) ↔ ∃ reach, scope.find path = .ok reach := by
      rw [execute_standard_of_unheard unheard]
      cases scope.find path <;> simp [Except.map, Except.mapError]
    rw [searched, Scope.exists_find_eq_ok_iff separated]
    refine forall_congr' fun value => forall_congr' fun segment => forall_congr' fun resolves => ?_
    rw [registry]
    exact Registry.exists_resolve_standard_iff (calm value segment resolves)
  · intro value segment _ indexable index answering
    rw [registry, Registry.resolve_standard_of_index indexable index]
    exact Resolver.atPosition_of_not_refuses indexable index answering

def letters : Scope := .root 0 .standard (.list [.text "a", .text "b"])

theorem letters_isCalm : letters.value.IsCalm := fun _ => ⟨none, rfl⟩

/-- The lookup of a short position. -/
theorem exists_execute_letters :
    (∃ found, (standard (fun _ _ => .done) letters "1").execute .initial = (.ok found, .initial)) ∧
      Registry.standard.resolve letters.value "1" = .ok (some (.text "b")) := by
  have asked : ∀ value segment, letters.Resolves "1" value segment →
      value = letters.value ∧ segment = "1" := by
    intro value segment resolves
    cases resolves with
    | first _ _ isAsked =>
        cases isAsked with
        | here => exact ⟨rfl, rfl⟩
        | outward _ nowhere => cases nowhere
    | later _ _ trail => cases trail
  have answering : ¬letters.value.Refuses "1" := by
    rintro ⟨_, _, long | out | ⟨_, absent⟩⟩
    · exact absurd long (by decide)
    · exact absurd out (by decide)
    · cases absent
  have calm : ∀ value segment, letters.Resolves "1" value segment → value.IsCalm :=
    fun value segment resolves => (asked value segment resolves).1 ▸ letters_isCalm
  have ⟨total, positions⟩ := exists_execute_standard_iff (fun _ _ => .done) letters "1" .initial rfl
    (by decide) rfl calm
  constructor
  · refine total.mpr fun value segment resolves => ?_
    obtain ⟨rfl, rfl⟩ := asked value segment resolves
    exact answering
  · exact positions letters.value "1" (.first rfl rfl .here) rfl rfl answering

def ones (count : Nat) : String := String.ofList (List.replicate count '1')

theorem isIndexSegment_ones (count : Nat) : isIndexSegment (ones (count + 1)) = true := by
  have nonempty : (ones (count + 1)).isEmpty = false := by simp [ones, List.replicate_succ]
  have digits : ((ones (count + 1)).toList.all fun c => '0' ≤ c && c ≤ '9') = true := by
    rw [ones, String.toList_ofList, List.all_eq_true]
    intro c member
    rw [List.eq_of_mem_replicate member]
    decide
  rw [isIndexSegment, nonempty, digits]
  rfl

def longPosition : String := ones (Text.numeralLimit + 1)

/-- A list that holds no item at a position may fail instead of answering with none. -/
theorem execute_longPosition_eq_tooLong :
    letters.settings.registry = .standard ∧ letters.settings.separator ≠ "" ∧
      Session.initial.Unheard letters.family ∧ letters.value.IsCalm ∧
      letters.value.isIndexable = true ∧ isIndexSegment longPosition = true ∧
      (standard (fun _ _ => .done) letters longPosition).execute .initial =
        (.error (.fault (.numeral (.tooLong (Text.numeralLimit + 1)))), .initial) := by
  have index : isIndexSegment longPosition = true := isIndexSegment_ones _
  have unheard : Session.initial.Unheard letters.family := rfl
  have length : longPosition.length = Text.numeralLimit + 1 :=
    String.length_ofList.trans List.length_replicate
  refine ⟨rfl, by decide, rfl, letters_isCalm, rfl, index, ?_⟩
  rw [execute_standard_of_unheard unheard, letters, Scope.find_root_of_index rfl index,
    Resolver.atPosition_eq index, length, if_pos (Nat.lt_succ_self _)]
  rfl

end Lookup
end Stencil
