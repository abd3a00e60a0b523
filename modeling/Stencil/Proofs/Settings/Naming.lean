import Stencil.Proofs.Settings.Notation

set_option autoImplicit false

/-!
How the name of a variable is read. An empty segment spoils the name, or is a fault of the settings
where names are strict; a segment of digits that make no number is a fault of a numeral, wherever
no empty segment comes before it.
-/

namespace Stencil.Settings
open Text

variable {strict : Bool} {name segment : String} {parts : List String} {path : Path} {fault : Fault}

/-- Digits that make no number, as one of them is no decimal digit or they are too many. -/
structure IsUnreadableSegment (segment : String) : Prop where
  filled : segment ≠ ""
  digits : ∀ c ∈ segment.toList, isDigit c = true
  broken : (∃ c ∈ segment.toList, isDecimal c = false) ∨ numeralLimit < segment.length

/-- One of the segments is unreadable, and none before it is empty. -/
inductive HasUnreadable : List String → Prop where
  | here {segment rest} : IsUnreadableSegment segment → HasUnreadable (segment :: rest)
  | later {segment rest} : segment ≠ "" → HasUnreadable rest → HasUnreadable (segment :: rest)

theorem isUnreadableSegment_iff (filled : segment ≠ "")
    (digits : ∀ c ∈ segment.toList, isDigit c = true) :
    IsUnreadableSegment segment ↔ ∃ fault, readInt segment = .error fault := by
  have nonempty : segment.toList ≠ [] := by simpa using filled
  rw [exists_readInt_eq_error_iff_not, exists_readInt_iff_of_digits digits]
  constructor
  · rintro ⟨_, _, ⟨c, member, odd⟩ | tooLong⟩ readable
    · rw [readable.decimal c member] at odd
      cases odd
    · exact Nat.not_lt.mpr readable.within (by rwa [String.length_toList])
  · intro unreadable
    refine ⟨filled, digits, ?_⟩
    by_contra sound
    simp only [not_or, not_exists, not_and, Bool.not_eq_false, Nat.not_lt] at sound
    exact unreadable ⟨nonempty, sound.1, by rw [String.length_toList]; exact sound.2⟩

theorem isUnreadable_of_readStep (filled : segment ≠ "") (failed : readStep segment = .error fault) :
    IsUnreadableSegment segment ∧ ∃ numeral, fault = .numeral numeral := by
  rw [readStep] at failed
  split at failed
  next digits =>
    obtain ⟨numeral, unread, rfl⟩ := exists_of_readInt_map failed
    have unreadable :=
      (isUnreadableSegment_iff filled (List.all_eq_true.mp digits)).mpr ⟨numeral, unread⟩
    exact ⟨unreadable, numeral, rfl⟩
  · cases failed

theorem exists_readStep_of_isUnreadable (unreadable : IsUnreadableSegment segment) :
    ∃ numeral, readStep segment = .error (.numeral numeral) := by
  obtain ⟨numeral, unread⟩ :=
    (isUnreadableSegment_iff unreadable.filled unreadable.digits).mp unreadable
  refine ⟨numeral, ?_⟩
  rw [readStep, if_pos (List.all_eq_true.mpr unreadable.digits), unread]
  rfl

/-! The path of a name has a step for each segment, or none at all. -/

theorem readSegments_empty :
    readSegments strict name ("" :: parts) =
      if strict then .error (.malformedVariable name) else .ok [] := by
  simp [readSegments]

theorem readSegments_cons (filled : segment ≠ "") :
    readSegments strict name (segment :: parts) = do
      let step ← readStep segment
      let path ← readSegments strict name parts
      return if path = [] ∧ parts ≠ [] then [] else step :: path := by
  have notEmpty : segment.isEmpty = false := by simpa using filled
  rw [readSegments, notEmpty, if_neg Bool.false_ne_true]
  refine congrArg _ (funext fun step => congrArg _ (funext fun path => ?_))
  cases path <;> cases parts <;> simp

/-- Only an empty segment or an unreadable one makes reading a name fail. -/
theorem fault_of_readSegments (failed : readSegments strict name parts = .error fault) :
    (fault = .malformedVariable name ∧ "" ∈ parts) ∨
      HasUnreadable parts ∧ ∃ numeral, fault = .numeral numeral := by
  induction parts with
  | nil => cases failed
  | cons segment rest inductionHypothesis =>
      by_cases filled : segment = ""
      · subst filled
        cases strict <;> simp [readSegments_empty] at failed
        exact .inl ⟨failed.symm, List.mem_cons_self⟩
      · rw [readSegments_cons filled] at failed
        rcases eq_error_of_bind failed with here | ⟨step, _, failed⟩
        · obtain ⟨unreadable, numeral⟩ := isUnreadable_of_readStep filled here
          exact .inr ⟨.here unreadable, numeral⟩
        rcases eq_error_of_bind failed with later | ⟨path, _, failed⟩
        · rcases inductionHypothesis later with ⟨same, empty⟩ | ⟨unreadable, numeral⟩
          · exact .inl ⟨same, List.mem_cons_of_mem _ empty⟩
          · exact .inr ⟨.later filled unreadable, numeral⟩
        · cases failed

theorem exists_readSegments_of_hasUnreadable (strict : Bool) (name : String)
    (unreadable : HasUnreadable parts) :
    ∃ numeral, readSegments strict name parts = .error (.numeral numeral) := by
  induction unreadable with
  | here unreadable =>
      obtain ⟨numeral, failed⟩ := exists_readStep_of_isUnreadable unreadable
      rw [readSegments_cons unreadable.filled, failed]
      exact ⟨numeral, rfl⟩
  | @later segment rest filled _ inductionHypothesis =>
      obtain ⟨numeral, failed⟩ := inductionHypothesis
      rw [readSegments_cons filled, failed]
      cases here : readStep segment with
      | error own =>
          obtain ⟨_, numeral, rfl⟩ := isUnreadable_of_readStep filled here
          exact ⟨numeral, rfl⟩
      | ok step => exact ⟨numeral, rfl⟩

/-- A name that is read leads nowhere just if a segment is empty. -/
theorem readSegments_eq_nil_iff (read : readSegments strict name parts = .ok path)
    (some : parts ≠ []) : path = [] ↔ "" ∈ parts := by
  induction parts generalizing path with
  | nil => exact absurd rfl some
  | cons segment rest inductionHypothesis =>
      by_cases filled : segment = ""
      · subst filled
        cases strict <;> simp [readSegments_empty] at read
        simp [read]
      · rw [readSegments_cons filled] at read
        obtain ⟨step, _, read⟩ := exists_of_bind_eq_ok read
        obtain ⟨others, later, read⟩ := exists_of_bind_eq_ok read
        cases read
        -- The last segment has no others after it, which could lead nowhere.
        cases rest with
        | nil => simp [Ne.symm filled]
        | cons next rest =>
            have spoiled := inductionHypothesis later (List.cons_ne_nil _ _)
            rw [List.mem_cons, or_iff_right (Ne.symm filled), ← spoiled]
            by_cases nowhere : others = [] <;> simp [nowhere]

/-! The name as a whole. -/

theorem segments_ne_nil (name : String) : segments name ≠ [] := by
  unfold segments
  split <;> simp [splitAt]

theorem segments_empty : segments "" = [""] := by decide

theorem readPath_of_ne_empty (named : name ≠ "") :
    readPath strict name = readSegments strict name (segments name) := by
  simp [readPath, named]

theorem fault_of_readPath (failed : readPath strict name = .error fault) :
    (fault = .malformedVariable name ∧ "" ∈ segments name) ∨
      HasUnreadable (segments name) ∧ ∃ numeral, fault = .numeral numeral := by
  by_cases named : name = ""
  · subst named
    cases failed
  · rw [readPath_of_ne_empty named] at failed
    exact fault_of_readSegments failed

theorem exists_readPath_of_hasUnreadable (strict : Bool)
    (unreadable : HasUnreadable (segments name)) :
    ∃ numeral, readPath strict name = .error (.numeral numeral) := by
  have named : name ≠ "" := by
    rintro rfl
    rw [segments_empty] at unreadable
    cases unreadable with
    | here unreadable => exact unreadable.filled rfl
    | later filled _ => exact filled rfl
  rw [readPath_of_ne_empty named]
  exact exists_readSegments_of_hasUnreadable strict name unreadable

theorem readPath_eq_nil_iff (read : readPath strict name = .ok path) :
    path = [] ↔ "" ∈ segments name := by
  by_cases named : name = ""
  · subst named
    cases read
    simp [segments_empty]
  · rw [readPath_of_ne_empty named] at read
    exact readSegments_eq_nil_iff read (segments_ne_nil name)

end Stencil.Settings
