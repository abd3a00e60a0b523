import Stencil.Proofs.Resolve.Position
import Stencil.Proofs.Settings.Failure
import Stencil.Proofs.Settings.Relevance

set_option autoImplicit false

/-!
Variables whose name has an empty segment. They are passed over, unless names are strict; then they
are faults. So lenient loading is strict loading without them, wherever the other names and texts
can be read.
-/

namespace Stencil.Settings
open Text

variable {strict : Bool} {v : Variable} {name : String} {parts : List String} {path : Path}

/-- The name, beyond the mark, is not empty but a segment of it is. -/
def Variable.isSpoiled (v : Variable) : Bool :=
  match v.path? with
  | none => false
  | some name => !name.isEmpty && (segments name).contains ""

theorem isSpoiled_of_path? (named : v.path? = some name) :
    v.isSpoiled = true ↔ name ≠ "" ∧ "" ∈ segments name := by
  simp [Variable.isSpoiled, named]

/-- Digits in names are plain ones and not too many, and all texts can be read. -/
structure Environment.IsSound (environment : Environment) : Prop where
  names : ∀ v ∈ environment, ∀ name, v.path? = some name → ∀ segment ∈ segments name,
    (segment ≠ "" ∧ ∀ c ∈ segment.toList, isDigit c = true) →
    (∀ c ∈ segment.toList, Document.isPlainDigit c = true) ∧ segment.length ≤ numeralLimit
  texts : ∀ v ∈ environment, v.path? ≠ none → ∃ value, coerce v.text = .ok value

theorem exists_mem_of_hasUnreadable (unreadable : HasUnreadable parts) :
    ∃ segment ∈ parts, IsUnreadableSegment segment := by
  induction unreadable with
  | @here segment rest unreadable => exact ⟨segment, List.mem_cons_self, unreadable⟩
  | later _ _ inductionHypothesis =>
      obtain ⟨segment, member, unreadable⟩ := inductionHypothesis
      exact ⟨segment, List.mem_cons_of_mem _ member, unreadable⟩

theorem Environment.IsSound.not_jams {environment : Environment} (sound : environment.IsSound)
    (member : v ∈ environment) : ¬v.Jams := by
  intro jams
  cases jams with
  | @name name named unreadable =>
      obtain ⟨segment, part, filled, digits, broken⟩ := exists_mem_of_hasUnreadable unreadable
      obtain ⟨plain, within⟩ := sound.names v member name named segment part ⟨filled, digits⟩
      rcases broken with ⟨c, inside, odd⟩ | tooLong
      · rw [isDecimal_of_ascii (plain c inside)] at odd
        cases odd
      · exact absurd within (Nat.not_le.mpr tooLong)
  | @text name named full unreadable =>
      obtain ⟨value, read⟩ := sound.texts v member (by simp [named])
      obtain ⟨numeral, unread⟩ := exists_coerce_of_isUnreadable unreadable
      rw [read] at unread
      cases unread

/-! Reading names in the two ways. -/

theorem readSegments_of_filled (filled : "" ∉ parts) :
    readSegments false name parts = readSegments true name parts := by
  induction parts with
  | nil => rfl
  | cons segment rest inductionHypothesis =>
      rw [List.mem_cons, not_or] at filled
      have nonempty : segment ≠ "" := Ne.symm filled.1
      rw [readSegments_cons nonempty, readSegments_cons nonempty, inductionHypothesis filled.2]

theorem filled_of_readSegments (read : readSegments true name parts = .ok path) : "" ∉ parts := by
  induction parts generalizing path with
  | nil => simp
  | cons segment rest inductionHypothesis =>
      by_cases empty : segment = ""
      · subst empty
        simp [readSegments_empty] at read
      · rw [readSegments_cons empty] at read
        obtain ⟨step, _, read⟩ := exists_of_bind_eq_ok read
        obtain ⟨others, later, _⟩ := exists_of_bind_eq_ok read
        simp [Ne.symm empty, inductionHypothesis later]

theorem exists_readSegments_of_lenient (name : String) (readable : ¬HasUnreadable parts) :
    ∃ path, readSegments false name parts = .ok path := by
  induction parts with
  | nil => exact ⟨[], rfl⟩
  | cons segment rest inductionHypothesis =>
      by_cases empty : segment = ""
      · subst empty
        exact ⟨[], by simp [readSegments_empty]⟩
      · obtain ⟨others, later⟩ := inductionHypothesis fun unreadable =>
          readable (.later empty unreadable)
        cases here : readStep segment with
        | error fault => exact absurd (.here (isUnreadable_of_readStep empty here).1) readable
        | ok step =>
            rw [readSegments_cons empty, here, later]
            exact ⟨_, rfl⟩

theorem override?_of_unspoiled (unspoiled : v.isSpoiled = false) :
    v.override? false = v.override? true := by
  unfold Variable.override?
  cases named : v.path? with
  | none => rfl
  | some name =>
      have alike : readPath false name = readPath true name := by
        by_cases empty : name = ""
        · simp [readPath, empty]
        · rw [readPath_of_ne_empty empty, readPath_of_ne_empty empty]
          apply readSegments_of_filled
          intro spoiled
          rw [(isSpoiled_of_path? named).mpr ⟨empty, spoiled⟩] at unspoiled
          cases unspoiled
      simp only [alike]

/-- A variable that is spoiled makes no override, and it is a fault where names are strict. -/
theorem override?_of_spoiled (smooth : ¬v.Jams) (spoiled : v.isSpoiled = true) :
    v.override? false = .ok none ∧ ∃ fault, v.override? true = .error fault := by
  cases named : v.path? with
  | none => simp [Variable.isSpoiled, named] at spoiled
  | some name =>
      obtain ⟨nonempty, empty⟩ := (isSpoiled_of_path? named).mp spoiled
      have readable : ¬HasUnreadable (segments name) := fun unreadable =>
        smooth (.name named unreadable)
      constructor
      · obtain ⟨path, read⟩ := exists_readSegments_of_lenient name readable
        rw [← readPath_of_ne_empty nonempty] at read
        have nowhere := (readPath_eq_nil_iff read).mpr empty
        subst nowhere
        simp only [Variable.override?, named, read]
        rfl
      · cases read : readPath true name with
        | error fault =>
            refine ⟨fault, ?_⟩
            simp only [Variable.override?, named, read]
            rfl
        | ok path =>
            rw [readPath_of_ne_empty nonempty] at read
            exact absurd empty (filled_of_readSegments read)

/-! Applying variables in the two ways. -/

theorem applyVariables_lenient {vs : List Variable} (settings : Tree)
    (smooth : ∀ v ∈ vs, ¬v.Jams) :
    applyVariables false settings vs =
      applyVariables true settings (vs.filter fun v => !v.isSpoiled) := by
  induction vs generalizing settings with
  | nil => rfl
  | cons v rest inductionHypothesis =>
      obtain ⟨here, later⟩ := List.forall_mem_cons.mp smooth
      cases spoiled : v.isSpoiled with
      | true =>
          rw [List.filter_cons_of_neg (by simp [spoiled]),
            applyVariables_of_none (override?_of_spoiled here spoiled).1,
            inductionHypothesis settings later]
      | false =>
          rw [List.filter_cons_of_pos (by simp [spoiled]), applyVariables, applyVariables,
            override?_of_unspoiled spoiled]
          simp only [inductionHypothesis _ later]

theorem mem_ordered {environment : Environment} : v ∈ environment.ordered ↔ v ∈ environment :=
  List.mem_mergeSort

theorem applyEnvironment_lenient {environment : Environment} (settings : Tree)
    (sound : environment.IsSound) :
    applyEnvironment false settings environment =
      applyEnvironment true settings (environment.filter fun v => !v.isSpoiled) := by
  rw [applyEnvironment, applyEnvironment, ordered_filter]
  apply applyVariables_lenient
  intro v member
  exact sound.not_jams (mem_ordered.mp member)

/-! Variables that are faults. -/

theorem exists_override_of_readOverrides {vs : List Variable} {overrides : List Override}
    (read : readOverrides strict vs = .ok overrides) (member : v ∈ vs) :
    ∃ override?, v.override? strict = .ok override? := by
  induction vs generalizing overrides with
  | nil => cases member
  | cons first rest inductionHypothesis =>
      obtain ⟨override?, here, read⟩ := exists_of_bind_eq_ok read
      obtain ⟨others, later, _⟩ := exists_of_bind_eq_ok read
      rcases List.mem_cons.mp member with rfl | inside
      · exact ⟨override?, here⟩
      · exact inductionHypothesis later inside

theorem Reaches.mem {settings current : Tree} {vs : List Variable}
    (reaches : Reaches strict settings vs v current) : v ∈ vs := by
  induction reaches with
  | here => exact List.mem_cons_self
  | nothing _ _ inductionHypothesis => exact List.mem_cons_of_mem _ inductionHypothesis
  | assigned _ _ _ inductionHypothesis => exact List.mem_cons_of_mem _ inductionHypothesis

variable {loader : Loader} {options : LoadOptions} {project : Option Folder} {environment : Environment}

theorem exists_override_of_load {settings : Tree} {strict : Bool}
    (loaded : load loader ⟨false, strict⟩ project environment = .ok settings)
    (member : v ∈ environment) : ∃ override?, v.override? strict = .ok override? := by
  obtain ⟨base, overrides, _, asked, _⟩ := exists_of_load loaded
  exact exists_override_of_readOverrides asked (mem_ordered.mpr member)

/-- Lenient loading is strict loading without the spoiled variables; with one of them, strict loading
ends with a fault of the settings. -/
theorem load_lenient_eq (loader : Loader) (validated : Bool) (project : Option Folder)
    {environment : Environment} (sound : environment.IsSound) :
    load loader ⟨validated, false⟩ project environment =
        load loader ⟨validated, true⟩ project (environment.filter fun v => !v.isSpoiled) ∧
      ((∃ v ∈ environment, v.isSpoiled = true) →
        ∃ fault, load loader ⟨validated, true⟩ project environment = .error fault ∧
          fault.family? = some .settings) := by
  constructor
  · simp only [load, applyEnvironment_lenient _ sound]
  · rintro ⟨v, member, spoiled⟩
    have smooth : ¬IsJammed loader true project environment := by
      rintro ⟨_, reached, _, _, reaches, jams⟩
      exact sound.not_jams (mem_ordered.mp reaches.mem) jams
    have settled : IsSettled (load loader ⟨false, true⟩ project environment) :=
      isSettled_unchecked smooth
    -- The variable is read before the check, which therefore does not matter.
    rw [load_eq_checked]
    cases loaded : load loader ⟨false, true⟩ project environment with
    | error fault =>
        rw [loaded] at settled
        exact ⟨fault, rfl, settled⟩
    | ok settings =>
        obtain ⟨override?, made⟩ := exists_override_of_load loaded member
        obtain ⟨fault, unmade⟩ := (override?_of_spoiled (sound.not_jams member) spoiled).2
        rw [unmade] at made
        cases made

/-! The variables of the card with one whose name has an empty segment. -/

def draftVariables : Environment := ⟨"WHISKER_PAGE____TITLE", "Draft"⟩ :: cardVariables

theorem segments_draft : ∀ v ∈ draftVariables, ∀ name, v.path? = some name →
    ∀ segment ∈ segments name, segment ∈ ["PAGE", "", "TITLE", "TAGS", "2"] := by
  intro v member name named
  simp only [draftVariables, cardVariables, List.mem_cons, List.not_mem_nil, or_false] at member
  rcases member with rfl | rfl | rfl | rfl
  · obtain rfl : "PAGE____TITLE" = name := Option.some.inj named
    decide
  · obtain rfl : "PAGE__TITLE" = name := Option.some.inj named
    decide
  · cases named
  · obtain rfl : "PAGE__TAGS__2" = name := Option.some.inj named
    decide

theorem draftVariables_isSound : draftVariables.IsSound where
  names v member name named segment part digits := by
    have letters : isDigit 'P' = false ∧ isDigit 'T' = false := by decide
    have known := segments_draft v member name named segment part
    simp only [List.mem_cons, List.not_mem_nil, or_false] at known
    rcases known with rfl | rfl | rfl | rfl | rfl
    · simp [letters] at digits
    · simp at digits
    · simp [letters] at digits
    · simp [letters] at digits
    · exact ⟨by simp [Document.isPlainDigit], by decide⟩
  texts v member named := by
    simp only [draftVariables, cardVariables, List.mem_cons, List.not_mem_nil, or_false] at member
    rcases member with rfl | rfl | rfl | rfl
    · exact ⟨.text "Draft", rfl⟩
    · exact ⟨.text "Card", rfl⟩
    · exact absurd rfl named
    · exact ⟨.int 7, rfl⟩

theorem draft_loaded_leniently :
    draftVariables.IsSound ∧
      load .standard ⟨false, false⟩ (some [cardPage, cardEscape]) draftVariables =
        .ok (cardBase.assignAll [cardTags, cardTitle]) ∧
      ∃ fault, load .standard ⟨false, true⟩ (some [cardPage, cardEscape]) draftVariables = .error fault ∧
        fault.family? = some .settings := by
  have ⟨lenient, strict⟩ :=
    load_lenient_eq .standard false (some [cardPage, cardEscape]) draftVariables_isSound
  have others : draftVariables.filter (fun v => !v.isSpoiled) = cardVariables := by decide
  refine ⟨draftVariables_isSound, ?_, ?_⟩
  · rw [lenient, others, load_card]
  · apply strict
    exact ⟨_, List.mem_cons_self, by decide⟩

end Stencil.Settings
