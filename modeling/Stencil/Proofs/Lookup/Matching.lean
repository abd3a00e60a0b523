import Stencil.Proofs.Lookup.Execution
import Stencil.Proofs.Resolve.Agreement
import Stencil.Proofs.Value.Classification

set_option autoImplicit false

/-!
Two runs compared from related sessions, with results that need not be the same: both are cut short
in the same way or have results that are alike, and they leave related sessions. Runs in a row, and
loops over lists of the same length, match if their steps do.
-/

namespace Stencil

/-- Blocks go through two values in like manner: the elements are alike one by one, the conditions
are the same, and the same stream is used up. -/
structure Value.PassedAlike (alike : Value → Value → Prop) (value value' : Value) : Prop where
  elements : ∀ sorting spent, Agree (Option.Rel (List.Forall₂ alike))
    (value.elements? sorting spent) (value'.elements? sorting spent)
  condition : ∀ spent, value'.condition spent = value.condition spent
  spends : value'.spends? = value.spends?

theorem Value.passedAlike_self {alike : Value → Value → Prop} {value : Value}
    (each : ∀ sorting spent items, value.elements? sorting spent = .ok (some items) →
      ∀ item ∈ items, alike item item) : value.PassedAlike alike value where
  elements sorting spent := by
    cases passed : value.elements? sorting spent with
    | error fault => exact .error fault
    | ok elements =>
        cases elements with
        | none => exact .ok .none
        | some items => exact .ok (.some (List.forall₂_same.mpr (each sorting spent items passed)))
  condition _ := rfl
  spends := rfl

namespace Run

variable {α β γ δ : Type} {related : Session → Session → Prop} {alike : α → β → Prop}
  {alike' : γ → δ → Prop} {run : Run α} {run' : Run β} {next : α → Run γ} {next' : β → Run δ}

/-- From related sessions the runs end alike, and the sessions after them are related again. -/
def Matches (related : Session → Session → Prop) (alike : α → β → Prop) (run : Run α)
    (run' : Run β) : Prop :=
  ∀ session session', related session session' →
    Agree alike (run.execute session).1 (run'.execute session').1 ∧
      related (run.execute session).2 (run'.execute session').2

theorem Matches.imp {alike' : α → β → Prop} (matched : Matches related alike run run')
    (weaker : ∀ value value', alike value value' → alike' value value') :
    Matches related alike' run run' := by
  intro session session' holds
  have ⟨agree, later⟩ := matched session session' holds
  exact ⟨agree.imp weaker, later⟩

theorem matches_pure {value : α} {value' : β} (likeness : alike value value') :
    Matches related alike (pure value) (pure value') :=
  fun _ _ holds => ⟨.ok likeness, holds⟩

theorem matches_throw (interrupt : Interrupt) :
    Matches related alike (throw interrupt) (throw interrupt) :=
  fun _ _ holds => ⟨.error interrupt, holds⟩

theorem matches_ofExcept {result : Except Fault α} {result' : Except Fault β}
    (agree : Agree alike result result') :
    Matches related alike (ofExcept result) (ofExcept result') := by
  intro session session' holds
  rw [execute_ofExcept, execute_ofExcept]
  exact ⟨agree.mapError Interrupt.fault, holds⟩

theorem Matches.bind_of_ok (first : Matches related alike run run')
    (others : ∀ session value later value', run.execute session = (.ok value, later) →
      alike value value' → Matches related alike' (next value) (next' value')) :
    Matches related alike' (run >>= next) (run' >>= next') := by
  intro session session' holds
  obtain ⟨agree, middle⟩ := first session session' holds
  rw [execute_bind, execute_bind]
  rcases executed : run.execute session with ⟨outcome, later⟩
  rcases executed' : run'.execute session' with ⟨outcome', later'⟩
  rw [executed, executed'] at agree middle
  cases agree with
  | ok likeness => exact others session _ later _ executed likeness later later' middle
  | error interrupt => exact ⟨.error interrupt, middle⟩

theorem Matches.bind (first : Matches related alike run run')
    (others : ∀ value value', alike value value' →
      Matches related alike' (next value) (next' value')) :
    Matches related alike' (run >>= next) (run' >>= next') :=
  first.bind_of_ok fun _ value _ value' _ => others value value'

theorem Matches.map {transform : α → γ} {transform' : β → δ}
    (first : Matches related alike run run')
    (others : ∀ value value', alike value value' → alike' (transform value) (transform' value')) :
    Matches related alike' (transform <$> run) (transform' <$> run') := by
  rw [← bind_pure_comp, ← bind_pure_comp]
  exact first.bind fun value value' likeness => matches_pure (others value value' likeness)

/-- Runs that end alike do so whether or not their faults are caught. -/
theorem Matches.attempt (matched : Matches related alike run run') :
    Matches related (Agree alike) run.attempt run'.attempt := by
  intro session session' holds
  have ⟨agree, later⟩ := matched session session' holds
  rw [execute_attempt, execute_attempt]
  rcases executed : run.execute session with ⟨outcome, left⟩
  rcases executed' : run'.execute session' with ⟨outcome', left'⟩
  rw [executed, executed'] at agree later
  cases agree with
  | ok likeness => exact ⟨.ok (.ok likeness), later⟩
  | error interrupt =>
      cases interrupt with
      | fault fault => exact ⟨.ok (.error fault), later⟩
      | halted => exact ⟨.error Interrupt.halted, later⟩
      | exhausted => exact ⟨.error Interrupt.exhausted, later⟩

theorem matches_get {next : Session → Run γ} {next' : Session → Run δ}
    (others : ∀ session session', related session session' →
      Matches related alike' (next session) (next' session')) :
    Matches related alike' (get >>= next) (get >>= next') :=
  fun session session' holds => others session session' holds session session' holds

theorem matches_forM {Item Item' : Type} {alikeItems : Item → Item' → Prop} {items : List Item}
    {items' : List Item'} {visit : Item → Run Unit} {visit' : Item' → Run Unit}
    (likeness : List.Forall₂ alikeItems items items')
    (each : ∀ item item', alikeItems item item' →
      Matches related Eq (visit item) (visit' item')) :
    Matches related Eq (items.forM visit) (items'.forM visit') := by
  induction likeness with
  | nil => exact matches_pure rfl
  | @cons item item' rest rest' first _ inductionHypothesis =>
      show Matches related Eq (visit item >>= fun _ => rest.forM visit)
        (visit' item' >>= fun _ => rest'.forM visit')
      exact (each item item' first).bind fun _ _ _ => inductionHypothesis

/-- Writing goes by the sink, and leaves an entry in the trace and what is left of the sink. -/
theorem matches_emit {chunk : String}
    (sameSink : ∀ session session', related session session' → session'.sink = session.sink)
    (written : Matches related Eq (record (.wrote chunk)) (record (.wrote chunk)))
    (resink : ∀ sink session session', related session session' →
      related { session with sink } { session' with sink }) :
    Matches related Eq (emit chunk) (emit chunk) := by
  have setSink : ∀ sink, Matches related Eq
      (modify fun session => { session with sink }) (modify fun session => { session with sink }) :=
    fun sink session session' holds => ⟨.ok rfl, resink sink session session' holds⟩
  apply matches_get
  intro session session' holds
  rw [sameSink session session' holds]
  split
  · exact written
  · exact matches_throw _
  · exact written.bind fun _ _ _ => setSink _
  · apply written.bind
    intro _ _ _
    have halted : Matches related Eq (throw .halted : Run PUnit) (throw .halted) :=
      matches_throw _
    have unhalted : Matches related Eq (pure ⟨⟩ : Run PUnit) (pure ⟨⟩) := matches_pure rfl
    split
    · exact halted.bind fun _ _ _ => setSink _
    · exact unhalted.bind fun _ _ _ => setSink _

/-- What a pass over two values comes to, and what it uses up, is alike. -/
theorem matches_elements? {alike : Value → Value → Prop} {sorting : Sorting}
    {value value' : Value}
    (sameSpent : ∀ session session', related session session' → session'.spent = session.spent)
    (spend : ∀ stream, Matches related Eq (spend stream) (spend stream))
    (likeness : value.PassedAlike alike value') :
    Matches related (Option.Rel (List.Forall₂ alike)) (elements? sorting value)
      (elements? sorting value') := by
  apply matches_get
  intro session session' holds
  rw [sameSpent session session' holds]
  apply (matches_ofExcept (likeness.elements sorting session.spent)).bind
  intro items items' likeItems
  rw [likeness.spends]
  exact (spend _).bind fun _ _ _ => matches_pure likeItems

theorem matches_condition {alike : Value → Value → Prop} {value value' : Value}
    (sameSpent : ∀ session session', related session session' → session'.spent = session.spent)
    (spend : ∀ stream, Matches related Eq (spend stream) (spend stream))
    (likeness : value.PassedAlike alike value') :
    Matches related Eq (condition value) (condition value') := by
  apply matches_get
  intro session session' holds
  rw [sameSpent session session' holds, likeness.condition, Value.conditionSpends?_eq_spends?,
    Value.conditionSpends?_eq_spends?, likeness.spends]
  exact (spend _).bind fun _ _ _ => matches_ofExcept (.of_eq rfl)

end Run
end Stencil
