import Stencil.Proofs.Lookup.Addition
import Stencil.Proofs.Lookup.Circle
import Stencil.Proofs.Render.Blocks
import Stencil.Render.Engine

set_option autoImplicit false

/-!
Sinks with enough room. A run into a sink that takes more chunks than the run writes does what it
does into a sink that takes any number, and leaves so much less room. So a reader who asks for more
chunks than there are gets all of them.
-/

namespace Stencil

/-- The second session is the first one with the second sink instead of the first. -/
def Session.Redirected (sink sink' : Sink) (session session' : Session) : Prop :=
  session.sink = sink ∧ session' = session.into sink'

/-- No handler can tell where the text goes. -/
theorem Circle.everyone_respects_redirected (sink sink' : Sink) :
    everyone.Respects Eq (Session.Redirected sink sink') where
  inner _ _ := rfl
  lists := by
    rintro session _ ⟨_, rfl⟩ family _ rfl
    exact ⟨rfl, everyone_holds _⟩
  record entry := by
    rintro session _ ⟨own, rfl⟩
    exact ⟨.ok rfl, own, rfl⟩
  edit := by
    rintro session _ ⟨own, rfl⟩ family change _ _
    exact ⟨own, rfl⟩
  memory := by
    rintro session _ ⟨_, rfl⟩
    rfl
  keep := by
    rintro value session _ ⟨own, rfl⟩
    exact ⟨own, rfl⟩

theorem eq_of_optionRel {α : Type} {found found' : Option α} (same : Option.Rel Eq found found') :
    found = found' := by
  cases same with
  | none => rfl
  | some same => rw [same]

namespace Run

open Render (chunkCount)

variable {α β : Type} {run : Run α} {next : α → Run β} {session : Session}

/-- What a run does from a session with a sink that takes any number of chunks, it does into one
with room for more than it writes. -/
structure FillsFrom (run : Run α) (session : Session) : Prop where
  sink : (run.execute session).2.sink = .unlimited
  count : chunkCount session ≤ chunkCount (run.execute session).2
  room : ∀ bound, chunkCount (run.execute session).2 < bound →
    run.execute (session.into (.haltingAfter (bound - chunkCount session))) =
      ((run.execute session).1, (run.execute session).2.into
        (.haltingAfter (bound - chunkCount (run.execute session).2)))

def Fills (run : Run α) : Prop := ∀ session, session.sink = .unlimited → run.FillsFrom session

/-- A run that neither writes nor cares where the text goes. -/
theorem fills_of_silent (silent : ∀ session, chunkCount (run.execute session).2 = chunkCount session)
    (indifferent : ∀ sink sink', Matches (Session.Redirected sink sink') Eq run run) : run.Fills := by
  intro session unlimited
  have into : ∀ sink, (run.execute session).2.sink = .unlimited ∧
      run.execute (session.into sink) =
        ((run.execute session).1, (run.execute session).2.into sink) := by
    intro sink
    obtain ⟨agree, own, later⟩ := indifferent .unlimited sink session _ ⟨unlimited, rfl⟩
    exact ⟨own, Prod.ext agree.eq.symm later⟩
  constructor
  · exact (into .unlimited).1
  · exact Nat.le_of_eq (silent session).symm
  · intro bound _
    rw [silent session]
    exact (into _).2

theorem fills_pure (value : α) : Fills (pure value) := fun _ unlimited =>
  ⟨unlimited, Nat.le_refl _, fun _ _ => rfl⟩

theorem fills_throw (interrupt : Interrupt) : Fills (throw interrupt : Run α) :=
  fun _ unlimited => ⟨unlimited, Nat.le_refl _, fun _ _ => rfl⟩

theorem fills_ofExcept (result : Except Fault α) : Fills (ofExcept result) := by
  cases result with
  | ok value => exact fills_pure value
  | error fault => exact fills_throw _

/-- A reader who wants more than one chunk gets this one and wants one less. -/
theorem execute_emit_haltingAfter {left : Nat} (more : 1 < left) (session : Session)
    (chunk : String) :
    (emit chunk).execute (session.into (.haltingAfter left)) =
      (.ok (), (session.add [.wrote chunk]).into (.haltingAfter (left - 1))) := by
  have wanted : ¬left ≤ 1 := Nat.not_le.mpr more
  rw [emit, execute_bind, execute_get]
  simp only [Session.into, wanted, if_false]
  rfl

theorem chunkCount_add_wrote (session : Session) (chunk : String) :
    chunkCount (session.add [.wrote chunk]) = chunkCount session + 1 := rfl

theorem chunkCount_spending (session : Session) (stream : Option Nat) :
    chunkCount (session.spending stream) = chunkCount session := by
  cases stream <;> rfl

theorem fills_emit (chunk : String) : Fills (emit chunk) := by
  intro session unlimited
  have executed := execute_emit_of_unlimited unlimited chunk
  refine ⟨by rw [executed]; exact unlimited, ?_, fun bound enough => ?_⟩
  · rw [executed, chunkCount_add_wrote]
    exact Nat.le_succ _
  · rw [executed, chunkCount_add_wrote] at enough ⊢
    rw [execute_emit_haltingAfter (by omega), Nat.sub_sub]

theorem Fills.bind (first : run.Fills) (others : ∀ value, (next value).Fills) :
    (run >>= next).Fills := by
  intro session unlimited
  have ⟨sink, count, room⟩ := first session unlimited
  rcases executed : run.execute session with ⟨interrupt | value, middle⟩
  · rw [executed] at sink count room
    have ended : (run >>= next).execute session = _ := execute_bind_error executed
    refine ⟨by rwa [ended], by rwa [ended], fun bound enough => ?_⟩
    rw [ended] at enough ⊢
    exact execute_bind_error (room bound enough)
  · rw [executed] at sink count room
    have continued : (run >>= next).execute session = _ := execute_bind_ok executed
    have ⟨sink', count', room'⟩ := others value middle sink
    refine ⟨by rwa [continued], ?_, fun bound enough => ?_⟩
    · rw [continued]
      exact Nat.le_trans count count'
    · rw [continued] at enough ⊢
      rw [execute_bind_ok (room bound (Nat.lt_of_le_of_lt count' enough)), room' bound enough]

theorem fills_forM {Item : Type} {visit : Item → Run Unit} (each : ∀ item, (visit item).Fills)
    (items : List Item) : Fills (items.forM visit) := by
  induction items with
  | nil => exact fills_pure ()
  | cons item rest inductionHypothesis => exact (each item).bind fun _ => inductionHypothesis

theorem spend_matches_redirected (sink sink' : Sink) (stream : Option Nat) :
    Matches (Session.Redirected sink sink') Eq (spend stream) (spend stream) := by
  rintro session _ ⟨own, rfl⟩
  cases stream with
  | none => exact ⟨.ok rfl, own, rfl⟩
  | some id => exact ⟨.ok rfl, own, rfl⟩

theorem sameSpent_of_redirected {sink sink' : Sink} (session session' : Session)
    (redirected : session.Redirected sink sink' session') : session'.spent = session.spent := by
  rw [redirected.2]
  rfl

theorem fills_elements? (sorting : Sorting) (value : Value) :
    Fills (elements? sorting value) := by
  apply fills_of_silent
  · intro session
    rw [execute_elements?]
    cases value.elements? sorting session.spent with
    | error fault => rfl
    | ok items => exact chunkCount_spending session value.spends?
  · intro sink sink'
    have passed : value.PassedAlike Eq value := Value.passedAlike_self fun _ _ _ _ _ _ => rfl
    apply (matches_elements? sameSpent_of_redirected (spend_matches_redirected sink sink') passed).imp
    intro items items' sameItems
    rw [List.forall₂_eq_eq_eq] at sameItems
    exact eq_of_optionRel sameItems

theorem fills_condition (value : Value) : Fills (condition value) := by
  apply fills_of_silent
  · intro session
    rw [execute_condition]
    exact chunkCount_spending session value.conditionSpends?
  · intro sink sink'
    have passed : value.PassedAlike Eq value := Value.passedAlike_self fun _ _ _ _ _ _ => rfl
    exact matches_condition sameSpent_of_redirected (spend_matches_redirected sink sink') passed

theorem fills_lookup (behaviour : Behaviour) (scope : Scope) (path : String) :
    Fills (Lookup.standard behaviour scope path) := by
  apply fills_of_silent
  · intro session
    exact congrArg List.length
      (Lookup.bounded_keeps_chunks _ Lookup.nestingLimit scope path session rfl)
  · intro sink sink'
    exact Lookup.bounded_matches_of_everyone (Circle.everyone_respects_redirected sink sink') _ scope
      path

end Run

namespace Node

variable {kit : Kit} {behaviour : Behaviour} {context : Context}

theorem emitText_fills (text : String) : (emitText text).Fills := by
  rw [emitText]
  split
  · exact Run.fills_pure ()
  · exact Run.fills_emit text

theorem elseScopes_fills (scope : Scope) (found : Option Value) :
    (elseScopes scope found).Fills := by
  cases found with
  | none => exact Run.fills_pure _
  | some value => exact (Run.fills_condition value).bind fun _ => Run.fills_pure _

theorem bodyScopes_fills (sorting : Sorting) (scope : Scope) (value : Value) :
    (bodyScopes sorting scope value).Fills := by
  apply (Run.fills_elements? sorting value).bind
  intro elements
  cases elements with
  | some items => exact Run.fills_pure _
  | none => exact (Run.fills_condition value).bind fun _ => Run.fills_pure _

theorem blockScopes_fills (sorting : Sorting) (scope : Scope) (invert : Bool)
    (found : Option Value) :
    (blockScopes sorting scope invert found).Fills := by
  cases invert with
  | true => exact elseScopes_fills scope found
  | false =>
      cases found with
      | none => exact Run.fills_pure _
      | some value => exact bodyScopes_fills sorting scope value

mutual

theorem generate_fills (kit : Kit) (behaviour : Behaviour) (context : Context) :
    ∀ (node : Node) (scope : Scope),
      (node.generate (Render.setting kit behaviour context) scope).Fills
  | .literal text, _ => emitText_fills text
  | .placeholder path escape, scope => by
      apply (Run.fills_lookup behaviour scope path.text).bind
      intro found
      cases found with
      | none => exact Run.fills_pure ()
      | some value => exact (Run.fills_ofExcept _).bind emitText_fills
  | .block path invert body, scope => by
      apply (Run.fills_lookup behaviour scope path.text).bind
      intro found
      apply (blockScopes_fills kit.sorting scope invert.truth found).bind
      intro scopes
      exact Run.fills_forM (generateAll_fills kit behaviour context body) scopes
  | .sequence children, scope => generateAll_fills kit behaviour context children scope
  | .custom label, scope => Run.fills_forM Run.fills_emit (kit.texts label scope.chain)

theorem generateAll_fills (kit : Kit) (behaviour : Behaviour) (context : Context) :
    ∀ (nodes : List Node) (scope : Scope),
      (generateAll (Render.setting kit behaviour context) nodes scope).Fills
  | [], _ => Run.fills_pure ()
  | node :: rest, scope => (generate_fills kit behaviour context node scope).bind fun _ =>
      generateAll_fills kit behaviour context rest scope

end

end Node

namespace Render

variable {kit : Kit} {behaviour : Behaviour} {context : Context}

/-- A reader who would take more chunks than there are gets what a sink gets. -/
theorem execute_take_of_room (node : Node) (scope : Scope) (session : Session) {count : Nat}
    (room : chunkCount ((node.generate (setting kit behaviour context) scope).execute
      (session.into .unlimited)).2 < chunkCount session + count) :
    ∃ sink, (take (setting kit behaviour context) count (.node node) scope).execute session =
      (((node.generate (setting kit behaviour context) scope).execute (session.into .unlimited)).1,
        ((node.generate (setting kit behaviour context) scope).execute
          (session.into .unlimited)).2.into sink) := by
  have ⟨_, grown, filled⟩ :=
    Node.generate_fills kit behaviour context node scope (session.into .unlimited) rfl
  have positive : count ≠ 0 := by
    rintro rfl
    exact absurd (Nat.lt_of_le_of_lt grown room) (Nat.lt_irrefl _)
  have left : chunkCount session + count - chunkCount (session.into .unlimited) = count :=
    Nat.add_sub_cancel_left _ _
  have taken : (take (setting kit behaviour context) count (.node node) scope).execute session =
      (node.generate (setting kit behaviour context) scope).execute
        (session.into (.haltingAfter count)) := by
    rw [take, if_neg positive]
    rfl
  have enough := filled _ room
  rw [left] at enough
  exact ⟨_, taken.trans enough⟩

end Render
end Stencil
