import Stencil.Proofs.Lookup.Plain

set_option autoImplicit false

/-!
What a run adds to the trace. The trace only grows, by what the steps of the run add to it. A write
adds a chunk, and a lookup adds what it notes on its handlers, whatever these do.
-/

namespace Stencil

/-- The entry tells of a lookup: of a handler called, of an answer given, or of a record kept. -/
def Entry.IsNote : Entry → Prop
  | called .. | answered .. | logged _ => True
  | wrote _ | cleared _ => False

theorem Entry.IsNote.chunk?_eq_none {entry : Entry} (note : entry.IsNote) : entry.chunk? = none := by
  cases entry with
  | wrote chunk => exact note.elim
  | _ => rfl

theorem Session.since_eq_reverse {session later : Session} {entries : List Entry}
    (grown : later.newest = entries ++ session.newest) : later.since session = entries.reverse := by
  simp [since, grown]

theorem Session.since_append {session middle later : Session}
    (first : session.newest <:+ middle.newest) (second : middle.newest <:+ later.newest) :
    later.since session = middle.since session ++ later.since middle := by
  obtain ⟨entries, grown⟩ := first
  obtain ⟨more, grownFurther⟩ := second
  have overall : later.newest = (more ++ entries) ++ session.newest := by
    rw [List.append_assoc, grown, grownFurther]
  rw [since_eq_reverse overall, since_eq_reverse grown.symm, since_eq_reverse grownFurther.symm,
    List.reverse_append]

namespace Run

variable {α β : Type} {allowed : Entry → Prop} {run : Run α} {next : α → Run β}

/-- The run leaves older entries in the trace as they are, and what it adds is allowed. -/
def Adds (allowed : Entry → Prop) (run : Run α) : Prop :=
  ∀ session, ∃ entries, (run.execute session).2.newest = entries ++ session.newest ∧
    ∀ entry ∈ entries, allowed entry

theorem Adds.isSuffix (adds : Adds allowed run) (session : Session) :
    session.newest <:+ (run.execute session).2.newest :=
  have ⟨entries, grown, _⟩ := adds session
  ⟨entries, grown.symm⟩

theorem adds_of_same_newest
    (same : ∀ session, (run.execute session).2.newest = session.newest) : Adds allowed run := by
  intro session
  exact ⟨[], same session, fun entry member => by cases member⟩

theorem adds_pure (value : α) : Adds allowed (pure value) := adds_of_same_newest fun _ => rfl

theorem adds_throw (interrupt : Interrupt) : Adds allowed (throw interrupt : Run α) :=
  adds_of_same_newest fun _ => rfl

theorem Adds.attempt (adds : Adds allowed run) : Adds allowed run.attempt := by
  intro session
  obtain ⟨entries, grown, fit⟩ := adds session
  refine ⟨entries, ?_, fit⟩
  rw [execute_attempt]
  rcases executed : run.execute session with ⟨(fault | _ | _) | value, later⟩ <;>
    · rw [executed] at grown
      exact grown

theorem adds_ofExcept (result : Except Fault α) : Adds allowed (ofExcept result) :=
  adds_of_same_newest fun session => by rw [execute_ofExcept]

theorem adds_spend (stream : Option Nat) : Adds allowed (spend stream) :=
  adds_of_same_newest fun _ => by cases stream <;> rfl

theorem adds_record {entry : Entry} (fit : allowed entry) : Adds allowed (record entry) := by
  intro session
  exact ⟨[entry], rfl, List.forall_mem_singleton.mpr fit⟩

theorem Adds.bind_of_yields {property : α → Prop} (first : Adds allowed run)
    (yields : Yields property run)
    (others : ∀ value, property value → Adds allowed (next value)) : Adds allowed (run >>= next) := by
  intro session
  obtain ⟨entries, grown, fit⟩ := first session
  rw [execute_bind]
  rcases executed : run.execute session with ⟨interrupt | value, later⟩
  · rw [executed] at grown
    exact ⟨entries, grown, fit⟩
  · rw [executed] at grown
    obtain ⟨more, grownFurther, fitToo⟩ := others value (yields session value later executed) later
    refine ⟨more ++ entries, ?_, List.forall_mem_append.mpr ⟨fitToo, fit⟩⟩
    rw [grownFurther, List.append_assoc]
    exact congrArg (more ++ ·) grown

theorem Adds.bind (first : Adds allowed run) (others : ∀ value, Adds allowed (next value)) :
    Adds allowed (run >>= next) :=
  first.bind_of_yields (yields_any run) fun value _ => others value

theorem Adds.of_mem_since (adds : Adds allowed run) {session : Session} {entry : Entry}
    (added : entry ∈ (run.execute session).2.since session) : allowed entry := by
  obtain ⟨entries, grown, fit⟩ := adds session
  rw [Session.since_eq_reverse grown] at added
  exact fit entry (List.mem_reverse.mp added)

/-- What two runs in a row add is added by the first one or, from where that ends, by the second. -/
theorem mem_since_bind {session : Session} {entry : Entry} (grows : run.Adds fun _ => True)
    (nextGrows : ∀ value, (next value).Adds fun _ => True)
    (added : entry ∈ ((run >>= next).execute session).2.since session) :
    entry ∈ (run.execute session).2.since session ∨
      ∃ value later, run.execute session = (.ok value, later) ∧
        entry ∈ ((next value).execute later).2.since later := by
  rw [execute_bind] at added
  rcases executed : run.execute session with ⟨interrupt | value, later⟩
  · rw [executed] at added
    exact .inl added
  · rw [executed] at added
    have first := grows.isSuffix session
    rw [executed] at first
    rw [Session.since_append first ((nextGrows value).isSuffix later), List.mem_append] at added
    exact added.imp_right fun added => ⟨value, later, rfl, added⟩

theorem adds_get {next : Session → Run β} (others : ∀ session, Adds allowed (next session)) :
    Adds allowed (get >>= next) :=
  fun session => others session session

theorem adds_forM {Item : Type} {items : List Item} {visit : Item → Run Unit}
    (each : ∀ item ∈ items, Adds allowed (visit item)) : Adds allowed (items.forM visit) := by
  induction items with
  | nil => exact adds_pure _
  | cons item rest inductionHypothesis =>
      have ⟨first, others⟩ := List.forall_mem_cons.mp each
      exact first.bind fun _ => inductionHypothesis others

/-- A chunk that the sink takes is written once, and one that it refuses is not written. -/
theorem adds_emit {chunk : String} (fit : allowed (.wrote chunk)) : Adds allowed (emit chunk) := by
  have written : Adds allowed (record (.wrote chunk)) := adds_record fit
  have resized : ∀ sink, Adds allowed (modify fun session => { session with sink }) :=
    fun _ => adds_of_same_newest fun _ => rfl
  have halted : Adds allowed (throw .halted : Run PUnit) := adds_throw _
  have unhalted : Adds allowed (pure ⟨⟩ : Run PUnit) := adds_pure _
  apply adds_get
  intro session
  split
  · exact written
  · exact adds_throw _
  · exact written.bind fun _ => resized _
  · apply written.bind
    intro _
    split
    · exact halted.bind fun _ => resized _
    · exact unhalted.bind fun _ => resized _

theorem adds_elements? (sorting : Sorting) (value : Value) :
    Adds allowed (elements? sorting value) :=
  adds_get fun _ => (adds_ofExcept _).bind fun _ => (adds_spend _).bind fun _ => adds_pure _

theorem adds_condition (value : Value) : Adds allowed (condition value) :=
  adds_get fun _ => (adds_spend _).bind fun _ => adds_ofExcept _

end Run

namespace Lookup

variable {behaviour : Behaviour} {nested : Lookup} {allowed : Entry → Prop}

theorem perform_adds (answered : ∀ path result, allowed (.answered path result))
    (logged : ∀ record, allowed (.logged record))
    (others : ∀ scope path, Run.Adds allowed (nested scope path)) (reaction : Reaction)
    (event : Event) : Run.Adds allowed (perform nested reaction event) := by
  induction reaction generalizing event with
  | done => exact Run.adds_pure event
  | substitute value next inductionHypothesis => exact inductionHypothesis _
  | handle flag next inductionHypothesis => exact inductionHypothesis _
  | raise fault => exact Run.adds_throw _
  | lookup scope path next inductionHypothesis =>
      apply (others scope path).attempt.bind
      intro result
      have noted : Run.Adds allowed (Run.record (.answered path result)) :=
        Run.adds_record (answered path result)
      exact noted.bind fun _ => inductionHypothesis result event
  | edit family change next inductionHypothesis =>
      have edited : Run.Adds allowed (modify fun session => session.changeHandlers family change) :=
        Run.adds_of_same_newest fun _ => rfl
      exact edited.bind fun _ => inductionHypothesis event
  | log record next inductionHypothesis =>
      have noted : Run.Adds allowed (Run.record (.logged record)) :=
        Run.adds_record (logged record)
      exact noted.bind fun _ => inductionHypothesis event
  | remember next inductionHypothesis =>
      exact Run.adds_get fun session => inductionHypothesis session.memory event
  | keep value next inductionHypothesis =>
      have kept : Run.Adds allowed (modify fun session => session.keeping value) :=
        Run.adds_of_same_newest fun _ => rfl
      exact kept.bind fun _ => inductionHypothesis event

theorem notify_adds (answered : ∀ path result, allowed (.answered path result))
    (logged : ∀ record, allowed (.logged record))
    (others : ∀ scope path, Run.Adds allowed (nested scope path)) {handlers : List Handler}
    (called : ∀ handler ∈ handlers, ∀ event, allowed (.called handler event)) (event : Event) :
    Run.Adds allowed (notify behaviour nested handlers event) := by
  induction handlers generalizing event with
  | nil => exact Run.adds_pure event
  | cons handler rest inductionHypothesis =>
      have ⟨first, calledRest⟩ := List.forall_mem_cons.mp called
      have noted : Run.Adds allowed (Run.record (.called handler event)) :=
        Run.adds_record (first event)
      have performed : Run.Adds allowed (call behaviour nested event handler) :=
        noted.bind fun _ => perform_adds answered logged others _ event
      exact performed.bind (inductionHypothesis calledRest)

/-- A lookup adds notes and nothing else, and so do the lookups of its handlers. -/
theorem bounded_adds (notes : ∀ entry : Entry, entry.IsNote → allowed entry) (bound : Nat)
    (scope : Scope) (path : String) : Run.Adds allowed (bounded behaviour bound scope path) := by
  induction bound generalizing scope path with
  | zero => exact Run.adds_throw _
  | succ bound inductionHypothesis =>
      apply (Run.adds_ofExcept (scope.find path)).bind
      intro reach
      apply Run.adds_get
      intro session
      have notified : Run.Adds allowed (notify behaviour (bounded behaviour bound)
          ((session.lists scope.family).of (.ofReach path reach)) (.ofReach path reach)) :=
        notify_adds (fun _ _ => notes _ trivial) (fun _ => notes _ trivial) inductionHypothesis
          (fun _ _ _ => notes _ trivial) _
      exact notified.bind fun _ => Run.adds_pure _

def chunksOf (session : Session) : List String := session.newest.filterMap Entry.chunk?

/-- Looking up writes no text, whatever the handlers do. -/
theorem bounded_keeps_chunks (chunks : List String) (bound : Nat) (scope : Scope) (path : String) :
    Run.Keeps (fun session => chunksOf session = chunks) (bounded behaviour bound scope path) := by
  intro session holds
  have adds : Run.Adds Entry.IsNote (bounded behaviour bound scope path) :=
    bounded_adds (fun _ => id) bound scope path
  have ⟨entries, grown, notes⟩ := adds session
  have silent : entries.filterMap Entry.chunk? = [] :=
    List.filterMap_eq_nil_iff.mpr fun entry member => (notes entry member).chunk?_eq_none
  show ((bounded behaviour bound scope path).execute session).2.newest.filterMap _ = chunks
  rw [grown, List.filterMap_append, silent]
  exact holds

end Lookup
end Stencil
