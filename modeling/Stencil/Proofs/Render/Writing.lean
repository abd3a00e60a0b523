import Stencil.Proofs.Lookup.Addition
import Stencil.Proofs.Resolve.Agreement
import Stencil.Render.Generator

set_option autoImplicit false

/-!
What a render writes. Each chunk is the text of one of the nodes of the tree: of a literal, of a
placeholder for some value, or of a custom node. Nothing else gets into the text.
-/

namespace Stencil

namespace Node

/-- The chunks that a node may write itself, whatever is below it. -/
def MayWrite (kit : Kit) (context : Context) : Node → String → Prop
  | .literal text, chunk => chunk = text ∧ chunk ≠ ""
  | .placeholder _ escape, chunk =>
      (∃ value, placeholderText context escape.truth value = .ok chunk) ∧ chunk ≠ ""
  | .custom label, chunk => ∃ chain, chunk ∈ kit.texts label chain
  | .block .., _ | .sequence _, _ => False

variable {kit : Kit} {behaviour : Behaviour} {context : Context}

theorem emitText_adds {allowed : Entry → Prop} {text : String}
    (fit : text ≠ "" → allowed (.wrote text)) : Run.Adds allowed (emitText text) := by
  rw [emitText]
  split
  next => exact Run.adds_pure ()
  next nonempty => exact Run.adds_emit (fit (by simpa using nonempty))

/-- A placeholder writes the text of the value found, if there is one. -/
theorem shown_adds {allowed : Entry → Prop} {escape : Bool} {found : Option Value}
    (fit : ∀ value text, found = some value → placeholderText context escape value = .ok text →
      text ≠ "" → allowed (.wrote text)) :
    Run.Adds allowed
      (match found with
      | none => pure ()
      | some value => do emitText (← Run.ofExcept (placeholderText context escape value))) := by
  cases found with
  | none => exact Run.adds_pure ()
  | some value =>
      show Run.Adds _ (Run.ofExcept (placeholderText context escape value) >>= emitText)
      cases made : placeholderText context escape value with
      | error fault => exact Run.adds_throw _
      | ok text => exact emitText_adds (fit value text rfl made)

theorem elseScopes_adds {allowed : Entry → Prop} (scope : Scope) (found : Option Value) :
    Run.Adds allowed (elseScopes scope found) := by
  cases found with
  | none => exact Run.adds_pure _
  | some value => exact (Run.adds_condition value).bind fun _ => Run.adds_pure _

theorem bodyScopes_adds {allowed : Entry → Prop} (sorting : Sorting) (scope : Scope)
    (value : Value) :
    Run.Adds allowed (bodyScopes sorting scope value) := by
  apply (Run.adds_elements? sorting value).bind
  intro elements
  cases elements with
  | some items => exact Run.adds_pure _
  | none => exact (Run.adds_condition value).bind fun _ => Run.adds_pure _

theorem blockScopes_adds {allowed : Entry → Prop} (sorting : Sorting) (scope : Scope)
    (invert : Bool) (found : Option Value) : Run.Adds allowed (blockScopes sorting scope invert found) := by
  cases invert with
  | true => exact elseScopes_adds scope found
  | false =>
      cases found with
      | none => exact Run.adds_pure _
      | some value => exact bodyScopes_adds sorting scope value

/-- Writing a chunk of one of the parts is allowed, and so are the notes that lookups take. -/
structure Allows (allowed : Entry → Prop) (kit : Kit) (context : Context) (parts : List Node) : Prop where
  note : ∀ entry : Entry, entry.IsNote → allowed entry
  wrote : ∀ part ∈ parts, ∀ chunk, part.MayWrite kit context chunk → allowed (.wrote chunk)

theorem Allows.mono {allowed : Entry → Prop} {parts more : List Node}
    (allows : Allows allowed kit context more) (subset : ∀ part ∈ parts, part ∈ more) :
    Allows allowed kit context parts :=
  ⟨allows.note, fun part member => allows.wrote part (subset part member)⟩

mutual

/-- What a render adds to the trace was written by the nodes of the tree or noted by lookups. -/
theorem generate_adds (kit : Kit) (behaviour : Behaviour) (context : Context) :
    ∀ (node : Node) (scope : Scope) {allowed : Entry → Prop},
      Allows allowed kit context node.iterNodes →
      Run.Adds allowed (node.generate (Render.setting kit behaviour context) scope)
  | .literal text, _, _, allows =>
      emitText_adds fun nonempty =>
        allows.wrote (.literal text) (by simp [iterNodes]) text ⟨rfl, nonempty⟩
  | .placeholder path escape, scope, _, allows => by
      apply (Lookup.bounded_adds allows.note Lookup.nestingLimit scope path.text).bind
      intro found
      apply shown_adds
      intro value text _ made nonempty
      exact allows.wrote (.placeholder path escape) (by simp [iterNodes]) text
        ⟨⟨value, made⟩, nonempty⟩
  | .block path invert body, scope, _, allows => by
      apply (Lookup.bounded_adds allows.note Lookup.nestingLimit scope path.text).bind
      intro found
      apply (blockScopes_adds kit.sorting scope invert.truth found).bind
      intro scopes
      apply Run.adds_forM
      intro inner _
      exact generateAll_adds kit behaviour context body inner
        (allows.mono fun part member => by simp [iterNodes, member])
  | .sequence children, scope, _, allows =>
      generateAll_adds kit behaviour context children scope
        (allows.mono fun part member => by simp [iterNodes, member])
  | .custom label, scope, _, allows => by
      have own := allows.wrote (.custom label) (by simp [iterNodes])
      apply Run.adds_forM
      intro chunk member
      exact Run.adds_emit (own chunk ⟨scope.chain, member⟩)

theorem generateAll_adds (kit : Kit) (behaviour : Behaviour) (context : Context) :
    ∀ (nodes : List Node) (scope : Scope) {allowed : Entry → Prop},
      Allows allowed kit context (iterAll nodes) →
      Run.Adds allowed (generateAll (Render.setting kit behaviour context) nodes scope)
  | [], _, _, _ => Run.adds_pure ()
  | node :: rest, scope, _, allows => by
      have first : Run.Adds _ (node.generate (Render.setting kit behaviour context) scope) :=
        generate_adds kit behaviour context node scope
          (allows.mono fun part member => by simp [iterAll, member])
      apply first.bind
      intro _
      exact generateAll_adds kit behaviour context rest scope
        (allows.mono fun part member => by simp [iterAll, member])

end

end Node

/-- At every moment of the run, the text that it has written so far has the property; what was noted
before the run stays. -/
def Run.Shows {α : Type} (property : String → Prop) (run : Run α) : Prop :=
  ∀ session, session.newest <:+ (run.execute session).2.newest ∧
    ∀ moment, moment <+: (run.execute session).2.since session →
      property (String.join (Render.chunks moment))

/-- If the entry writes a chunk, it has the property. -/
def Entry.Writes (property : String → Prop) (entry : Entry) : Prop :=
  ∀ chunk ∈ entry.chunk?, property chunk

theorem Entry.IsNote.writes {property : String → Prop} {entry : Entry} (note : entry.IsNote) :
    entry.Writes property := by
  intro chunk isChunk
  rw [note.chunk?_eq_none] at isChunk
  cases isChunk

theorem Node.allows_writes {property : String → Prop} {kit : Kit} {context : Context} {parts : List Node}
    (fit : ∀ part ∈ parts, ∀ chunk, part.MayWrite kit context chunk → property chunk) :
    Allows (Entry.Writes property) kit context parts where
  note _ note := note.writes
  wrote part member chunk written := by
    rintro _ ⟨⟩
    exact fit part member chunk written

/-- The text of a moment is put together from chunks that the run writes. -/
theorem Run.Adds.shows {α : Type} {run : Run α} {each property : String → Prop}
    (adds : run.Adds (Entry.Writes each))
    (joined : ∀ chunks : List String, (∀ chunk ∈ chunks, each chunk) →
      property (String.join chunks)) : run.Shows property := by
  intro session
  obtain ⟨entries, grown, fit⟩ := adds session
  refine ⟨⟨entries, grown.symm⟩, fun moment earlier => joined _ fun chunk member => ?_⟩
  rw [Session.since_eq_reverse grown] at earlier
  obtain ⟨entry, there, isChunk⟩ := List.mem_filterMap.mp member
  exact fit entry (List.mem_reverse.mp (earlier.subset there)) chunk isChunk

namespace Render

variable {kit : Kit} {behaviour : Behaviour} {context : Context} {allowed : Entry → Prop} {node : Node}

theorem write_adds (allows : Node.Allows allowed kit context node.iterNodes) (scope : Scope) :
    Run.Adds allowed (write (setting kit behaviour context) node scope) := by
  have recorded : ∀ message, Run.Adds allowed (Run.record (engineRecord message)) :=
    fun _ => Run.adds_record (allows.note _ trivial)
  apply (recorded _).bind
  intro _
  apply Run.adds_get
  intro before
  apply (Node.generate_adds kit behaviour context node scope allows).bind
  intro _
  apply Run.adds_get
  intro after
  exact recorded _

theorem take_adds (allows : Node.Allows allowed kit context node.iterNodes) (count : Nat)
    (scope : Scope) :
    Run.Adds allowed (take (setting kit behaviour context) count (.node node) scope) := by
  have resized : Run.Adds allowed
      (modify fun session => { session with sink := .haltingAfter count }) :=
    Run.adds_of_same_newest fun _ => rfl
  have halted : Run.Adds allowed (throw .halted : Run PUnit) := Run.adds_throw _
  have unhalted : Run.Adds allowed (pure ⟨⟩ : Run PUnit) := Run.adds_pure _
  have generated : Run.Adds allowed (node.generate (setting kit behaviour context) scope) :=
    Node.generate_adds kit behaviour context node scope allows
  rw [take]
  split
  · exact halted.bind fun _ => resized.bind fun _ => generated
  · exact unhalted.bind fun _ => resized.bind fun _ => generated

end Render

namespace Generator

variable {generator : Generator} {provider : Provider}

theorem escaper_of_createContext {context : Context}
    (made : generator.createContext provider = .ok context) :
    context.escaper = generator.escaper := by
  unfold createContext at made
  split at made
  · obtain ⟨_, _, made⟩ := exists_of_bind_eq_ok made
    cases made
    rfl
  · cases made
    rfl

theorem createScope_adds {allowed : Entry → Prop} (source : Value) :
    Run.Adds allowed (generator.createScope source) := by
  apply (Run.adds_ofExcept _).bind
  intro settings
  apply (Run.adds_ofExcept _).bind
  intro strict
  have listed : Run.Adds allowed (modify fun session =>
      session.withLists renderFamily (renderLists strict (session.lists ownFamily))) :=
    Run.adds_of_same_newest fun _ => rfl
  exact listed.bind fun _ => Run.adds_pure _

theorem renderTo_adds {kit : Kit} {behaviour : Behaviour} {allowed : Entry → Prop}
    (allows : ∀ context, generator.createContext provider = .ok context →
      Node.Allows allowed kit context generator.root.iterNodes)
    (source : Value) : Run.Adds allowed (generator.renderTo kit behaviour source provider) := by
  rw [renderTo]
  cases made : generator.createContext provider with
  | error fault => exact Run.adds_throw _
  | ok context =>
      show Run.Adds allowed (generator.createScope source >>= fun scope =>
        Render.write (Render.setting kit behaviour context) generator.root scope)
      exact (createScope_adds source).bind fun scope => Render.write_adds (allows context made) scope

end Generator
end Stencil
