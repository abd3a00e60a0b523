import Stencil.Proofs.Lookup.Calls
import Stencil.Proofs.Node.Position
import Stencil.Proofs.Render.Inquiries
import Stencil.Proofs.Render.Account
import Stencil.Proofs.Render.Place
import Stencil.Proofs.Render.Writing

set_option autoImplicit false

/-!
Who added what to the trace. All that a render adds comes from nodes of the tree that it comes to: a
chunk from the node whose text it is, and all that is noted of a lookup from a node with that key
path. So the tree alone tells which keys can be asked for.
-/

namespace Stencil

namespace Node

/-- Rendering a node in a scope comes to a part of it: in which scope, and in which session. -/
inductive ComesTo (setting : Setting) :
    Node → Scope → Session → Node → Scope → Session → Prop where
  | self {node scope session} : ComesTo setting node scope session node scope session
  | inside {holder before child after scope session inner started part target reached} :
      Holder.Enters setting holder before [child] after scope session inner started →
      ComesTo setting child inner started part target reached →
      ComesTo setting (holder.node (before ++ [child] ++ after)) scope session part target reached

theorem iterAll_append (first second : List Node) :
    iterAll (first ++ second) = iterAll first ++ iterAll second := by
  induction first with
  | nil => rfl
  | cons node rest inductionHypothesis =>
      rw [List.cons_append, iterAll, iterAll, inductionHypothesis, List.append_assoc]

theorem Holder.mem_iterNodes {holder : Holder} {children : List Node} {part : Node}
    (held : part ∈ iterAll children) : part ∈ (holder.node children).iterNodes := by
  cases holder with
  | sequence => exact List.mem_cons_of_mem _ held
  | block path invert => exact List.mem_cons_of_mem _ (List.mem_cons_of_mem _ held)

theorem ComesTo.mem_iterNodes {setting : Setting} {node part : Node} {scope inner : Scope}
    {session reached : Session} (comes : node.ComesTo setting scope session part inner reached) :
    part ∈ node.iterNodes := by
  induction comes with
  | @self node =>
      cases node <;> exact List.mem_cons_self
  | inside _ _ inductionHypothesis =>
      apply Holder.mem_iterNodes
      simp [iterAll_append, iterAll, inductionHypothesis]

/-- The chunk is one that the node writes itself when it is rendered in a scope, from a session: the
text of a literal, or that of the value with which the lookup of a placeholder is answered, or one
of the chunks of a custom node. -/
def Writes (kit : Kit) (behaviour : Behaviour) (context : Context) :
    Node → Scope → Session → String → Prop
  | .literal text, _, _, chunk => chunk = text ∧ chunk ≠ ""
  | .placeholder path escape, scope, session, chunk =>
      chunk ≠ "" ∧ ∃ value later,
        (Lookup.standard behaviour scope path.text).execute session = (.ok (some value), later) ∧
        placeholderText context escape.truth value = .ok chunk
  | .custom label, scope, _, chunk => chunk ∈ kit.texts label scope.chain
  | .block .., _, _, _ | .sequence _, _, _, _ => False

/-- The node adds the entry itself: it writes it, or its own lookup notes it. -/
def Contributes (kit : Kit) (behaviour : Behaviour) (context : Context) (node : Node)
    (scope : Scope) (session : Session) (entry : Entry) : Prop :=
  (∃ chunk, entry = .wrote chunk ∧ node.Writes kit behaviour context scope session chunk) ∨
  ∃ path, node.keyPath? = some path ∧
    entry ∈ ((Lookup.standard behaviour scope path).execute session).2.since session

namespace Contributes

variable {kit : Kit} {behaviour : Behaviour} {context : Context} {part : Node} {scope : Scope}
  {session : Session}

/-- A lookup writes nothing, so the node writes the chunk itself. -/
theorem writes {chunk : String}
    (contributes : part.Contributes kit behaviour context scope session (.wrote chunk)) :
    part.Writes kit behaviour context scope session chunk := by
  obtain ⟨_, ⟨⟩, written⟩ | ⟨path, _, noted⟩ := contributes
  · exact written
  · have notes : Run.Adds Entry.IsNote (Lookup.standard behaviour scope path) :=
      Lookup.bounded_adds (fun _ => id) Lookup.nestingLimit scope path
    exact (notes.of_mem_since noted).elim

theorem exists_keyPath {handler : Handler} {event : Event}
    (contributes : part.Contributes kit behaviour context scope session (.called handler event)) :
    ∃ path, part.keyPath? = some path ∧ (behaviour.AsksNothing → event.key = path) := by
  obtain ⟨_, ⟨⟩, _⟩ | ⟨path, isPath, noted⟩ := contributes
  exact ⟨path, isPath, fun asksNothing =>
    (Lookup.standard_addsFor asksNothing scope path).of_mem_since noted⟩

end Contributes

section Contributors

variable {kit : Kit} {behaviour : Behaviour} {context : Context} {scope : Scope} {session : Session}
  {entry : Entry}

theorem lookup_grows (behaviour : Behaviour) (scope : Scope) (path : String) :
    (Lookup.standard behaviour scope path).Adds fun _ => True :=
  Lookup.bounded_adds (fun _ _ => trivial) Lookup.nestingLimit scope path

theorem generate_grows (kit : Kit) (behaviour : Behaviour) (context : Context) (node : Node)
    (scope : Scope) :
    (node.generate (Render.setting kit behaviour context) scope).Adds fun _ => True :=
  generate_adds kit behaviour context node scope ⟨fun _ _ => trivial, fun _ _ _ _ => trivial⟩

theorem generateAll_grows (kit : Kit) (behaviour : Behaviour) (context : Context)
    (nodes : List Node) (scope : Scope) :
    (generateAll (Render.setting kit behaviour context) nodes scope).Adds fun _ => True :=
  generateAll_adds kit behaviour context nodes scope ⟨fun _ _ => trivial, fun _ _ _ _ => trivial⟩

theorem exists_visit {visit : Scope → Run Unit} (grows : ∀ inner, (visit inner).Adds fun _ => True)
    {scopes : List Scope}
    (added : entry ∈ ((scopes.forM visit).execute session).2.since session) :
    ∃ earlier inner others visited, scopes = earlier ++ inner :: others ∧
      (earlier.forM visit).execute session = (.ok (), visited) ∧
      entry ∈ ((visit inner).execute visited).2.since visited := by
  induction scopes generalizing session with
  | nil =>
      have nothing : Run.Adds (fun _ => False) (List.forM [] visit) := Run.adds_pure ()
      exact (nothing.of_mem_since added).elim
  | cons first rest inductionHypothesis =>
      rcases Run.mem_since_bind (grows first)
        (fun _ => Run.adds_forM fun inner _ => grows inner) added with added | later
      · exact ⟨[], first, rest, session, rfl, rfl, added⟩
      · obtain ⟨_, left, executed, added⟩ := later
        obtain ⟨earlier, inner, others, visited, rfl, executedEarlier, added⟩ :=
          inductionHypothesis added
        refine ⟨first :: earlier, inner, others, visited, rfl, ?_, added⟩
        show (visit first >>= fun _ => earlier.forM visit).execute session = _
        rw [Run.execute_bind_ok executed, executedEarlier]

/-- Of nodes in a row, one adds the entry when those before it have been rendered. -/
def SomeContributes (kit : Kit) (behaviour : Behaviour) (context : Context) (nodes : List Node)
    (scope : Scope) (session : Session) (entry : Entry) : Prop :=
  ∃ before child after started, nodes = before ++ [child] ++ after ∧
    (generateAll (Render.setting kit behaviour context) before scope).execute session =
      (.ok (), started) ∧
    ∃ part inner reached,
      child.ComesTo (Render.setting kit behaviour context) scope started part inner reached ∧
        part.Contributes kit behaviour context inner reached entry

/-- Of what is held, all that is added comes from the search for the scopes or from a node. -/
theorem Holder.exists_contributor (holder : Holder) {children : List Node}
    (each : ∀ inner visited,
      entry ∈ ((generateAll (Render.setting kit behaviour context) children inner).execute
        visited).2.since visited →
      SomeContributes kit behaviour context children inner visited entry)
    (scopesGrow : (holder.scopes (Render.setting kit behaviour context) scope).Adds fun _ => True)
    (added : entry ∈ ((generate (Render.setting kit behaviour context) (holder.node children)
      scope).execute session).2.since session) :
    entry ∈ ((holder.scopes (Render.setting kit behaviour context) scope).execute session).2.since
        session ∨
      ∃ part inner reached,
        (holder.node children).ComesTo (Render.setting kit behaviour context) scope session part
          inner reached ∧ part.Contributes kit behaviour context inner reached entry := by
  have grows := generateAll_grows kit behaviour context children
  rw [Holder.generate_node] at added
  rcases Run.mem_since_bind scopesGrow
    (fun scopes => Run.adds_forM fun inner _ => grows inner) added with added | later
  · exact .inl added
  · obtain ⟨scopes, entered, executedScopes, added⟩ := later
    obtain ⟨earlier, shown, others, visited, rfl, executedEarlier, added⟩ :=
      exists_visit grows added
    obtain ⟨before, child, after, started, rfl, executedBefore, part, inner, reached, comes, own⟩ :=
      each shown visited added
    have entering : Holder.Enters (Render.setting kit behaviour context) holder before [child] after
        scope session shown started :=
      ⟨earlier, others, entered, visited, executedScopes, executedEarlier, executedBefore⟩
    exact .inr ⟨part, inner, reached, .inside entering comes, own⟩

mutual

/-- All that a render adds to the trace is contributed by a node that it comes to. -/
theorem exists_contributor : ∀ (node : Node) (scope : Scope) (session : Session) (entry : Entry),
    entry ∈ ((node.generate (Render.setting kit behaviour context) scope).execute session).2.since
      session →
    ∃ part inner reached,
      node.ComesTo (Render.setting kit behaviour context) scope session part inner reached ∧
        part.Contributes kit behaviour context inner reached entry
  | .literal text, scope, session, entry, added => by
      have written : (emitText text).Adds fun entry => text ≠ "" ∧ entry = .wrote text :=
        emitText_adds fun nonempty => ⟨nonempty, rfl⟩
      obtain ⟨nonempty, rfl⟩ := written.of_mem_since added
      exact ⟨_, _, _, .self, .inl ⟨text, rfl, rfl, nonempty⟩⟩
  | .placeholder path escape, scope, session, entry, added => by
      rw [generate] at added
      rcases Run.mem_since_bind (lookup_grows behaviour scope path.text)
        (fun _ => shown_adds fun _ _ _ _ _ => trivial) added with noted | later
      · exact ⟨_, _, _, .self, .inr ⟨path.text, rfl, noted⟩⟩
      · obtain ⟨found, answered, looked, added⟩ := later
        have written : Run.Adds (fun entry => ∃ value text, found = some value ∧
            placeholderText context escape.truth value = .ok text ∧ text ≠ "" ∧
            entry = .wrote text) _ :=
          shown_adds fun value text isFound made nonempty =>
            ⟨value, text, isFound, made, nonempty, rfl⟩
        obtain ⟨value, text, rfl, made, nonempty, rfl⟩ := written.of_mem_since added
        exact ⟨_, _, _, .self, .inl ⟨text, rfl, nonempty, value, answered, looked, made⟩⟩
  | .block path invert body, scope, session, entry, added => by
      have looking : Run.Adds (fun _ => True)
          ((Holder.block path invert).scopes (Render.setting kit behaviour context) scope) :=
        (lookup_grows behaviour scope path.text).bind fun found =>
          blockScopes_adds kit.sorting scope _ found
      rcases Holder.exists_contributor (.block path invert)
        (fun inner visited => exists_contributorAll body inner visited entry) looking added with
        noted | contributed
      · -- The search for the scopes adds nothing but what the lookup notes.
        rcases Run.mem_since_bind (lookup_grows behaviour scope path.text)
          (fun found => blockScopes_adds kit.sorting scope _ found) noted with noted | later
        · exact ⟨_, _, _, .self, .inr ⟨path.text, rfl, noted⟩⟩
        · obtain ⟨found, _, _, added⟩ := later
          have nothing : Run.Adds (fun _ => False)
              (blockScopes kit.sorting scope invert.truth found) :=
            blockScopes_adds kit.sorting scope _ found
          exact (nothing.of_mem_since added).elim
      · exact contributed
  | .sequence children, scope, session, entry, added => by
      have nothing : ∀ {allowed : Entry → Prop}, Run.Adds allowed
          (Holder.sequence.scopes (Render.setting kit behaviour context) scope) := Run.adds_pure _
      rcases Holder.exists_contributor .sequence
        (fun inner visited => exists_contributorAll children inner visited entry) nothing added
        with noted | contributed
      · have silent : Run.Adds (fun _ => False) _ := nothing
        exact (silent.of_mem_since noted).elim
      · exact contributed
  | .custom label, scope, session, entry, added => by
      have written : (kit.custom label scope).Adds fun entry =>
          ∃ chunk ∈ kit.texts label scope.chain, entry = .wrote chunk :=
        Run.adds_forM fun chunk member => Run.adds_emit ⟨chunk, member, rfl⟩
      obtain ⟨chunk, member, rfl⟩ := written.of_mem_since added
      exact ⟨_, _, _, .self, .inl ⟨chunk, rfl, member⟩⟩

theorem exists_contributorAll : ∀ (nodes : List Node) (scope : Scope) (session : Session)
    (entry : Entry),
    entry ∈ ((generateAll (Render.setting kit behaviour context) nodes scope).execute
      session).2.since session →
    SomeContributes kit behaviour context nodes scope session entry
  | [], scope, _, _, added => by
      have nothing : Run.Adds (fun _ => False)
          (generateAll (Render.setting kit behaviour context) [] scope) := Run.adds_pure ()
      exact (nothing.of_mem_since added).elim
  | node :: rest, scope, session, entry, added => by
      rw [generateAll] at added
      rcases Run.mem_since_bind (generate_grows kit behaviour context node scope)
        (fun _ => generateAll_grows kit behaviour context rest scope) added with added | later
      · exact ⟨[], node, rest, session, rfl, rfl, exists_contributor node scope session entry added⟩
      · obtain ⟨_, left, executed, added⟩ := later
        obtain ⟨before, child, after, started, rfl, executedBefore, contributed⟩ :=
          exists_contributorAll rest scope left entry added
        refine ⟨node :: before, child, after, started, rfl, ?_, contributed⟩
        rw [generateAll, Run.execute_bind_ok executed, executedBefore]

end

end Contributors

def fixedText? : Node → Option String
  | .literal text => if text.isEmpty then none else some text
  | .placeholder .. | .block .. | .sequence _ | .custom _ => none

/-- The texts of the literals in a tree, without the empty ones. -/
def fixedTexts (node : Node) : List String := node.iterNodes.filterMap fixedText?

section Fixed

variable {setting : Setting}

mutual

/-- A tree that asks for nothing writes its texts, in the order in which its nodes are listed. -/
theorem generate_of_nothing : ∀ (node : Node) (scope : Scope), Usage.nothing.Covers node →
    generate setting node scope = node.fixedTexts.forM Run.emit
  | .literal text, scope, _ => by
      rw [generate, emitText, fixedTexts, iterNodes]
      cases empty : text.isEmpty with
      | true =>
          rw [List.filterMap_cons_none (by rw [fixedText?, if_pos empty])]
          rfl
      | false =>
          have kept : fixedText? (.literal text) = some text := by
            rw [fixedText?, if_neg (by rw [empty]; exact Bool.false_ne_true)]
          rw [List.filterMap_cons_some kept]
          exact (bind_pure (Run.emit text)).symm
  | .sequence children, scope, covers => by
      rw [generate, generateAll_of_nothing children scope covers.children, fixedTexts, iterNodes,
        List.filterMap_cons_none rfl]
  | .placeholder path escape, _, covers =>
      (covers (.placeholder path escape) List.mem_cons_self).elim
  | .block .., _, covers => covers.body.1.elim
  | .custom label, _, covers => (covers (.custom label) List.mem_cons_self).elim

theorem generateAll_of_nothing : ∀ (nodes : List Node) (scope : Scope),
    Usage.nothing.AllowsAll nodes →
    generateAll setting nodes scope = ((iterAll nodes).filterMap fixedText?).forM Run.emit
  | [], _, _ => rfl
  | node :: rest, scope, allows => by
      rw [generateAll, generate_of_nothing node scope allows.cons.1,
        generateAll_of_nothing rest scope allows.cons.2, iterAll, List.filterMap_append]
      exact List.forM_append.symm

end

end Fixed

end Node

theorem Run.execute_forM_emit {session : Session} (unlimited : session.sink = .unlimited)
    (texts : List String) :
    (texts.forM Run.emit).execute session =
      (.ok (), session.add (texts.map Entry.wrote).reverse) := by
  induction texts generalizing session with
  | nil => rfl
  | cons text rest inductionHypothesis =>
      show (Run.emit text >>= fun _ => rest.forM Run.emit).execute session = _
      rw [Run.execute_bind_ok (Run.execute_emit_of_unlimited unlimited text),
        inductionHypothesis (by exact unlimited), Session.add_add, List.map_cons, List.reverse_cons]

namespace Render

variable {kit : Kit} {behaviour : Behaviour} {context : Context} {node : Node} {scope : Scope}
  {session : Session}

theorem exists_contributor_of_mem_trace {entry : Entry}
    (noted : entry ∈ ((node.generate (setting kit behaviour context) scope).execute
      session.untold).2.trace) :
    ∃ part inner reached,
      node.ComesTo (setting kit behaviour context) scope session.untold part inner reached ∧
        part.Contributes kit behaviour context inner reached entry := by
  rw [← since_untold session] at noted
  exact node.exists_contributor scope session.untold entry noted

theorem exists_keyPath_of_mem_calls {call : Handler × Event}
    (called : call ∈ (Account.of session
      ((write (setting kit behaviour context) node scope).execute session)).calls) :
    ∃ part ∈ node.iterNodes, ∃ path, part.keyPath? = some path ∧
      (behaviour.AsksNothing → call.2.key = path) := by
  rw [account_write, Account.of, since_untold] at called
  obtain ⟨entry, noted, isCall⟩ := List.mem_filterMap.mp called
  obtain ⟨part, _, _, comes, contributes⟩ := exists_contributor_of_mem_trace noted
  cases entry with
  | called handler event =>
      cases isCall
      exact ⟨part, comes.mem_iterNodes, contributes.exists_keyPath⟩
  | _ => cases isCall

theorem exists_writer_of_mem_chunks {chunk : String}
    (written : chunk ∈ (Account.of session
      ((write (setting kit behaviour context) node scope).execute session)).chunks) :
    ∃ part ∈ node.iterNodes, ∃ inner reached,
      node.ComesTo (setting kit behaviour context) scope session.untold part inner reached ∧
        part.Writes kit behaviour context inner reached chunk := by
  rw [account_write, Account.of, since_untold] at written
  obtain ⟨entry, noted, isChunk⟩ := List.mem_filterMap.mp written
  obtain ⟨part, inner, reached, comes, contributes⟩ := exists_contributor_of_mem_trace noted
  cases entry with
  | wrote other =>
      cases isChunk
      exact ⟨part, comes.mem_iterNodes, inner, reached, comes, contributes.writes⟩
  | _ => cases isChunk

theorem account_of_nothing (covers : Usage.nothing.Covers node)
    (unlimited : session.sink = .unlimited) :
    Account.of session ((write (setting kit behaviour context) node scope).execute session) =
      ⟨node.fixedTexts, [], .ok ()⟩ := by
  have still : session.untold.sink = .unlimited := unlimited
  rw [account_write, node.generate_of_nothing scope covers, Run.execute_forM_emit still,
    Account.of, Session.since_add, List.reverse_reverse]
  simp [chunks, Function.comp_def, Entry.chunk?, Entry.call?]

theorem path_of_mem_inquiries {inquiry : Inquiry}
    (asked : inquiry ∈ inquiries (setting kit behaviour context) node scope session) :
    inquiry.path ∈ node.keyPaths := by
  have covers : (⟨(· ∈ node.keyPaths), fun _ => True⟩ : Usage).Covers node :=
    Usage.covers_of_forall (fun _ => id) fun _ _ => trivial
  have anywhere : ∀ (scope : Scope) (_ : Value), True → True := fun _ _ => id
  exact (node.forall_mem_inquiries anywhere scope _ covers trivial inquiry asked).2

theorem keyPaths_of_nothing (covers : Usage.nothing.Covers node) : node.keyPaths = [] := by
  rw [Node.keyPaths, List.filterMap_eq_nil_iff]
  intro part member
  rcases (Usage.nothing_allows_iff part).mp (covers part member) with ⟨_, rfl⟩ | ⟨_, rfl⟩ <;> rfl

/-- The tree alone tells what a render of it can ask for and write. All its nodes are listed, each
before its parts. What is looked up is the key path of one of them, and handlers that look nothing up
themselves are called for such key paths only. A chunk is the text of a node that the render comes
to. If there is nothing but literals and sequences of them, then their texts are written in the
order of the list, and nothing is looked up. -/
theorem account_within_tree (kit : Kit) (behaviour : Behaviour) (context : Context) (node : Node)
    (scope : Scope) (session : Session) :
    let account := Account.of session
      ((write (setting kit behaviour context) node scope).execute session)
    node.ListsInOrder node.positions node.iterNodes ∧
      (∀ inquiry ∈ inquiries (setting kit behaviour context) node scope session,
        inquiry.path ∈ node.keyPaths) ∧
      (behaviour.AsksNothing → ∀ call ∈ account.calls, call.2.key ∈ node.keyPaths) ∧
      (∀ chunk ∈ account.chunks, ∃ part ∈ node.iterNodes, ∃ inner reached,
        node.ComesTo (setting kit behaviour context) scope session.untold part inner reached ∧
          part.Writes kit behaviour context inner reached chunk) ∧
      ((∀ part ∈ node.iterNodes,
          (∃ text, part = .literal text) ∨ ∃ children, part = .sequence children) →
        inquiries (setting kit behaviour context) node scope session = [] ∧ account.calls = [] ∧
          (∀ setting, node.generate setting scope = node.fixedTexts.forM Run.emit) ∧
          (session.sink = .unlimited → account = ⟨node.fixedTexts, [], .ok ()⟩)) := by
  intro account
  refine ⟨node.iterNodes_listsInOrder, fun _ => path_of_mem_inquiries, ?_,
    fun _ => exists_writer_of_mem_chunks, ?_⟩
  · intro asksNothing call called
    obtain ⟨part, member, path, isPath, isKey⟩ := exists_keyPath_of_mem_calls called
    rw [isKey asksNothing]
    exact List.mem_filterMap.mpr ⟨part, member, isPath⟩
  · intro fixed
    have covers : Usage.nothing.Covers node :=
      fun part member => (Usage.nothing_allows_iff part).mpr (fixed part member)
    have pathless := keyPaths_of_nothing covers
    refine ⟨?_, ?_, fun setting => node.generate_of_nothing scope covers,
      account_of_nothing covers⟩
    · apply List.eq_nil_iff_forall_not_mem.mpr
      intro inquiry asked
      have listed := path_of_mem_inquiries asked
      rw [pathless] at listed
      cases listed
    · apply List.eq_nil_iff_forall_not_mem.mpr
      intro call called
      obtain ⟨part, member, path, isPath, _⟩ := exists_keyPath_of_mem_calls called
      have listed : path ∈ node.keyPaths := List.mem_filterMap.mpr ⟨part, member, isPath⟩
      rw [pathless] at listed
      cases listed

/-- Names between two stars, which are one node in two places. -/
def starredNames : Node :=
  .sequence [.literal "*", .block ⟨"names", by decide⟩ (.bool false)
    [.literal " ", .placeholder ⟨"person", by decide⟩ (.bool true)], .literal "", .literal "*"]

def somebody : Behaviour := fun _ _ => .handle true (.substitute (.text "<somebody>") .done)

def guests : Scope :=
  .root Generator.renderFamily .standard (.ofFields
    [("names", .list [.ofFields [("person", .text "Ada")], .ofFields []])])

def welcoming : Session :=
  Session.initial.withLists guests.family ⟨[.logging 10], [.named "somebody"]⟩

def starredAccount (node : Node) : Account :=
  .of welcoming
    ((write (setting .labelling somebody ⟨.standard, .absent, .markup⟩) node guests).execute welcoming)

theorem starredNames_within_tree :
    somebody.AsksNothing ∧ starredNames.keyPaths = ["names", "person"] ∧
      (starredAccount starredNames).chunks = ["*", " ", "Ada", " ", "&lt;somebody&gt;", "*"] ∧
      (starredAccount starredNames).calls.map (·.2.key) = ["names", "person", "person"] ∧
      (∀ call ∈ (starredAccount starredNames).calls, call.2.key ∈ starredNames.keyPaths) ∧
      starredAccount (.sequence [.literal "*", .sequence [.literal "", .literal "*"]]) =
        ⟨["*", "*"], [], .ok ()⟩ := by
  have asksNothing : somebody.AsksNothing := fun _ _ => trivial
  have fixed : ∀ part ∈ (Node.sequence
      [.literal "*", .sequence [.literal "", .literal "*"]]).iterNodes,
      (∃ text, part = .literal text) ∨ ∃ children, part = .sequence children := by
    simp [Node.iterNodes, Node.iterAll]
  refine ⟨asksNothing, by decide, by decide +kernel, by decide +kernel, ?_, ?_⟩
  · exact (account_within_tree .labelling somebody _ starredNames guests welcoming).2.2.1 asksNothing
  · exact ((account_within_tree .labelling somebody _ _ guests welcoming).2.2.2.2 fixed).2.2.2 rfl

end Render
end Stencil
