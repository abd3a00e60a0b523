import Stencil.Proofs.Render.Keeping

set_option autoImplicit false

/-!
Places in a tree where nodes can be put. What a tree renders depends on the nodes at a place only
through what they do at the moments when the render comes there.
-/

namespace Stencil.Node

/-- What holds a list of nodes: a sequence its children, or a block its body. -/
inductive Holder where
  | sequence
  | block (path : KeyPath) (invert : Value)

namespace Holder

def node : Holder → List Node → Node
  | .sequence, children => .sequence children
  | .block path invert, body => .block path invert body

def scopes (setting : Setting) : Holder → Scope → Run (List Scope)
  | .sequence, scope => pure [scope]
  | .block path invert, scope => do
      let found ← setting.lookup scope path.text
      blockScopes setting.sorting scope invert.truth found

theorem generate_node (setting : Setting) (holder : Holder) (children : List Node) (scope : Scope) :
    generate setting (holder.node children) scope =
      holder.scopes setting scope >>= fun scopes => scopes.forM (generateAll setting children) := by
  cases holder with
  | sequence =>
      show generateAll setting children scope =
        pure [scope] >>= fun scopes => scopes.forM (generateAll setting children)
      rw [pure_bind]
      exact (bind_pure (generateAll setting children scope)).symm
  | block path invert =>
      show generate setting (.block path invert children) scope = _
      rw [generate, scopes, bind_assoc]

variable {setting : Setting} {kind : Scope → Prop} {property : Session → Prop}

theorem scopes_keeps (kept : setting.Keeps kind property) (holder : Holder) {scope : Scope}
    (ofKind : kind scope) : Run.Keeps property (holder.scopes setting scope) := by
  cases holder with
  | sequence => exact Run.keeps_pure [scope]
  | block path invert =>
      apply (kept.lookup scope path.text ofKind).bind
      intro found
      exact blockScopes_keeps kept scope ofKind invert.truth found

theorem scopes_ofKind (kept : setting.Keeps kind property) (holder : Holder) {scope : Scope}
    (ofKind : kind scope) {session entered : Session} {scopes : List Scope}
    (executed : (holder.scopes setting scope).execute session = (.ok scopes, entered)) :
    ∀ inner ∈ scopes, kind inner := by
  intro inner shown
  cases holder with
  | sequence =>
      cases executed
      rw [List.mem_singleton.mp shown]
      exact ofKind
  | block path invert =>
      rw [Holder.scopes, Run.execute_bind] at executed
      rcases looked : (setting.lookup scope path.text).execute session with
        ⟨interrupt | found, later⟩
      · simp [looked] at executed
      · rw [looked] at executed
        rcases mem_blockScopes executed shown with rfl | ⟨value, rfl⟩
        · exact ofKind
        · exact kept.child scope value ofKind

end Holder

theorem execute_forM_congr {visit visit' : Scope → Run Unit} {scopes : List Scope}
    {session : Session}
    (same : ∀ earlier inner others visited, scopes = earlier ++ inner :: others →
      (earlier.forM visit).execute session = (.ok (), visited) →
      (visit' inner).execute visited = (visit inner).execute visited) :
    (scopes.forM visit').execute session = (scopes.forM visit).execute session := by
  induction scopes generalizing session with
  | nil => rfl
  | cons first rest inductionHypothesis =>
      show (visit' first >>= fun _ => rest.forM visit').execute session =
        (visit first >>= fun _ => rest.forM visit).execute session
      rw [Run.execute_bind, Run.execute_bind, same [] first rest session rfl rfl]
      -- All visits so far did the same, so the others start from the same session.
      rcases executed : (visit first).execute session with ⟨interrupt | _, visited⟩
      · rfl
      · apply inductionHypothesis
        intro earlier inner others later split executedEarlier
        apply same (first :: earlier) inner others later (by rw [split, List.cons_append])
        show (visit first >>= fun _ => earlier.forM visit).execute session = _
        rw [Run.execute_bind_ok executed, executedEarlier]

/-- Rendering what is held comes, in an inner scope, behind the nodes before a place. -/
def Holder.Enters (setting : Setting) (holder : Holder) (before inside after : List Node)
    (scope : Scope) (session : Session) (inner : Scope) (started : Session) : Prop :=
  ∃ earlier others entered visited,
    (holder.scopes setting scope).execute session = (.ok (earlier ++ inner :: others), entered) ∧
    (earlier.forM (generateAll setting (before ++ inside ++ after))).execute entered =
      (.ok (), visited) ∧
    (generateAll setting before inner).execute visited = (.ok (), started)

theorem Holder.enters_sequence {setting : Setting} {before inside after : List Node}
    {scope inner : Scope} {session started : Session}
    (entering : Holder.sequence.Enters setting before inside after scope session inner started) :
    inner = scope ∧ (generateAll setting before scope).execute session = (.ok (), started) := by
  obtain ⟨earlier, others, entered, visited, executedScopes, executedEarlier, executedBefore⟩ :=
    entering
  cases earlier with
  | nil =>
      cases executedScopes
      cases executedEarlier
      exact ⟨rfl, executedBefore⟩
  | cons first rest => simp [scopes, Run.execute_pure] at executedScopes

theorem Holder.Enters.keeps {setting : Setting} {kind : Scope → Prop} {property : Session → Prop}
    (kept : setting.Keeps kind property) {holder : Holder} {before inside after : List Node}
    {scope inner : Scope} {session started : Session}
    (entering : holder.Enters setting before inside after scope session inner started)
    (ofKind : kind scope) (holds : property session) : kind inner ∧ property started := by
  obtain ⟨earlier, others, entered, visited, executedScopes, executedEarlier, executedBefore⟩ :=
    entering
  have allOfKind : ∀ other ∈ earlier ++ inner :: others, kind other :=
    holder.scopes_ofKind kept ofKind executedScopes
  have heldOnEntry : property entered := by
    have := holder.scopes_keeps kept ofKind session holds
    rwa [executedScopes] at this
  have innerOfKind : kind inner := allOfKind inner (by simp)
  have heldAfterEarlier : property visited := by
    have visits : Run.Keeps property
        (earlier.forM (generateAll setting (before ++ inside ++ after))) := by
      apply Run.keeps_forM
      intro other member
      exact generateAll_keeps kept _ other (allOfKind other (List.mem_append_left _ member))
    have := visits entered heldOnEntry
    rwa [executedEarlier] at this
  have heldAtStart := generateAll_keeps kept before inner innerOfKind visited heldAfterEarlier
  rw [executedBefore] at heldAtStart
  exact ⟨innerOfKind, heldAtStart⟩

theorem Holder.execute_node_congr {setting : Setting} {holder : Holder}
    {before inside inside' after : List Node} {scope : Scope} {session : Session}
    (same : ∀ inner started, holder.Enters setting before inside after scope session inner started →
      (generateAll setting inside' inner).execute started =
        (generateAll setting inside inner).execute started) :
    (generate setting (holder.node (before ++ inside' ++ after)) scope).execute session =
      (generate setting (holder.node (before ++ inside ++ after)) scope).execute session := by
  rw [generate_node, generate_node, Run.execute_bind, Run.execute_bind]
  rcases executed : (holder.scopes setting scope).execute session with ⟨interrupt | scopes, entered⟩
  · rfl
  · apply execute_forM_congr
    intro earlier inner others visited split executedEarlier
    rw [generateAll_append, generateAll_append, generateAll_append, generateAll_append,
      bind_assoc, bind_assoc, Run.execute_bind, Run.execute_bind]
    rcases executedBefore : (generateAll setting before inner).execute visited with
      ⟨interrupt | _, started⟩
    · rfl
    · have entering : holder.Enters setting before inside after scope session inner started :=
        ⟨earlier, others, entered, visited, split ▸ executed, executedEarlier, executedBefore⟩
      show (generateAll setting inside' inner >>= _).execute started =
        (generateAll setting inside inner >>= _).execute started
      rw [Run.execute_bind, Run.execute_bind, same inner started entering]

/-- A place for nodes: between nodes that are held, or deeper, in one of them. -/
inductive Place where
  | among (holder : Holder) (before after : List Node)
  | deeper (holder : Holder) (before : List Node) (place : Place) (after : List Node)

namespace Place

/-- The tree with the nodes at the place. -/
def plug (nodes : List Node) : Place → Node
  | .among holder before after => holder.node (before ++ nodes ++ after)
  | .deeper holder before place after => holder.node (before ++ [place.plug nodes] ++ after)

/-- Rendering the tree with the nodes at the place comes to the place: in which scope, and in which
session. -/
inductive Reaches (setting : Setting) (nodes : List Node) :
    Place → Scope → Session → Scope → Session → Prop where
  | among {holder before after scope session inner started} :
      holder.Enters setting before nodes after scope session inner started →
      Reaches setting nodes (.among holder before after) scope session inner started
  | deeper {holder before place after scope session inner started target reached} :
      holder.Enters setting before [place.plug nodes] after scope session inner started →
      Reaches setting nodes place inner started target reached →
      Reaches setting nodes (.deeper holder before place after) scope session target reached

/-- Nodes that do the same whenever the place is reached can stand for each other. -/
theorem execute_plug_congr {setting : Setting} {nodes nodes' : List Node} {place : Place}
    {scope : Scope} {session : Session}
    (same : ∀ inner reached, place.Reaches setting nodes scope session inner reached →
      (generateAll setting nodes' inner).execute reached =
        (generateAll setting nodes inner).execute reached) :
    (generate setting (place.plug nodes') scope).execute session =
      (generate setting (place.plug nodes) scope).execute session := by
  induction place generalizing scope session with
  | among holder before after =>
      apply Holder.execute_node_congr
      intro inner started entering
      exact same inner started (.among entering)
  | deeper holder before place after inductionHypothesis =>
      apply Holder.execute_node_congr
      intro inner started entering
      rw [generateAll_singleton, generateAll_singleton]
      apply inductionHypothesis
      intro target reached reaching
      exact same target reached (.deeper entering reaching)

/-- Where the steps of a render keep a property, it still holds when a place is reached. -/
theorem Reaches.keeps {setting : Setting} {kind : Scope → Prop} {property : Session → Prop}
    (kept : setting.Keeps kind property) {nodes : List Node} {place : Place}
    {scope inner : Scope} {session reached : Session}
    (reaching : place.Reaches setting nodes scope session inner reached)
    (ofKind : kind scope) (holds : property session) : kind inner ∧ property reached := by
  induction reaching with
  | among entering => exact entering.keeps kept ofKind holds
  | deeper entering _ inductionHypothesis =>
      have ⟨innerOfKind, heldAtStart⟩ := entering.keeps kept ofKind holds
      exact inductionHypothesis innerOfKind heldAtStart

end Place
end Stencil.Node
