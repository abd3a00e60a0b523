import Stencil.Proofs.Render.Account
import Stencil.Proofs.Render.Counterpart
import Stencil.Proofs.Render.Isolation
import Stencil.Proofs.Render.Room
import Stencil.Proofs.Settings.Relevance

set_option autoImplicit false

/-!
The ways into rendering. A template can be rendered chunk by chunk, into a text, into a sink, or by
a generator, with the bundled settings or none at all. The text, the calls of handlers and the
ending are the same, whether the handlers are listed for the scope or for the generator.
-/

namespace Stencil

namespace Account

def text (account : Account) : Except Interrupt String :=
  account.ending.map fun _ => String.join account.chunks

/-- The run answers with the text of the account, or fails as it says, and calls the same handlers. -/
def IsTold (account : Account) (run : Run String) (session : Session) : Prop :=
  (run.execute session).1 = account.text ∧
    ((run.execute session).2.since session).filterMap Entry.call? = account.calls

theorem isTold_of_execute {run : Run String} {session : Session}
    {executed : Except Interrupt Unit × Session}
    (joined : run.execute session =
      (executed.1.map fun _ => String.join (Render.chunks (executed.2.since session)),
        executed.2.into session.sink)) : (of session executed).IsTold run session := by
  rw [IsTold, joined]
  exact ⟨rfl, rfl⟩

end Account

theorem Run.execute_joined (ending : Except Interrupt Unit) (joined : String) (session : Session) :
    (match ending with
      | .ok _ => pure joined
      | .error interrupt => throw interrupt : Run String).execute session =
      (ending.map fun _ => joined, session) := by
  cases ending <;> rfl

namespace Render

variable {kit : Kit} {behaviour : Behaviour} {context : Context}

theorem execute_text (setting : Setting) (root : Part) (scope : Scope) (session : Session) :
    (text setting root scope).execute session =
      let executed := (writePart setting root scope).execute (session.into .unlimited)
      (executed.1.map fun _ => String.join (chunks (executed.2.since session)),
        executed.2.into session.sink) :=
  Run.execute_joined _ _ _

/-- A reader who takes all chunks there are, and would take more, sees what a sink gets. -/
theorem account_take (kit : Kit) (behaviour : Behaviour) (context : Context) (node : Node)
    (scope : Scope) (session : Session) {count : Nat}
    (room : (Account.of session ((write (setting kit behaviour context) node scope).execute
      (session.into .unlimited))).chunks.length < count) :
    Account.of session
        ((take (setting kit behaviour context) count (.node node) scope).execute session) =
      Account.of session ((write (setting kit behaviour context) node scope).execute
        (session.into .unlimited)) := by
  have written : Account.of session ((write (setting kit behaviour context) node scope).execute
      (session.into .unlimited)) = _ := account_write behaviour context node scope _
  rw [written] at room ⊢
  have carried : (node.generate (setting kit behaviour context) scope).execute
      (session.into .unlimited) = _ :=
    execute_generate_onto node scope (session.into .unlimited).untold session.newest
  rcases executed : (node.generate (setting kit behaviour context) scope).execute
    (session.into .unlimited).untold with ⟨ending, later⟩
  rw [executed] at room carried
  have counted : chunkCount (later.onto session.newest) < chunkCount session + count := by
    have trace : (chunks later.trace).length = chunkCount later := by
      rw [chunks, Session.trace, List.filterMap_reverse, List.length_reverse]
      rfl
    rw [Account.of, since_untold, trace] at room
    rw [chunkCount_onto, Nat.add_comm]
    exact Nat.add_lt_add_left room _
  obtain ⟨sink, taken⟩ := execute_take_of_room node scope session (by rw [carried]; exact counted)
  have since : ((later.onto session.newest).into sink).since session = later.trace :=
    Session.since_eq_reverse rfl
  rw [taken, carried, Account.of, Account.of, since_untold, since]

end Render

namespace Generator

theorem execute_text (generator : Generator) (kit : Kit) (behaviour : Behaviour) (source : Value)
    (provider : Provider) (session : Session) :
    (generator.text kit behaviour source provider).execute session =
      let executed := (generator.renderTo kit behaviour source provider).execute
        (session.into .unlimited)
      (executed.1.map fun _ => String.join (Render.chunks (executed.2.since session)),
        executed.2.into session.sink) :=
  Run.execute_joined _ _ _

/-- The generator of a template with given settings, as it is made when these do not say
otherwise. -/
def usual (node : Node) (settings : RenderSettings) : Generator :=
  ⟨node, settings, .standard, .standard, .markup⟩

/-- The settings say what holds when nothing is said. -/
structure IsUsual (node : Node) (settings : RenderSettings) : Prop where
  make : make (.node node) settings .standard .standard = .ok (usual node settings)
  preparation : (usual node settings).preparation .absent = .ok (.standard, .standard, false)

theorem isUsual_empty (node : Node) : IsUsual node ⟨.map []⟩ := ⟨rfl, rfl⟩

theorem isUsual_bundled (node : Node) : IsUsual node ⟨Settings.bundled.value⟩ := by
  rw [Settings.bundled, Settings.Tree.value_ofValue]
  exact ⟨rfl, rfl⟩

end Generator

section Entrances

open Generator (ownFamily renderFamily renderLists)

variable {circle : Circle} {kit : Kit} {behaviour : Behaviour} {own : HandlerLists} {family : Nat}
  {session : Session}

/-- Handlers of a circle that acts on neither the scope nor the generator they are listed for. -/
structure Circle.IsAloof (circle : Circle) (behaviour : Behaviour) (own : HandlerLists)
    (family : Nat) (session : Session) : Prop where
  closed : circle.IsClosed behaviour
  own : circle.Holds own
  around : ∀ other, circle.families other → circle.Holds (session.lists other)
  scope : ¬circle.families family
  generator : ¬circle.families ownFamily
  render : ¬circle.families renderFamily

/-- The ways into rendering come to the account: for the first three, the handlers are listed for
the scope, and for the others, for the generator. -/
structure Account.IsGivenBy (account : Account) (kit : Kit) (behaviour : Behaviour)
    (own : HandlerLists) (family : Nat) (session : Session) (node : Node) (source : Value) :
    Prop where
  chunkwise : ∀ count, account.chunks.length < count →
    let start := session.withLists family own
    Account.of start ((Render.take (Render.setting kit behaviour .standard) count (.node node)
      (.root family .standard source)).execute start) = account
  text : account.IsTold
    (Render.text (Render.setting kit behaviour .standard) (.node node)
      (.root family .standard source))
    (session.withLists family own)
  sink :
    let start := session.withLists family own
    Account.of start ((Render.writePart (Render.setting kit behaviour .standard) (.node node)
      (.root family .standard source)).execute (start.into .unlimited)) = account
  bundled : ∀ loader : Settings.Loader, loader.check.Follows .settings →
    ∀ environment : Settings.Environment, (∀ v ∈ environment, v.path? = none) →
    ∃ config generator, Settings.load loader .standard none environment = .ok config ∧
      Generator.make (.node node) ⟨config.value⟩ .standard .standard = .ok generator ∧
      account.IsTold (generator.text kit behaviour source .absent) (session.withLists ownFamily own)
  empty : ∃ generator,
    Generator.make (.node node) ⟨.map []⟩ .standard .standard = .ok generator ∧
      account.IsTold (generator.text kit behaviour source .absent) (session.withLists ownFamily own)

theorem Circle.IsAloof.counterpart (aloof : circle.IsAloof behaviour own family session) :
    Session.Counterpart circle family renderFamily ((session.withLists family own).into .unlimited)
      (((session.withLists ownFamily own).into .unlimited).withLists renderFamily own) where
  spent := rfl
  newest := rfl
  sink := rfl
  sink' := rfl
  memory := rfl
  lists other other' paired := by
    cases paired with
    | host =>
        have listed : ((session.withLists family own).into .unlimited).lists family = own :=
          session.lists_withLists family own
        rw [listed, Session.lists_withLists]
        exact ⟨rfl, aloof.own⟩
    | inner isInner =>
        have scope : other ≠ family := fun same => aloof.scope (same ▸ isInner)
        have generator : other ≠ ownFamily := fun same => aloof.generator (same ▸ isInner)
        have render : other ≠ renderFamily := fun same => aloof.render (same ▸ isInner)
        have listed : ((session.withLists family own).into .unlimited).lists other =
            session.lists other := Session.lists_withLists_of_ne scope session own
        have listed' : ((session.withLists ownFamily own).into .unlimited).lists other =
            session.lists other := Session.lists_withLists_of_ne generator session own
        rw [Session.lists_withLists_of_ne render, listed, listed']
        exact ⟨rfl, aloof.around other isInner⟩

theorem Generator.IsUsual.account {node : Node} {settings : RenderSettings}
    (usual : IsUsual node settings) (aloof : circle.IsAloof behaviour own family session)
    (kit : Kit) (source : Value) :
    Account.of (session.withLists ownFamily own)
        (((Generator.usual node settings).renderTo kit behaviour source .absent).execute
          ((session.withLists ownFamily own).into .unlimited)) =
      Account.of (session.withLists family own)
        ((Render.write (Render.setting kit behaviour .standard) node
          (.root family .standard source)).execute
            ((session.withLists family own).into .unlimited)) := by
  have sameHandlers : renderLists false
      (((session.withLists ownFamily own).into .unlimited).lists ownFamily) = own :=
    session.lists_withLists ownFamily own
  have own : (Scope.root family .standard source).family = family := rfl
  have matched : Run.Matches (Session.Counterpart circle family renderFamily) Eq
      (Render.write (Render.setting kit behaviour .standard) node (.root family .standard source))
      (Render.write (Render.setting kit behaviour .standard) node
        (.root renderFamily .standard source)) :=
    Render.write_matches_counterpart aloof.closed aloof.scope aloof.render node own
  have ⟨agree, later⟩ := matched _ _ aloof.counterpart
  rw [execute_renderTo_of_ok usual.preparation, sameHandlers]
  exact Account.of_congr rfl agree.eq.symm later.newest

theorem Generator.IsUsual.isTold {node : Node} {settings : RenderSettings}
    (usual : IsUsual node settings) (aloof : circle.IsAloof behaviour own family session)
    (kit : Kit) (source : Value) :
    (Account.of (session.withLists family own)
      ((Render.write (Render.setting kit behaviour .standard) node
        (.root family .standard source)).execute
          ((session.withLists family own).into .unlimited))).IsTold
      ((Generator.usual node settings).text kit behaviour source .absent)
      (session.withLists ownFamily own) := by
  rw [← usual.account aloof kit source]
  exact Account.isTold_of_execute ((Generator.usual node settings).execute_text ..)

/-- All ways into rendering give the same account, if the handlers act neither on the scope nor on
the generator they may be listed for. -/
theorem exists_account_isGivenBy (aloof : circle.IsAloof behaviour own family session) (kit : Kit)
    (node : Node) (source : Value) :
    ∃ account : Account, account.IsGivenBy kit behaviour own family session node source := by
  refine ⟨Account.of (session.withLists family own)
    ((Render.write (Render.setting kit behaviour .standard) node
      (.root family .standard source)).execute ((session.withLists family own).into .unlimited)),
    ?_⟩
  constructor
  case chunkwise =>
    intro count room
    exact Render.account_take kit behaviour .standard node _ _ room
  case text =>
    rw [← Render.writePart_node]
    exact Account.isTold_of_execute (Render.execute_text ..)
  case sink =>
    rw [Render.writePart_node]
  case bundled =>
    intro loader follows environment unmarked
    exact ⟨_, _, Settings.load_bundled follows unmarked, (Generator.isUsual_bundled node).make,
      (Generator.isUsual_bundled node).isTold aloof kit source⟩
  case empty =>
    exact ⟨_, (Generator.isUsual_empty node).make,
      (Generator.isUsual_empty node).isTold aloof kit source⟩

/-- Words and what they are in another language, with handlers of its own. -/
def glossary : Scope := .root 2 .standard (.ofFields [("tea", .text "Tee")])

/-- A word that is found is looked up in the glossary. If that fails, the word is left as it is. -/
def translating : Behaviour := fun _ event =>
  match event with
  | .found _ (.text word) _ =>
      .lookup glossary word fun
        | .ok translated => .substitute (translated.getD (.text word)) .done
        | .error _ => .done
  | _ => .done

/-- The translator, and a report of the words missing. -/
def translators : HandlerLists := ⟨[.named "translator"], [.report "missing"]⟩

/-- They look words up in the glossary, and nobody hears it but themselves. -/
def translatorCircle : Circle where
  families family := family = 2
  handlers handler := handler = .named "translator" ∨ handler = .report "missing"

theorem translatorCircle_isAloof :
    translatorCircle.IsAloof translating translators 0 .initial where
  closed := by
    rintro _ (rfl | rfl) event
    · cases event with
      | found key value substitute =>
          cases value with
          | text word => exact ⟨rfl, fun result => by cases result <;> trivial⟩
          | _ => trivial
      | missing key member handled substitute => trivial
    · trivial
  own := by
    constructor
    · intro handler member
      exact .inl (List.mem_singleton.mp member)
    · intro handler member
      exact .inr (List.mem_singleton.mp member)
  around other _ := ⟨List.forall_mem_nil _, List.forall_mem_nil _⟩
  scope := by rintro ⟨⟩
  generator := by rintro ⟨⟩
  render := by rintro ⟨⟩

/-- A drink, in whatever way it is ordered. -/
theorem exists_account_of_translated_drink :
    translatorCircle.IsAloof translating translators 0 .initial ∧
      ∃ account : Account, account.IsGivenBy .labelling translating translators 0 .initial
        (.placeholder ⟨"drink", by decide⟩ (.bool true)) (.ofFields [("drink", .text "tea")]) ∧
        account.text = .ok "Tee" := by
  obtain ⟨account, isGiven⟩ := exists_account_isGivenBy translatorCircle_isAloof
    .labelling (.placeholder ⟨"drink", by decide⟩ (.bool true)) (.ofFields [("drink", .text "tea")])
  exact ⟨translatorCircle_isAloof, account, isGiven, isGiven.text.1.symm.trans (by rfl)⟩

end Entrances
end Stencil
