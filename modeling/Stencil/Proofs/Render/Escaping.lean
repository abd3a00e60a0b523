import Stencil.Proofs.Render.Writing
import Stencil.Proofs.Text.Markup

set_option autoImplicit false

/-!
Data adds no markup to a text. If the tree itself holds no character with a meaning in markup and
all its placeholders are escaped, so is everything that it writes, whatever the data, the handlers,
the formatter and the provider come up with.
-/

namespace Stencil

namespace Node

/-- The node itself writes no markup: a literal holds none, and a placeholder is escaped. -/
def EscapesItself : Node → Prop
  | .literal text => ∀ c ∈ text.toList, c ∉ Text.markupCharacters
  | .placeholder _ escape => escape.truth = true
  | .block .. | .sequence _ => True
  | .custom _ => False

/-- The node and all below it are built in and write no markup of their own. -/
def IsEscaping (node : Node) : Prop := ∀ part ∈ node.iterNodes, part.EscapesItself

instance : DecidablePred EscapesItself
  -- Not by going through all characters there are, which is another way to decide it.
  | .literal text => List.decidableBAll (· ∉ Text.markupCharacters) text.toList
  | .placeholder _ escape => inferInstanceAs (Decidable (escape.truth = true))
  | .block .. | .sequence _ => inferInstanceAs (Decidable True)
  | .custom _ => inferInstanceAs (Decidable False)

instance (node : Node) : Decidable node.IsEscaping :=
  inferInstanceAs (Decidable (∀ part ∈ node.iterNodes, part.EscapesItself))

/-- What a placeholder asks to be escaped was given to the escaper of the context last. -/
theorem exists_eq_escaper_of_placeholderText {context : Context} {value : Value} {chunk : String}
    (made : placeholderText context true value = .ok chunk) :
    ∃ text, chunk = context.escaper text := by
  rw [placeholderText] at made
  cases formatted : context.format value with
  | error fault =>
      rw [formatted] at made
      cases made
  | ok text =>
      rw [formatted] at made
      cases made
      exact ⟨text, rfl⟩

theorem EscapesItself.isEscaped_of_mayWrite {kit : Kit} {context : Context}
    (markup : context.escaper = .markup) {node : Node} (escaping : node.EscapesItself) {chunk : String}
    (written : node.MayWrite kit context chunk) : Text.IsEscaped chunk.toList := by
  cases node with
  | literal text =>
      obtain ⟨rfl, _⟩ := written
      exact Text.isEscaped_of_forall_not_mem escaping
  | placeholder path escape =>
      obtain ⟨⟨value, made⟩, _⟩ := written
      have flagged : escape.truth = true := escaping
      rw [flagged] at made
      obtain ⟨text, rfl⟩ := exists_eq_escaper_of_placeholderText made
      rw [markup]
      exact Text.isEscaped_escapeMarkup text
  | block path invert body => exact written.elim
  | sequence children => exact written.elim
  | custom label => exact escaping.elim

end Node

theorem Text.isEscaped_join {chunks : List String}
    (each : ∀ chunk ∈ chunks, IsEscaped chunk.toList) : IsEscaped (String.join chunks).toList := by
  rw [String.toList_join]
  exact isEscaped_flatMap each

/-- A tree without markup of its own, all placeholders of which are escaped, shows escaped text at
every moment of a render, be it written into a sink, taken chunk by chunk, or made by a generator.
This holds also of a render that is cut short. -/
theorem Node.IsEscaping.shows_isEscaped {node : Node} (escaping : node.IsEscaping)
    (kit : Kit) (behaviour : Behaviour) :
    (∀ (context : Context) (scope : Scope), context.escaper = .markup →
      (Render.write (Render.setting kit behaviour context) node scope).Shows
          (fun text => Text.IsEscaped text.toList) ∧
        ∀ count, (Render.take (Render.setting kit behaviour context) count (.node node) scope).Shows
          fun text => Text.IsEscaped text.toList) ∧
    ∀ (generator : Generator) (source : Value) (provider : Provider),
      generator.root = node → generator.escaper = .markup →
        (generator.renderTo kit behaviour source provider).Shows
          fun text => Text.IsEscaped text.toList := by
  have allows : ∀ context : Context, context.escaper = .markup →
      Node.Allows (Entry.Writes fun chunk => Text.IsEscaped chunk.toList) kit context
        node.iterNodes :=
    fun context markup => Node.allows_writes fun part member chunk =>
      (escaping part member).isEscaped_of_mayWrite markup
  constructor
  · intro context scope markup
    constructor
    · exact (Render.write_adds (allows context markup) scope).shows fun _ => Text.isEscaped_join
    · intro count
      exact (Render.take_adds (allows context markup) count scope).shows
        fun _ => Text.isEscaped_join
  · rintro generator source provider rfl markup
    have written : Run.Adds (Entry.Writes fun chunk => Text.IsEscaped chunk.toList)
        (generator.renderTo kit behaviour source provider) := by
      apply Generator.renderTo_adds
      intro context made
      exact allows context ((Generator.escaper_of_createContext made).trans markup)
    exact written.shows fun _ => Text.isEscaped_join

def Formatter.bracketed : Formatter := fun value _ => .ok ("[" ++ value.toText ++ "]")

def Generator.guestNote : Generator where
  root := .sequence
    [.literal "For ", .placeholder ⟨"recipient", by decide⟩ (.bool true), .literal ": ",
      .placeholder ⟨"note", by decide⟩ (.bool true)]
  settings := ⟨.ofFields []⟩
  formatter := .bracketed
  registry := .standard
  escaper := .markup

def Behaviour.injecting : Behaviour := fun _ _ =>
  .handle true (.substitute (.text "<b>&amp;</b>") .done)

/-- Neither the name nor the handler gets markup into the note. -/
theorem Generator.guestNote_isEscaped :
    guestNote.root.IsEscaping ∧
      let run := guestNote.renderTo .labelling .injecting
        (.ofFields [("recipient", .text "<O'Hara>")]) .absent
      run.Shows (fun text => Text.IsEscaped text.toList) ∧
        Render.chunks (run.execute
            ⟨[], fun _ => ⟨[], [.named "markup"]⟩, [], .unlimited, .null⟩).2.trace =
          ["For ", "[&lt;O&#x27;Hara&gt;]", ": ", "[&lt;b&gt;&amp;amp;&lt;/b&gt;]"] := by
  have escaping : guestNote.root.IsEscaping := by decide +kernel
  have shown := (escaping.shows_isEscaped .labelling .injecting).2 guestNote
  exact ⟨escaping, shown _ _ rfl rfl, by decide +kernel⟩

end Stencil
