import Stencil.Document.Basic
import Stencil.Document.Notation

set_option autoImplicit false

/-!
A reader of documents. Besides the notation of values it knows whole numbers to the base sixteen and
names: an ampersand before a part names it, and an asterisk before the name refers to it. A text of
blank lines and comments describes null.
-/

namespace Stencil.Document
open Text

/-- The named parts so far, and the numbers of the names. -/
structure Known where
  parts : List Draft
  names : List (String × Nat)

def Known.none : Known := ⟨[], []⟩

/-- Names a part, which is from then on referred to. -/
def Known.add (known : Known) (name : String) (draft : Draft) : Known :=
  ⟨known.parts ++ [draft], (name, known.parts.length) :: known.names⟩

def takeName (cs : List Char) : String × List Char :=
  let isOfName (c : Char) : Bool := c.isAlphanum || c == '-' || c == '_'
  (String.ofList (cs.takeWhile isOfName), cs.dropWhile isOfName)

/-- Texts, numbers and words, and numbers to the base sixteen. -/
def takeBasic : Reader Value := fun cs =>
  match cs with
  | '0' :: 'x' :: rest =>
      let digits := rest.takeWhile fun c => (hexDigit? c).isSome
      if digits.isEmpty then takeScalar cs
      else .ok (.int ((hexValue? digits).getD 0), rest.drop digits.length)
  | _ => takeScalar cs

mutual

def takeDraft : Nat → Known → Reader (Draft × Known)
  | 0, _, _ => .error .malformed
  | fuel + 1, known, cs =>
      match cs with
      | '&' :: rest => do
          let (name, rest) := takeName rest
          let ((draft, known), rest) ← takeDraft fuel known (skipGap rest)
          pure ((.alias known.parts.length, known.add name draft), rest)
      | '*' :: rest =>
          let (name, rest) := takeName rest
          match known.names.lookup name with
          | some part => .ok ((.alias part, known), rest)
          | none => .error .malformed
      | '[' :: rest =>
          match skipGap rest with
          | ']' :: after => .ok ((.list [], known), after)
          | _ => do
              let ((items, known), rest) ← takeDrafts fuel known (skipGap rest)
              pure ((.list items, known), rest)
      | '\x7b' :: rest =>
          match skipGap rest with
          | '\x7d' :: after => .ok ((.map [], known), after)
          | _ => do
              let ((entries, known), rest) ← takeDraftEntries fuel known [] (skipGap rest)
              pure ((.map entries, known), rest)
      | _ => do
          let (value, rest) ← takeBasic cs
          pure ((.plain value, known), rest)

/-- The items of a list up to its closing bracket. -/
def takeDrafts : Nat → Known → Reader (List Draft × Known)
  | 0, _, _ => .error .malformed
  | fuel + 1, known, cs => do
      let ((item, known), rest) ← takeDraft fuel known cs
      match skipGap rest with
      | ']' :: after => pure (([item], known), after)
      | ',' :: more => do
          let ((items, known), rest) ← takeDrafts fuel known (skipGap more)
          pure ((item :: items, known), rest)
      | _ => throw .malformed

/-- The entries of a map up to its closing brace. A key that comes again takes the later part. -/
def takeDraftEntries : Nat → Known → List (Value × Draft) →
    Reader (List (Value × Draft) × Known)
  | 0, _, _, _ => .error .malformed
  | fuel + 1, known, entries, cs =>
      match cs with
      | '"' :: rest => do
          let (key, rest) ← takeText rest
          match skipGap rest with
          | ':' :: more => do
              let ((draft, known), rest) ← takeDraft fuel known (skipGap more)
              let entries := Value.putEntry key draft entries
              match skipGap rest with
              | '\x7d' :: after => pure ((entries, known), after)
              | ',' :: more => takeDraftEntries fuel known entries (skipGap more)
              | _ => throw .malformed
          | _ => throw .malformed
      | _ => .error .malformed

end

/-- Lines that are blank or hold a comment only. -/
def isSilent (text : String) : Bool :=
  (splitAt "\n" text).all fun line =>
    match skipGap line.toList with
    | [] => true
    | c :: _ => c == '#'

def readAnchored (text : String) : Except DocumentFault Document :=
  if isSilent text then .ok (.ofValue .null)
  else do
    let ((root, known), rest) ←
      takeDraft (text.length + 1) .none (skipGap text.toList)
    if (skipGap rest).isEmpty then pure ⟨known.parts, root⟩ else throw .malformed

/-- The document that a text describes. -/
def read (text : String) : Except Fault Document :=
  (readAnchored text).mapError DocumentFault.fault

end Stencil.Document
