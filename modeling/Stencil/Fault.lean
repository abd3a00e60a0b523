import Stencil.Number.Layout
import Stencil.Text.Digit
import Stencil.Value.Text

set_option autoImplicit false

/-!
What can go wrong, by cause. The faults that belong to templates and their settings are issues:
they have a family, a message and a context, a list of named values that tell what was met.
-/

namespace Stencil

namespace Text.NumeralFault

/-- At most two hundred characters of the numeral are quoted. -/
def message : NumeralFault → String
  | .tooLong digits =>
      "Exceeds the limit (4300 digits) for integer string conversion: value has " ++
        Value.numberText digits ++ " digits; use sys.set_int_max_str_digits() to increase the limit"
  | .unwritable => LayoutFault.wholeTooLong.message
  | .malformed text =>
      "invalid literal for int() with base 10: " ++
        String.ofList ((quotedChars text.toList).take 200)

end Text.NumeralFault

inductive IssueFamily where
  | general
  | settings
  | schema
  | template
  | key
  deriving DecidableEq, Repr

/-- The word by which an issue of the family is reported. -/
def IssueFamily.code : IssueFamily → String
  | general => "WhiskerError"
  | settings => "ConfigError"
  | schema => "SchemaValidationError"
  | template => "TemplateStructureError"
  | key => "KeyNotFoundError"

structure Issue where
  family : IssueFamily
  message : String
  context : List (String × Value)

namespace Issue

def keyMessage (key : String) : String := "Key not found: " ++ key

/-- A missing key is part of the context, unless the context already has an entry of that name. -/
def ofKey (key : String) (context : List (String × Value)) : Issue :=
  ⟨.key, keyMessage key,
    if context.any (·.1 == "key") then context else context ++ [("key", .text key)]⟩

/-- The issue as a value. -/
def report (issue : Issue) : Value :=
  .ofFields [("message", .text issue.message), ("code", .text issue.family.code),
    ("context", .ofFields issue.context)]

end Issue

/-- Why something is not a template. -/
inductive TemplateFault where
  | emptyPath (node : String) (path : Value)
  | literalKind (kind : String)
  | childrenKind (kind : String)
  | childKind (index : Nat) (kind : String)
  | missingBody (path : String)
  | unrecognized (kind : String)
  | listExpected (kind : String)
  | unwritable (node : String)
  | rootKind (kind : String)
  | grammar (reason path : String)
  | unreadable (file : String)

namespace TemplateFault

def issue : TemplateFault → Issue
  | emptyPath node path =>
      ⟨.template, node ++ " requires a non-empty key path", [("node", .text node), ("path", path)]⟩
  | literalKind kind =>
      ⟨.template, "Literal text must be a string",
        [("node", .text "Literal"), ("type", .text kind)]⟩
  | childrenKind kind =>
      ⟨.template, "NodeSequence children must be an iterable of nodes",
        [("node", .text "NodeSequence"), ("type", .text kind)]⟩
  | childKind index kind =>
      ⟨.template, "NodeSequence child " ++ Value.numberText index ++ " is not a generator node",
        [("node", .text "NodeSequence"), ("index", .int index), ("type", .text kind)]⟩
  | missingBody path =>
      ⟨.template, "Section body must not be None",
        [("node", .text "Section"), ("path", .text path)]⟩
  | unrecognized kind => ⟨.template, "Unrecognized node data", [("type", .text kind)]⟩
  | listExpected kind => ⟨.template, "Sequence data must be a list", [("type", .text kind)]⟩
  | unwritable node => ⟨.template, "Cannot serialize node", [("type", .text node)]⟩
  | rootKind kind => ⟨.template, "Render root must be a generator node", [("type", .text kind)]⟩
  | grammar reason path =>
      ⟨.template, "Validation failed against schema 'template': " ++ reason,
        [("schema", .text "template"), ("path", .text path)]⟩
  | unreadable file =>
      ⟨.template, "Invalid YAML in " ++ file ++ ": malformed document", [("path", .text file)]⟩

end TemplateFault

/-- Why an assignment along a key path does not fit the settings. -/
inductive AssignFault where
  | indexInside
  | throughScalar
  | indexNeedsList
  | keyNeedsMap
  deriving DecidableEq, Repr

namespace AssignFault

def message : AssignFault → String
  | indexInside => "Invalid path: list index may only appear at leaf"
  | throughScalar => "Path traverses non-dict container"
  | indexNeedsList => "Index assignment requires list"
  | keyNeedsMap => "Key assignment requires dict"

end AssignFault

inductive Fault where
  | issue (issue : Issue)
  | template (fault : TemplateFault)
  | keyMissing (key missing : String)
  | unknownEscape (name : String)
  | assignment (fault : AssignFault)
  | malformedVariable (name : String)
  /-- The settings break the rules of a schema; `loading` tells who asked for the check. -/
  | violation (schema path reason : String) (loading : Bool)
  /-- A settings document could not be used; `malformed` tells that it was no document at all. -/
  | unusableSettings (reason : String) (malformed : Bool)
  | malformedDocument
  | noSchema (name : String)
  | noFile (message : String)
  | numeral (fault : Text.NumeralFault)
  | layout (fault : LayoutFault)
  | member (reason : String)
  | emptySeparator
  | lengthRange
  | indexRange
  | positionRange
  /-- The elements of a set cannot be sorted, because two of them cannot be compared. -/
  | unordered (reason : Disorder)
  | notIterable (kind : String)
  | changeable (kind : String)
  | noMember (owner name : String)
  /-- An item is no pair; it has another length or no items at all. -/
  | notPair (position : Nat) (length? : Option Nat)
  | value (reason : String)
  | runtime (reason : String)
  | sinkFull

namespace Fault

/-- The issue that a fault of templates or settings amounts to. -/
def issue? : Fault → Option Issue
  | issue i => some i
  | template fault => some fault.issue
  | keyMissing key missing => some (.ofKey key [("missing_member", .text missing)])
  | unknownEscape name =>
      some ⟨.settings, "Unknown escape mode: " ++ name,
        [("escape", .text name), ("available", .list [.text "html", .text "none"])]⟩
  | assignment fault => some ⟨.settings, fault.message, []⟩
  | malformedVariable name =>
      some ⟨.settings, "Malformed WHISKER_* key: empty segment in '" ++ name ++ "'.",
        [("key", .text name)]⟩
  | violation schema path reason loading =>
      some ⟨if loading then .settings else .schema,
        "Validation failed against schema '" ++ schema ++ "': " ++ reason,
        [("schema", .text schema), ("path", .text path)]⟩
  | unusableSettings reason _ =>
      some ⟨.settings, "Failed to load configuration: " ++ reason, []⟩
  | _ => none

def message : Fault → String
  | malformedDocument => "malformed document"
  | noSchema name => "Schema not found: " ++ name
  | noFile text => text
  | numeral fault => fault.message
  | layout fault => fault.message
  | member reason | value reason | runtime reason => reason
  | emptySeparator => "empty separator"
  | unordered .undefined => "[<class 'decimal.InvalidOperation'>]"
  | unordered (.refused reason) => reason
  | lengthRange => "Python int too large to convert to C ssize_t"
  | indexRange => "cannot fit 'int' into an index-sized integer"
  | positionRange => "list index out of range"
  | notIterable kind => "'" ++ kind ++ "' object is not iterable"
  | changeable kind => "unhashable type: '" ++ kind ++ "'"
  | noMember owner name => owner ++ " has no attribute '" ++ name ++ "'"
  | notPair position none =>
      "cannot convert dictionary update sequence element #" ++ Value.numberText position ++
        " to a sequence"
  | notPair position (some length) =>
      "dictionary update sequence element #" ++ Value.numberText position ++ " has length " ++
        Value.numberText length ++ "; 2 is required"
  | sinkFull => "sink full"
  | fault => (fault.issue?.map (·.message)).getD ""

end Fault

/-- The text of a value that stands alone, if it has one. -/
def Value.writeText (value : Value) : Except Fault String :=
  if value.hasText then .ok value.toText else .error (.numeral .unwritable)

end Stencil
