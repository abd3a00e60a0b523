import Stencil.Document.Anchored
import Stencil.Settings.Load

set_option autoImplicit false

/-!
A validator for the two bundled schemas. The grammar of templates is

    TEXT
    a list of members
    literal: TEXT
    placeholder: PATH, escape: FLAG
    section: PATH, invert: FLAG, body: LIST OF MEMBERS

where the flags may be left out and there is nothing besides.
-/

namespace Stencil

namespace Node

def isTextValue : Value → Bool
  | .text _ => true
  | _ => false

def isNonemptyText : Value → Bool
  | .text s => !s.isEmpty
  | _ => false

def isFlag : Value → Bool
  | .bool _ => true
  | _ => false

def hasKey (key : String) (entries : List (Value × Value)) : Bool :=
  entries.any fun entry => entry.1.isText key

def isWrittenLiteral (entries : List (Value × Value)) : Bool :=
  hasKey "literal" entries && entries.all fun entry =>
    entry.1.isText "literal" && isTextValue entry.2

def isWrittenPlaceholder (entries : List (Value × Value)) : Bool :=
  hasKey "placeholder" entries && entries.all fun entry =>
    (entry.1.isText "placeholder" && isNonemptyText entry.2) ||
      (entry.1.isText "escape" && isFlag entry.2)

mutual

/-- Whether a value keeps to the grammar. -/
def isWritten : Value → Bool
  | .text _ => true
  | .list items => areWritten items
  | .map entries =>
      isWrittenLiteral entries || isWrittenPlaceholder entries ||
        (hasKey "section" entries && hasKey "body" entries && areBlockEntries entries)
  | _ => false

def areWritten : List Value → Bool
  | [] => true
  | value :: rest => isWritten value && areWritten rest

/-- The entries of a written block. -/
def areBlockEntries : List (Value × Value) → Bool
  | [] => true
  | (key, value) :: rest =>
      ((key.isText "section" && isNonemptyText value) ||
        (key.isText "invert" && isFlag value) ||
        (key.isText "body" && isWrittenBody value)) && areBlockEntries rest

def isWrittenBody : Value → Bool
  | .list items => areWritten items
  | _ => false

end

/-- Why a value does not keep to the grammar. -/
def grammarReason (value : Value) : String :=
  value.nestedText ++ " is not valid under any of the given schemas"

end Node

/-- Objects to values in the words of the schemas. -/
def Settings.Validator.standard : Settings.Validator
  | .settings, value => do
      let objections := Settings.Schema.objections [] Settings.settingsSchema value
      return Settings.Violation.choose? (← objections.mapM Settings.Objection.violation)
  | .template, value =>
      if Node.isWritten value then .ok none
      else do return some ⟨[], ← Settings.spoken [value] (Node.grammarReason value)⟩

def Settings.Loader.standard : Settings.Loader := ⟨Document.read, .standard⟩

end Stencil
