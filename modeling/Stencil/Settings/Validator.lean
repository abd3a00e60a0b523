import Stencil.Fault
import Stencil.Settings.Defaults
import Stencil.Text.Letter

set_option autoImplicit false

/-!
The bundled schemas, and checks against them. A check is left to a validator, which says what it
objects to in a value, if anything. What a validator is to object to is told by the keywords of the
schema's document.
-/

namespace Stencil.Settings
open Text

/-- Which of the known schemas a name stands for; a name without a file suffix is completed. -/
def schemaFile (name : String) : String :=
  let ends (suffix : String) := suffix.toList.isSuffixOf (lower name).toList
  if ends ".yaml" || ends ".yml" then name else name ++ ".schema.yaml"

inductive KnownSchema where
  | settings
  | template
  deriving DecidableEq, Repr

namespace KnownSchema

def document : KnownSchema → Value
  | settings => Schema.settingsDocument
  | template => Schema.templateDocument

end KnownSchema

def findSchema (name : String) : Except Fault KnownSchema :=
  let file := schemaFile name
  if file == "config.schema.yaml" then .ok .settings
  else if file == "template.schema.yaml" then .ok .template
  else .error (.noSchema file)

def schemaDocument (name : String) : Except Fault Value := (findSchema name).map (·.document)

/-- The objection to a value under a schema, if there is one. A check may fail on its own, as when
the objection cannot be put into words. -/
abbrev Validator := KnownSchema → Value → Except Fault (Option Violation)

/-- Checks a value against a schema by name, on loading or on its own. -/
def validate (validator : Validator) (loading : Bool) (schema : String) (value : Value) :
    Except Fault Unit := do
  match ← validator (← findSchema schema) value with
  | none => return
  | some violation => throw (.violation schema violation.pathText violation.reason loading)

def settingsSchemaName : String := "config"

end Stencil.Settings
