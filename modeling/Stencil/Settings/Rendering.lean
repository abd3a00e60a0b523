import Stencil.Log
import Stencil.Text.Letter
import Stencil.Value.Elements

set_option autoImplicit false

/-!
The settings that rendering goes by. They are read from values of any shape, so reading one may
fail; settings that were checked never do.
-/

namespace Stencil

/-- Settings as loaded or given. -/
structure RenderSettings where
  config : Value

namespace RenderSettings

/-- The entries of a mapping. -/
def entriesOf (value : Value) : Except Fault (List (Value × Value)) :=
  match value with
  | .map entries | .object _ _ (.mapping entries) => .ok entries
  | other => .error (.noMember other.ownerText "get")

/-- The section on rendering, empty if there is none or it counts as false. -/
def part (settings : RenderSettings) : Except Fault Value := do
  let found := Value.entry? "rendering" (← entriesOf settings.config)
  return match found with
    | some value => if value.truth then value else .map []
    | none => .map []

def property (settings : RenderSettings) (name : String) (otherwise : Value) :
    Except Fault Value := do
  return (Value.entry? name (← entriesOf (← settings.part))).getD otherwise

def separator (settings : RenderSettings) : Except Fault String := do
  (← settings.property "path_separator" (.text ".")).writeText

def currentKeys (settings : RenderSettings) : Except Fault (List Value) := do
  let keys ← settings.property "current_value_keys" (.list [.text ".", .text "this"])
  match keys.iterated? with
  | some items => return items
  | none => throw (.notIterable keys.familyKindName)

def escape (settings : RenderSettings) : Except Fault String := do
  (← settings.property "escape" (.text "html")).writeText

def provider (settings : RenderSettings) : Except Fault Value :=
  settings.property "provider" .null

def strictKeys (settings : RenderSettings) : Except Fault Bool := do
  return (← settings.property "strict_keys" (.bool false)).truth

def missingLevel (settings : RenderSettings) : Except Fault Int := do
  let name ← settings.property "missing_key_log_level" (.text "DEBUG")
  return LogRecord.levelNamed (Text.upper (← name.writeText))

end RenderSettings
end Stencil
