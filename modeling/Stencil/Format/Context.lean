import Stencil.Format.Provider
import Stencil.Text.Letter
import Stencil.Text.Markup

set_option autoImplicit false

/-!
How found values become text: a formatter, the provider handed to it, and an escaper for the
placeholders that ask for one.
-/

namespace Stencil

abbrev Formatter := Value → Provider → Except Fault String

abbrev Escaper := String → String

namespace Formatter

/-- Null has no text. A provider that formats decides; otherwise texts stand for themselves. -/
def standard : Formatter := fun value provider =>
  match value with
  | .null => .ok ""
  | _ => (provider.formats? value).getD value.writeText

end Formatter

namespace Escaper

def none : Escaper := id

def markup : Escaper := Text.escapeMarkup

/-- Names are read in any case; no name means no escaping. -/
def named (name : String) : Except Fault Escaper :=
  let key := Text.lower name
  if name.isEmpty || key == "none" then .ok none
  else if key == "html" then .ok markup
  else .error (.unknownEscape name)

end Escaper

structure Context where
  formatter : Formatter
  provider : Provider
  escaper : Escaper

namespace Context

def standard : Context := ⟨.standard, .absent, .markup⟩

def format (context : Context) (value : Value) : Except Fault String :=
  context.formatter value context.provider

end Context
end Stencil
