import Stencil.Calendar.Pattern
import Stencil.Number.DecimalLayout
import Stencil.Value.Kind
import Stencil.Value.Text

set_option autoImplicit false

/-!
Laying out a value by a specification. The empty specification asks for the plain text; dates take
a pattern, numbers and texts a layout, and nothing else can be laid out.
-/

namespace Stencil.Value

def layOut (value : Value) (specification : String) : Except LayoutFault String :=
  if specification.isEmpty then
    if value.hasText then .ok value.toText else .error .wholeTooLong
  else
    match value with
    | .text s => do (← Layout.read "str" (some 's') .left specification).layText s
    | .bool b => do
        (← Layout.read "bool" (some 'd') .right specification).layWhole "bool" (if b then 1 else 0)
    | .int n => do (← Layout.read "int" (some 'd') .right specification).layWhole "int" n
    | .float x => do (← Layout.read "float" none .right specification).layBinary "float" x
    | .complex re im => do
        (← Layout.read "complex" none .right specification).layComplex re im
    | .decimal x => x.lay specification
    | .date day => .ok (day.atMidnight.toPattern specification)
    | .moment time => .ok (time.toPattern specification)
    | other => .error (.notLaidOut other.familyKindName)

end Stencil.Value
