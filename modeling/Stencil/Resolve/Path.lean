import Stencil.Resolve.Registry

set_option autoImplicit false

/-!
Walking a path: each segment is resolved on the value that the segments before it have reached.
-/

namespace Stencil

/-- How far a path leads: to a value, or up to a member that is missing. -/
inductive Reach where
  | found (value : Value)
  | missing (member : String)

namespace Reach

def value? : Reach → Option Value
  | .found value => some value
  | .missing _ => none

end Reach

namespace Registry

def walk (registry : Registry) : Value → List String → Except Fault Reach
  | value, [] => .ok (.found value)
  | value, segment :: rest => do
      match ← registry.resolve value segment with
      | some next => walk registry next rest
      | none => return .missing segment

end Registry
end Stencil
