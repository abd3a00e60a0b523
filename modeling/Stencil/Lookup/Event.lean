import Stencil.Scope.Basic

set_option autoImplicit false

/-!
The event of one lookup, which every handler called for it receives in turn. It holds the key as it
was asked for and what the lookup will answer when no handler changes it any more.
-/

namespace Stencil

inductive Event where
  | found (key : String) (value substitute : Value)
  | missing (key member : String) (handled : Bool) (substitute : Value)

namespace Event

def ofReach (key : String) : Reach → Event
  | .found value => .found key value value
  | .missing member => .missing key member false .null

def key : Event → String
  | .found key .. | .missing key .. => key

def isFound : Event → Bool
  | .found .. => true
  | .missing .. => false

def substitute : Event → Value
  | .found _ _ substitute | .missing _ _ _ substitute => substitute

def withSubstitute (value : Value) : Event → Event
  | .found key reached _ => .found key reached value
  | .missing key member handled _ => .missing key member handled value

/-- The event of a found key cannot be handled further. -/
def withHandled (flag : Bool) : Event → Event
  | .found key value substitute => .found key value substitute
  | .missing key member _ substitute => .missing key member flag substitute

/-- A missing key has a value only if some handler took charge of it. -/
def outcome : Event → Option Value
  | .found _ _ substitute => some substitute
  | .missing _ _ handled substitute => if handled then some substitute else none

end Event
end Stencil
