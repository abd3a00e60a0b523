import Stencil.Fault
import Stencil.Value.Layout

set_option autoImplicit false

/-!
Format providers choose how a value is written. A provider of specifications goes by the kind of
the value: its own kind first, then the first kind it belongs to. Booleans belong to no kind but
their own. Other providers may have a way of their own; every other value may be handed through as a
provider and is left to the formatter.
-/

namespace Stencil

/-- A table of layout specifications, each kind at most once. -/
abbrev Specifications := List (Kind × String)

namespace Specifications

def put (table : Specifications) (kind : Kind) (specification : String) : Specifications :=
  if table.any (·.1 == kind) then
    table.map fun row => if row.1 == kind then (kind, specification) else row
  else table ++ [(kind, specification)]

def ofList (rows : List (Kind × String)) : Specifications :=
  rows.foldl (fun table (kind, specification) => table.put kind specification) []

def isBool : Value → Bool
  | .bool _ => true
  | _ => false

def own? (table : Specifications) (value : Value) : Option String :=
  (Kind.ofValue? value).bind fun kind => (table.find? (·.1 == kind)).map (·.2)

def wider? (table : Specifications) (value : Value) : Option String :=
  if isBool value then none else (table.find? (·.1.holds value)).map (·.2)

def choose (table : Specifications) (value : Value) : String :=
  ((table.own? value).or (table.wider? value)).getD ""

end Specifications

inductive Provider where
  | specifications (table : Specifications)
  | custom (write : Value → Except Fault String)
  | other (value : Value)

namespace Provider

def absent : Provider := .other .null

/-- The text of a value by a provider that formats, if this one does. -/
def formats? (provider : Provider) (value : Value) : Option (Except Fault String) :=
  match provider with
  | .specifications table => some ((value.layOut (table.choose value)).mapError .layout)
  | .custom write => some (write value)
  | .other _ => none

end Provider
end Stencil
