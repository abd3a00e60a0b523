import Stencil.Scope.Basic
import Stencil.Value.Text

set_option autoImplicit false

/-!
Scopes known by name whose values may be replaced. A scope sees the values that the scopes around it
hold at the moment; a name given again means the new scope from then on.
-/

namespace Stencil

/-- A scope and the number of the one around it, which is a smaller one. -/
structure Frame where
  family : Nat
  settings : ScopeSettings
  value : Value
  parent : Option Nat

structure Forest where
  frames : List Frame
  names : List (String × Nat)

namespace Forest

def empty : Forest := ⟨[], []⟩

def number? (forest : Forest) (name : String) : Option Nat :=
  (forest.names.find? (·.1 == name)).map (·.2)

def frame? (forest : Forest) (name : String) : Option Frame :=
  (forest.number? name).bind (forest.frames[·]?)

def add (forest : Forest) (name : String) (frame : Frame) : Forest :=
  ⟨forest.frames ++ [frame], (name, forest.frames.length) :: forest.names⟩

/-- A root begins a family of its own. -/
def addRoot (forest : Forest) (name : String) (settings : ScopeSettings) (value : Value) : Forest :=
  forest.add name ⟨forest.frames.length, settings, value, none⟩

/-- A child shares the family and settings of the scope around it. -/
def addChild (forest : Forest) (name parent : String) (value : Value) : Forest :=
  match forest.number? parent, forest.frame? parent with
  | some number, some frame =>
      forest.add name ⟨frame.family, frame.settings, value, some number⟩
  | _, _ => forest

def setValue (forest : Forest) (name : String) (value : Value) : Forest :=
  match forest.number? name with
  | some number => { forest with frames := forest.frames.modify number ({ · with value }) }
  | none => forest

/-- The values around a scope, nearest first, followed through at most so many scopes. -/
def outerValues (frames : List Frame) : Nat → Option Nat → List Value
  | fuel + 1, some number =>
      match frames[number]? with
      | some frame => frame.value :: outerValues frames fuel frame.parent
      | none => []
  | _, _ => []

/-- The scope of a name as things stand. -/
def scope? (forest : Forest) (name : String) : Option Scope :=
  (forest.frame? name).map fun frame =>
    ⟨frame.family, frame.settings, frame.value,
      outerValues forest.frames forest.frames.length frame.parent⟩

end Forest

namespace Scope

def writeText (scope : Scope) : Except Fault String :=
  if scope.value.hasText then
    .ok ("KeyScope(value=" ++ scope.value.nestedText ++ ", depth=" ++
      Value.numberText scope.depth ++ ")")
  else .error (.numeral .unwritable)

end Scope
end Stencil
