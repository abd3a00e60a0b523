import Stencil.Resolve.Path
import Stencil.Text.Split

set_option autoImplicit false

/-!
Scopes: a value with the values of the scopes around it, nearest first. The first segment of a path
is looked for from the inside out; the others are walked from the value found, without looking
further out.
-/

namespace Stencil

/-- What all scopes of a family share. -/
structure ScopeSettings where
  registry : Registry
  separator : String
  /-- Paths and first segments that denote the value of the scope itself. -/
  currentKeys : List Value

namespace ScopeSettings

def standard : ScopeSettings := ⟨.standard, ".", [.text ".", .text "this"]⟩

def isCurrent (settings : ScopeSettings) (path : String) : Bool :=
  settings.currentKeys.any (·.isText path)

/-- A first segment on the value of one scope. -/
def resolveOwn (settings : ScopeSettings) (value : Value) (segment : String) :
    Except Fault (Option Value) :=
  if settings.isCurrent segment then .ok (some value) else settings.registry.resolve value segment

/-- The first value of a chain that has the segment decides. -/
def resolveOutward (settings : ScopeSettings) (segment : String) :
    List Value → Except Fault (Option Value)
  | [] => .ok none
  | value :: outer => do
      match ← settings.resolveOwn value segment with
      | some found => return some found
      | none => resolveOutward settings segment outer

end ScopeSettings

structure Scope where
  /-- Scopes of one family share their handlers. -/
  family : Nat
  settings : ScopeSettings
  value : Value
  outer : List Value

namespace Scope

def root (family : Nat) (settings : ScopeSettings) (value : Value) : Scope :=
  ⟨family, settings, value, []⟩

def child (scope : Scope) (value : Value) : Scope :=
  { scope with value, outer := scope.value :: scope.outer }

def depth (scope : Scope) : Nat := scope.outer.length

/-- The values from this scope outwards. -/
def chain (scope : Scope) : List Value := scope.value :: scope.outer

def find (scope : Scope) (path : String) : Except Fault Reach :=
  if scope.settings.isCurrent path then .ok (.found scope.value)
  else if scope.settings.separator.isEmpty then .error .emptySeparator
  else do
    let (first, rest) := Text.pieces scope.settings.separator path
    match ← scope.settings.resolveOutward first scope.chain with
    | some value => scope.settings.registry.walk value rest
    | none => return .missing first

end Scope
end Stencil
