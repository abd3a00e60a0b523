import Stencil.Format.Context
import Stencil.Lookup.Notify
import Stencil.Node.Basic

set_option autoImplicit false

/-!
The text of a template in a scope. Chunks are written as soon as they are known, and empty ones are
not written at all. A block goes through the elements of a collection, each in a scope of its own,
and otherwise shows its body once if the value counts as true; an inverted block shows its body in
the scope itself when there is nothing else to show.
-/

namespace Stencil

/-- What a template needs besides its scope. -/
structure Setting where
  lookup : Lookup
  context : Context
  custom : String → Scope → Run Unit
  sorting : Sorting

namespace Node

def emitText (text : String) : Run Unit := if text.isEmpty then pure () else Run.emit text

/-- The text of a found value. -/
def placeholderText (context : Context) (escape : Bool) (value : Value) : Except Fault String := do
  let text ← context.format value
  return if escape then context.escaper text else text

/-- The scopes in which a block shows its body for a found value. -/
def bodyScopes (sorting : Sorting) (scope : Scope) (value : Value) : Run (List Scope) := do
  match ← Run.elements? sorting value with
  | some items => return items.map scope.child
  | none => return if ← Run.condition value then [scope.child value] else []

/-- The scopes in which an inverted block shows its body. -/
def elseScopes (scope : Scope) (found : Option Value) : Run (List Scope) := do
  match found with
  | none => return [scope]
  | some value => return if ← Run.condition value then [] else [scope]

def blockScopes (sorting : Sorting) (scope : Scope) (invert : Bool) (found : Option Value) :
    Run (List Scope) :=
  if invert then elseScopes scope found
  else
    match found with
    | none => pure []
    | some value => bodyScopes sorting scope value

mutual

def generate (setting : Setting) : Node → Scope → Run Unit
  | .literal text, _ => emitText text
  | .placeholder path escape, scope => do
      match ← setting.lookup scope path.text with
      | none => pure ()
      | some value =>
          emitText (← Run.ofExcept (placeholderText setting.context escape.truth value))
  | .block path invert body, scope => do
      let found ← setting.lookup scope path.text
      let scopes ← blockScopes setting.sorting scope invert.truth found
      scopes.forM fun inner => generateAll setting body inner
  | .sequence children, scope => generateAll setting children scope
  | .custom label, scope => setting.custom label scope

def generateAll (setting : Setting) : List Node → Scope → Run Unit
  | [], _ => pure ()
  | node :: rest, scope => do
      generate setting node scope
      generateAll setting rest scope

end

end Node
end Stencil
