import Stencil.Proofs.Lookup.Execution
import Stencil.Render.Generate

set_option autoImplicit false

/-!
The parts of a render. A list of nodes is rendered part by part; a block shows its body in children
on the elements of a collection, in one child on another value that counts as true, or in the scope
itself if it is inverted.
-/

namespace Stencil.Node

theorem generateAll_singleton (setting : Setting) (node : Node) (scope : Scope) :
    generateAll setting [node] scope = generate setting node scope := by
  rw [generateAll]
  exact bind_pure (generate setting node scope)

theorem generateAll_append (setting : Setting) (first second : List Node) (scope : Scope) :
    generateAll setting (first ++ second) scope =
      generateAll setting first scope >>= fun _ => generateAll setting second scope := by
  induction first with
  | nil => rw [List.nil_append, generateAll, pure_bind]
  | cons node rest inductionHypothesis =>
      rw [List.cons_append, generateAll, generateAll, inductionHypothesis, bind_assoc]

variable {sorting : Sorting} {scope inner : Scope} {value : Value} {session later : Session}
  {scopes : List Scope}

/-- One scope, if the condition is as wanted. -/
def scopeIf (wanted : Bool) (inner : Scope) (holds : Bool) : List Scope :=
  if holds = wanted then [inner] else []

theorem mem_scopeIf {wanted holds : Bool} {member : Scope}
    (shown : member ∈ scopeIf wanted inner holds) : member = inner := by
  rw [scopeIf] at shown
  split at shown
  · exact List.mem_singleton.mp shown
  · simp at shown

theorem elseScopes_some (scope : Scope) (value : Value) :
    elseScopes scope (some value) = scopeIf false scope <$> Run.condition value := by
  rw [elseScopes, ← bind_pure_comp]
  congr
  funext holds
  cases holds <;> rfl

theorem execute_bodyScopes_items {items : List Value}
    (elements : value.elements? sorting session.spent = .ok (some items)) :
    (bodyScopes sorting scope value).execute session =
      (.ok (items.map scope.child), session.spending value.spends?) := by
  rw [bodyScopes, Run.execute_bind, Run.execute_elements?, elements]
  rfl

theorem execute_bodyScopes_scalar (elements : value.elements? sorting session.spent = .ok none) :
    (bodyScopes sorting scope value).execute session =
      (scopeIf true (scope.child value) <$> Run.condition value).execute
        (session.spending value.spends?) := by
  rw [bodyScopes, Run.execute_bind, Run.execute_elements?, elements, ← bind_pure_comp]
  rfl

theorem execute_bodyScopes_error {fault : Fault}
    (elements : value.elements? sorting session.spent = .error fault) :
    (bodyScopes sorting scope value).execute session = (.error (.fault fault), session) := by
  rw [bodyScopes, Run.execute_bind, Run.execute_elements?, elements]

theorem mem_of_execute_map_scopeIf {wanted : Bool}
    (executed : (scopeIf wanted inner <$> Run.condition value).execute session =
      (.ok scopes, later))
    {member : Scope} (shown : member ∈ scopes) : member = inner := by
  rw [Run.execute_map, Run.execute_condition] at executed
  cases result : value.condition session.spent with
  | error fault =>
      rw [result] at executed
      cases executed
  | ok holds =>
      rw [result] at executed
      cases executed
      exact mem_scopeIf shown

/-- A block shows its body in its own scope or in children of it. -/
theorem mem_blockScopes {invert : Bool} {found : Option Value}
    (executed : (blockScopes sorting scope invert found).execute session = (.ok scopes, later))
    (shown : inner ∈ scopes) : inner = scope ∨ ∃ value, inner = scope.child value := by
  cases invert with
  | true =>
      left
      cases found with
      | none =>
          cases executed
          exact List.mem_singleton.mp shown
      | some value =>
          rw [blockScopes, if_pos rfl, elseScopes_some] at executed
          exact mem_of_execute_map_scopeIf executed shown
  | false =>
      right
      cases found with
      | none =>
          cases executed
          simp at shown
      | some value =>
          change (bodyScopes sorting scope value).execute session = (.ok scopes, later) at executed
          cases elements : value.elements? sorting session.spent with
          | error fault => simp [execute_bodyScopes_error elements] at executed
          | ok found =>
              cases found with
              | none =>
                  rw [execute_bodyScopes_scalar elements] at executed
                  exact ⟨value, mem_of_execute_map_scopeIf executed shown⟩
              | some items =>
                  rw [execute_bodyScopes_items elements] at executed
                  cases executed
                  obtain ⟨item, _, rfl⟩ := List.mem_map.mp shown
                  exact ⟨item, rfl⟩

end Stencil.Node
