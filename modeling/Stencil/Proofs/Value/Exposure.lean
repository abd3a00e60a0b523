import Stencil.Proofs.Lookup.Matching
import Stencil.Proofs.Resolve.Position
import Stencil.Proofs.Value.Resemblance

set_option autoImplicit false

/-!
What blocks and key paths see of a value. Of values that resemble each other they see the same:
blocks go through elements that resemble each other one by one, conditions are the same, and every
segment leads to values that resemble each other or is missing on both.
-/

namespace Stencil

theorem getElem?_forall₂ {α : Type} {alike : α → α → Prop} {items items' : List α}
    (likeness : List.Forall₂ alike items items') (position : Nat) :
    Option.Rel alike items[position]? items'[position]? := by
  induction likeness generalizing position with
  | nil => exact .none
  | cons first _ inductionHypothesis =>
      cases position with
      | zero => exact .some first
      | succ position => exact inductionHypothesis position

namespace Value

variable {value value' : Value} {items items' : List Value}

/-- Sorting goes by the comparisons alone. -/
theorem sort_agree (sorting : Sorting) (alike : List.Forall₂ Resembles items items')
    (compared : lessAt items' = lessAt items) :
    Agree (List.Forall₂ Resembles) (sort sorting items) (sort sorting items') := by
  rw [sort, sort, compared, alike.length_eq]
  apply (Agree.of_eq rfl).bind
  rintro order _ rfl
  apply Agree.ok
  induction order with
  | nil => exact .nil
  | cons position rest inductionHypothesis =>
      have item := getElem?_forall₂ alike position
      rw [List.filterMap_cons, List.filterMap_cons]
      generalize items[position]? = found, items'[position]? = found' at item ⊢
      cases item with
      | none => exact inductionHypothesis
      | some item => exact .cons item inductionHypothesis

theorem inOrder_agree (sorting : Sorting) (alike : List.Forall₂ Resembles items items')
    (compared : lessAt items' = lessAt items) :
    Agree (List.Forall₂ Resembles) (inOrder sorting items) (inOrder sorting items') := by
  have sorted := sort_agree sorting alike compared
  rw [inOrder, inOrder]
  generalize sort sorting items = ordered, sort sorting items' = ordered' at sorted ⊢
  cases sorted with
  | ok likeOrder => exact .ok likeOrder
  | error reason =>
      cases reason with
      | kinds => exact .ok alike
      | undefined | refused _ => exact .error _

namespace Resembles

theorem isCollection (resembles : Resembles value value') :
    value'.isCollection = value.isCollection := by
  cases resembles with
  | object profile contents members => cases contents <;> rfl
  | _ => rfl

theorem collectionLength? (resembles : Resembles value value') :
    value'.collectionLength? = value.collectionLength? := by
  cases resembles with
  | same => rfl
  | object profile contents members =>
      cases contents with
      | sequence alike => simp [Value.collectionLength?, profile.length, alike.length_eq]
      | iterable alike => exact profile.length
      | _ => rfl
  | stream alike => rfl
  | map alike => rfl
  | list alike | tuple alike | record alike | set alike _ =>
      exact congrArg some alike.length_eq.symm

theorem askedLength? (resembles : Resembles value value') :
    value'.askedLength? = value.askedLength? := by
  have counted := resembles.collectionLength?
  cases resembles with
  | same => rfl
  | object profile contents members =>
      cases contents with
      | closed => simp [Value.askedLength?, profile.truth, profile.length]
      | mapping alike => simp [Value.askedLength?, profile.truth, profile.length, alike.length_eq]
      | _ => exact counted
  | _ => exact counted

theorem lengthFault (resembles : Resembles value value') :
    value'.lengthFault = value.lengthFault := by
  cases resembles <;> rfl

theorem checkLength (resembles : Resembles value value') :
    value'.checkLength = value.checkLength := by
  rw [Value.checkLength, Value.checkLength, resembles.askedLength?, resembles.lengthFault]

theorem truth (resembles : Resembles value value') : value'.truth = value.truth := by
  cases resembles with
  | same => rfl
  | stream alike => rfl
  | @object profile _ _ _ _ _ sameProfile contents members =>
      simp only [Value.truth, sameProfile.truth, sameProfile.length]
      cases profile.truth with
      | some b => rfl
      | none =>
          cases profile.length with
          | some n => rfl
          | none =>
              cases contents with
              | closed | iterable alike => rfl
              | sequence alike | mapping alike =>
                  exact congrArg not (isEmpty_eq_of_forall₂ alike)
  | list alike | tuple alike | record alike | set alike _ | map alike =>
      simp [Value.truth, isEmpty_eq_of_forall₂ alike]

theorem spends? (resembles : Resembles value value') : value'.spends? = value.spends? := by
  cases resembles <;> rfl

theorem items? (resembles : Resembles value value') (spent : List Nat) :
    Option.Rel (List.Forall₂ Resembles) (value.items? spent) (value'.items? spent) := by
  cases resembles with
  | same => exact optionRel_refl forall₂_refl _
  | list alike | tuple alike | set alike _ => exact .some alike
  | record alike => exact .some (PairAlike.seconds alike)
  | map alike => exact .none
  | @stream id _ _ alike =>
      rw [Value.items?, Value.items?]
      split
      · exact .some .nil
      · exact .some alike
  | object profile contents members =>
      cases contents with
      | closed | mapping alike => exact .none
      | iterable alike | sequence alike => exact .some alike

theorem elements? (resembles : Resembles value value') (sorting : Sorting) (spent : List Nat) :
    Agree (Option.Rel (List.Forall₂ Resembles)) (value.elements? sorting spent)
      (value'.elements? sorting spent) := by
  have items := resembles.items? spent
  -- Every pass begins with the same question for the length.
  have counted : ∀ {found found' : Except Fault (Option (List Value))},
      Agree (Option.Rel (List.Forall₂ Resembles)) found found' →
        Agree (Option.Rel (List.Forall₂ Resembles)) (value.checkLength >>= fun _ => found)
          (value'.checkLength >>= fun _ => found') := by
    intro found found' agree
    rw [resembles.checkLength]
    exact (Agree.of_eq rfl).bind fun _ _ _ => agree
  cases resembles with
  | same => exact .refl (optionRel_refl forall₂_refl) _
  | @set frozen elements elements' alike compared =>
      refine counted ((inOrder_agree sorting alike compared).bind fun _ _ likeOrder => ?_)
      exact .ok (.some likeOrder)
  | list alike | tuple alike | record alike | stream alike => exact counted (.ok items)
  | map alike => exact .ok .none
  | object profile contents members =>
      cases contents with
      | closed | mapping alike => exact .ok .none
      | iterable alike | sequence alike => exact counted (.ok items)

theorem condition (resembles : Resembles value value') (spent : List Nat) :
    value'.condition spent = value.condition spent := by
  have items : ((value'.items? spent).getD []).isEmpty =
      ((value.items? spent).getD []).isEmpty := by
    have alike := resembles.items? spent
    generalize value.items? spent = items, value'.items? spent = items' at alike ⊢
    cases alike with
    | none => rfl
    | some alike => exact isEmpty_eq_of_forall₂ alike
  rw [Value.condition, Value.condition, resembles.checkLength, resembles.isCollection,
    resembles.collectionLength?, resembles.truth, items]

theorem isIndexable (resembles : Resembles value value') :
    value'.isIndexable = value.isIndexable := by
  cases resembles with
  | object profile contents members => cases contents <;> rfl
  | _ => rfl

theorem isFunction (resembles : Resembles value value') :
    value'.isFunction = value.isFunction := by
  cases resembles with
  | object profile contents members => exact profile.callable
  | _ => rfl

theorem isText (resembles : Resembles value value') (s : String) :
    value'.isText s = value.isText s := by
  cases resembles <;> rfl

theorem item? (resembles : Resembles value value') (position : Nat) :
    Option.Rel Resembles (value.item? position) (value'.item? position) := by
  cases resembles with
  | same => exact optionRel_refl .same _
  | list alike | tuple alike => exact getElem?_forall₂ alike position
  | record alike =>
      rw [Value.item?, Value.item?, ← List.getElem?_map, ← List.getElem?_map]
      exact getElem?_forall₂ (PairAlike.seconds alike) position
  | set alike _ | map alike | stream alike => exact .none
  | object profile contents members =>
      cases contents with
      | sequence alike => exact getElem?_forall₂ alike position
      | closed | iterable alike | mapping alike => exact .none

theorem mappingEntries? (resembles : Resembles value value') :
    Option.Rel (List.Forall₂ (PairAlike Resembles Resembles)) (Resolver.mappingEntries? value)
      (Resolver.mappingEntries? value') := by
  cases resembles with
  | same =>
      exact optionRel_refl (fun _ => List.forall₂_same.mpr fun _ _ => .mk (.same _) (.same _)) _
  | map alike => exact .some alike
  | object profile contents members =>
      cases contents with
      | mapping alike => exact .some alike
      | closed | iterable alike | sequence alike => exact .none
  | _ => exact .none

end Resembles

end Value

namespace Registry

variable {value value' : Value}

end Registry
end Stencil
