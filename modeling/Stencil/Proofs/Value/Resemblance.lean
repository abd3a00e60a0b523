import Stencil.Proofs.Resolve.Agreement
import Stencil.Value.Elements

set_option autoImplicit false

/-!
Values that are the same except for what their objects hide. Two such values have the same text and
equal the same values, and where no object has an order of its own they compare alike.
-/

namespace Stencil

/-- Pairs that are alike part by part. -/
inductive PairAlike {α β : Type} (first : α → α → Prop) (second : β → β → Prop) :
    α × β → α × β → Prop where
  | mk {a a' b b'} : first a a' → second b b' → PairAlike first second (a, b) (a', b')

theorem PairAlike.seconds {α β : Type} {first : α → α → Prop} {second : β → β → Prop}
    {pairs pairs' : List (α × β)} (alike : List.Forall₂ (PairAlike first second) pairs pairs') :
    List.Forall₂ second (pairs.map (·.2)) (pairs'.map (·.2)) := by
  rw [List.forall₂_map_left_iff, List.forall₂_map_right_iff]
  exact alike.imp fun _ _ alikePair => by cases alikePair; assumption

/-- Contents of the same shape that are alike one by one. -/
inductive Contents.Alike {α : Type} (alike : α → α → Prop) : Contents α → Contents α → Prop where
  | closed : Alike alike .closed .closed
  | iterable {items items'} :
      List.Forall₂ alike items items' → Alike alike (.iterable items) (.iterable items')
  | sequence {items items'} :
      List.Forall₂ alike items items' → Alike alike (.sequence items) (.sequence items')
  | mapping {entries entries'} :
      List.Forall₂ (PairAlike alike alike) entries entries' →
      Alike alike (.mapping entries) (.mapping entries')

/-- The same object to all appearances, whatever its type, the members whose reading fails and the
order that it has among others. -/
structure Profile.Alike (profile profile' : Profile) : Prop where
  id : profile'.id = profile.id
  shown : profile'.shown = profile.shown
  truth : profile'.truth = profile.truth
  length : profile'.length = profile.length
  callable : profile'.callable = profile.callable

namespace Value

/-- What reading the member of an object exposes: a value that is no function, or the reason why the
reading fails. -/
def exposed? (profile : Profile) (members : List (String × Value)) (name : String) :
    Except String (Option Value) :=
  match profile.faults.find? (·.1 == name) with
  | some (_, reason) => .error reason
  | none => .ok ((field? name members).filter (!·.isFunction))

/-- The same values, except that corresponding objects may differ, at any depth, in their functions
and in the members that have no public name. Sets are to be iterated alike, in whatever way they are
sorted: elements at the same places resemble each other, and any two compare as those of the other
set do. -/
inductive Resembles : Value → Value → Prop where
  | same (value : Value) : Resembles value value
  | list {items items'} :
      List.Forall₂ Resembles items items' → Resembles (.list items) (.list items')
  | tuple {items items'} :
      List.Forall₂ Resembles items items' → Resembles (.tuple items) (.tuple items')
  | record {type fields fields'} :
      List.Forall₂ (PairAlike Eq Resembles) fields fields' →
      Resembles (.record type fields) (.record type fields')
  | set {frozen items items'} :
      List.Forall₂ Resembles items items' → lessAt items' = lessAt items →
      Resembles (.set frozen items) (.set frozen items')
  | map {entries entries'} :
      List.Forall₂ (PairAlike Resembles Resembles) entries entries' →
      Resembles (.map entries) (.map entries')
  | stream {id items items'} :
      List.Forall₂ Resembles items items' → Resembles (.stream id items) (.stream id items')
  | object {profile profile' members members' contents contents'} :
      profile.Alike profile' →
      Contents.Alike Resembles contents contents' →
      (∀ name, isPublicName name = true →
        Agree (Option.Rel Resembles) (exposed? profile members name)
          (exposed? profile' members' name)) →
      Resembles (.object profile members contents) (.object profile' members' contents')

theorem isEmpty_eq_of_forall₂ {α : Type} {alike : α → α → Prop} {items items' : List α}
    (likeness : List.Forall₂ alike items items') : items'.isEmpty = items.isEmpty := by
  cases likeness <;> rfl

-- The proofs about texts and comparisons take the functions' own recursion: over the values, with a
-- twin for each kind of list inside them.

mutual

theorem canonical?_eq_of_resembles :
    ∀ value value', Resembles value value' → canonical? value' = canonical? value
  | value, _, .same _ => rfl
  | .list _, .list _, .list alike => by rw [canonical?, canonical?, canonicals?_eq alike]
  | .tuple _, .tuple _, .tuple alike => by rw [canonical?, canonical?, canonicals?_eq alike]
  | .record _ _, .record _ _, .record alike => by
      rw [canonical?, canonical?, fieldCanonicals?_eq alike]
  | .set _ _, .set _ _, .set alike _ => by rw [canonical?, canonical?, canonicals?_eq alike]
  | .map _, .map _, .map alike => by rw [canonical?, canonical?, entryCanonicals?_eq alike]
  | .stream _ _, .stream _ _, .stream _ => rfl
  | .object _ _ (.mapping entries), .object _ _ _, .object _ (.mapping alike) _ => by
      rw [canonical?, canonical?, entryCanonicals?_eq alike]
  | .object _ _ _, .object _ _ _, .object profile .closed _ => by simp [canonical?, profile.id]
  | .object _ _ _, .object _ _ _, .object profile (.iterable _) _ => by
      simp [canonical?, profile.id]
  | .object _ _ _, .object _ _ _, .object profile (.sequence _) _ => by
      simp [canonical?, profile.id]

theorem canonicals?_eq : ∀ {items items'}, List.Forall₂ Resembles items items' →
    canonicals? items' = canonicals? items
  | [], _, .nil => rfl
  | _ :: _, _ :: _, .cons first rest => by
      rw [canonicals?, canonicals?, canonical?_eq_of_resembles _ _ first, canonicals?_eq rest]

theorem fieldCanonicals?_eq : ∀ {fields fields'},
    List.Forall₂ (PairAlike Eq Resembles) fields fields' →
    fieldCanonicals? fields' = fieldCanonicals? fields
  | [], _, .nil => rfl
  | (_, _) :: _, (_, _) :: _, .cons (.mk _ first) rest => by
      rw [fieldCanonicals?, fieldCanonicals?, canonical?_eq_of_resembles _ _ first,
        fieldCanonicals?_eq rest]

theorem entryCanonicals?_eq : ∀ {entries entries'},
    List.Forall₂ (PairAlike Resembles Resembles) entries entries' →
    entryCanonicals? entries' = entryCanonicals? entries
  | [], _, .nil => rfl
  | (_, _) :: _, (_, _) :: _, .cons (.mk key first) rest => by
      rw [entryCanonicals?, entryCanonicals?, canonical?_eq_of_resembles _ _ key,
        canonical?_eq_of_resembles _ _ first, entryCanonicals?_eq rest]

end

theorem map_canonical?_eq {items items' : List Value}
    (alike : List.Forall₂ Resembles items items') :
    items'.map canonical? = items.map canonical? := by
  induction alike with
  | nil => rfl
  | cons first _ inductionHypothesis =>
      rw [List.map_cons, List.map_cons, inductionHypothesis, canonical?_eq_of_resembles _ _ first]

mutual

theorem nestedText_eq_of_resembles :
    ∀ value value', Resembles value value' → nestedText value' = nestedText value
  | value, _, .same _ => rfl
  | .list _, .list _, .list alike => by rw [nestedText, nestedText, nestedTexts_eq alike]
  | .tuple _, .tuple _, .tuple alike => by rw [nestedText, nestedText, nestedTexts_eq alike]
  | .record _ _, .record _ _, .record alike => by rw [nestedText, nestedText, fieldTexts_eq alike]
  | .set _ items, .set _ items', .set alike _ => by
      rw [nestedText, nestedText, nestedTexts_eq alike, isEmpty_eq_of_forall₂ alike]
  | .map _, .map _, .map alike => by rw [nestedText, nestedText, entryTexts_eq alike]
  | .stream _ _, .stream _ _, .stream _ => rfl
  | .object _ _ _, .object _ _ _, .object profile _ _ => by
      rw [nestedText, nestedText, profile.shown]

theorem nestedTexts_eq : ∀ {items items'}, List.Forall₂ Resembles items items' →
    nestedTexts items' = nestedTexts items
  | [], _, .nil => rfl
  | _ :: _, _ :: _, .cons first rest => by
      rw [nestedTexts, nestedTexts, nestedText_eq_of_resembles _ _ first, nestedTexts_eq rest]

theorem fieldTexts_eq : ∀ {fields fields'}, List.Forall₂ (PairAlike Eq Resembles) fields fields' →
    fieldTexts fields' = fieldTexts fields
  | [], _, .nil => rfl
  | (_, _) :: _, (_, _) :: _, .cons (.mk same first) rest => by
      rw [fieldTexts, fieldTexts, same, nestedText_eq_of_resembles _ _ first, fieldTexts_eq rest]

theorem entryTexts_eq : ∀ {entries entries'},
    List.Forall₂ (PairAlike Resembles Resembles) entries entries' →
    entryTexts entries' = entryTexts entries
  | [], _, .nil => rfl
  | (_, _) :: _, (_, _) :: _, .cons (.mk key first) rest => by
      rw [entryTexts, entryTexts, nestedText_eq_of_resembles _ _ key,
        nestedText_eq_of_resembles _ _ first, entryTexts_eq rest]

end

mutual

theorem hasText_eq_of_resembles :
    ∀ value value', Resembles value value' → hasText value' = hasText value
  | value, _, .same _ => rfl
  | .list _, .list _, .list alike => by rw [hasText, hasText, haveTexts_eq alike]
  | .tuple _, .tuple _, .tuple alike => by rw [hasText, hasText, haveTexts_eq alike]
  | .record _ _, .record _ _, .record alike => by rw [hasText, hasText, fieldsHaveTexts_eq alike]
  | .set _ _, .set _ _, .set alike _ => by rw [hasText, hasText, haveTexts_eq alike]
  | .map _, .map _, .map alike => by rw [hasText, hasText, entriesHaveTexts_eq alike]
  | .stream _ _, .stream _ _, .stream _ => rfl
  | .object _ _ _, .object _ _ _, .object _ _ _ => rfl

theorem haveTexts_eq : ∀ {items items'}, List.Forall₂ Resembles items items' →
    haveTexts items' = haveTexts items
  | [], _, .nil => rfl
  | _ :: _, _ :: _, .cons first rest => by
      rw [haveTexts, haveTexts, hasText_eq_of_resembles _ _ first, haveTexts_eq rest]

theorem fieldsHaveTexts_eq : ∀ {fields fields'},
    List.Forall₂ (PairAlike Eq Resembles) fields fields' →
    fieldsHaveTexts fields' = fieldsHaveTexts fields
  | [], _, .nil => rfl
  | (_, _) :: _, (_, _) :: _, .cons (.mk _ first) rest => by
      rw [fieldsHaveTexts, fieldsHaveTexts, hasText_eq_of_resembles _ _ first,
        fieldsHaveTexts_eq rest]

theorem entriesHaveTexts_eq : ∀ {entries entries'},
    List.Forall₂ (PairAlike Resembles Resembles) entries entries' →
    entriesHaveTexts entries' = entriesHaveTexts entries
  | [], _, .nil => rfl
  | (_, _) :: _, (_, _) :: _, .cons (.mk key first) rest => by
      rw [entriesHaveTexts, entriesHaveTexts, hasText_eq_of_resembles _ _ key,
        hasText_eq_of_resembles _ _ first, entriesHaveTexts_eq rest]

end

theorem equals_eq_of_resembles {a a' b b' : Value} (left : Resembles a a')
    (right : Resembles b b') : equals a' b' = equals a b := by
  rw [equals, equals, canonical?_eq_of_resembles _ _ left, canonical?_eq_of_resembles _ _ right]

/-- Values made of others, but for sets. -/
def isCompound : Value → Bool
  | .list _ | .tuple _ | .record .. | .map _ | .stream .. | .object .. => true
  | _ => false

/-- What decides how a value compares that is no tuple: the value itself, or the elements of a set as
far as they can be told apart. -/
theorem Resembles.eq_or_isCompound {value value' : Value} (resembles : Resembles value value') :
    value' = value ∨ (value.isCompound = true ∧ value'.isCompound = true) ∨
      ∃ frozen items items', value = .set frozen items ∧ value' = .set frozen items' ∧
        items'.map canonical? = items.map canonical? := by
  cases resembles with
  | same => exact .inl rfl
  | set alike _ => exact .inr (.inr ⟨_, _, _, rfl, rfl, map_canonical?_eq alike⟩)
  | _ => exact .inr (.inl ⟨rfl, rfl⟩)

mutual

/-- Comparing the value asks no object for an order of its own. -/
def isUnranked : Value → Bool
  | .object profile _ _ => profile.below.isEmpty && profile.above.isEmpty
  | .tuple items => areUnranked items
  | .record _ fields => fieldsAreUnranked fields
  | _ => true

def areUnranked : List Value → Bool
  | [] => true
  | item :: rest => item.isUnranked && areUnranked rest

def fieldsAreUnranked : List (String × Value) → Bool
  | [] => true
  | (_, value) :: rest => value.isUnranked && fieldsAreUnranked rest

end

/-- Values that resemble each other, and no object in them has an order of its own. -/
structure ComparesLike (value value' : Value) : Prop where
  resembles : value.Resembles value'
  unranked : value.isUnranked = true
  unranked' : value'.isUnranked = true

theorem answerOn?_nil (value : Value) : answerOn? [] value = none := by
  rw [answerOn?]
  cases value.canonical? <;> rfl

theorem ownLess_of_isUnranked {a b : Value} (left : a.isUnranked = true)
    (right : b.isUnranked = true) : ownLess a b = .error .kinds := by
  have below : (a.profile?.bind fun profile => answerOn? profile.below b) = none := by
    cases a with
    | object profile members contents =>
        rw [isUnranked, Bool.and_eq_true, List.isEmpty_iff, List.isEmpty_iff] at left
        rw [profile?, Option.bind_some, left.1, answerOn?_nil]
    | _ => rfl
  have above : (b.profile?.bind fun profile => answerOn? profile.above a) = none := by
    cases b with
    | object profile members contents =>
        rw [isUnranked, Bool.and_eq_true, List.isEmpty_iff, List.isEmpty_iff] at right
        rw [profile?, Option.bind_some, right.2, answerOn?_nil]
    | _ => rfl
  rw [ownLess, below, above]
  rfl

theorem singleLess_of_isCompound {a b : Value} (compound : a.isCompound = true) :
    singleLess a b = ownLess a b := by
  cases a <;> first | exact Bool.noConfusion compound | (cases b <;> rfl)

theorem singleLess_of_isCompound_right {a b : Value} (compound : b.isCompound = true) :
    singleLess a b = ownLess a b := by
  cases b <;> first | exact Bool.noConfusion compound | (cases a <;> rfl)

theorem singleLess_set_left {frozen : Bool} {items items' : List Value} {b : Value}
    (plain : b.isUnranked = true) (same : items'.map canonical? = items.map canonical?) :
    singleLess (.set frozen items') b = singleLess (.set frozen items) b := by
  have own : ownLess (.set frozen items') b = ownLess (.set frozen items) b :=
    (ownLess_of_isUnranked rfl plain).trans (ownLess_of_isUnranked rfl plain).symm
  cases b with
  | set => simp only [singleLess, size?, same]
  | _ => exact own

theorem singleLess_set_right {frozen : Bool} {items items' : List Value} {a : Value}
    (plain : a.isUnranked = true) (same : items'.map canonical? = items.map canonical?) :
    singleLess a (.set frozen items') = singleLess a (.set frozen items) := by
  have own : ownLess a (.set frozen items') = ownLess a (.set frozen items) :=
    (ownLess_of_isUnranked plain rfl).trans (ownLess_of_isUnranked plain rfl).symm
  cases a with
  | set => simp only [singleLess, size?, same]
  | _ => exact own

theorem ComparesLike.singleLess_left {a a' b : Value} (left : ComparesLike a a')
    (plain : b.isUnranked = true) : singleLess a' b = singleLess a b := by
  rcases left.resembles.eq_or_isCompound with
    rfl | ⟨compound, compound'⟩ | ⟨_, _, _, rfl, rfl, same⟩
  · rfl
  · rw [singleLess_of_isCompound compound, singleLess_of_isCompound compound',
      ownLess_of_isUnranked left.unranked plain, ownLess_of_isUnranked left.unranked' plain]
  · exact singleLess_set_left plain same

theorem ComparesLike.singleLess_right {a b b' : Value} (right : ComparesLike b b')
    (plain : a.isUnranked = true) : singleLess a b' = singleLess a b := by
  rcases right.resembles.eq_or_isCompound with
    rfl | ⟨compound, compound'⟩ | ⟨_, _, _, rfl, rfl, same⟩
  · rfl
  · rw [singleLess_of_isCompound_right compound, singleLess_of_isCompound_right compound',
      ownLess_of_isUnranked plain right.unranked, ownLess_of_isUnranked plain right.unranked']
  · exact singleLess_set_right plain same

theorem singleLess_eq_of_comparesLike {a a' b b' : Value} (left : ComparesLike a a')
    (right : ComparesLike b b') : singleLess a' b' = singleLess a b := by
  rw [left.singleLess_left right.unranked', right.singleLess_right left.unranked]

theorem Resembles.forall₂_refl (items : List Value) : List.Forall₂ Resembles items items :=
  List.forall₂_same.mpr fun item _ => .same item

theorem forall₂_comparesLike {items items' : List Value}
    (alike : List.Forall₂ Resembles items items') (unranked : areUnranked items = true)
    (unranked' : areUnranked items' = true) : List.Forall₂ ComparesLike items items' := by
  induction alike with
  | nil => exact .nil
  | cons first _ inductionHypothesis =>
      rw [areUnranked, Bool.and_eq_true] at unranked unranked'
      exact .cons ⟨first, unranked.1, unranked'.1⟩ (inductionHypothesis unranked.2 unranked'.2)

theorem forall₂_fields_comparesLike {fields fields' : List (String × Value)}
    (alike : List.Forall₂ (PairAlike Eq Resembles) fields fields')
    (unranked : fieldsAreUnranked fields = true) (unranked' : fieldsAreUnranked fields' = true) :
    List.Forall₂ (PairAlike Eq ComparesLike) fields fields' := by
  induction alike with
  | nil => exact .nil
  | cons first _ inductionHypothesis =>
      obtain ⟨sameName, first⟩ := first
      rw [fieldsAreUnranked, Bool.and_eq_true] at unranked unranked'
      exact .cons (.mk sameName ⟨first, unranked.1, unranked'.1⟩)
        (inductionHypothesis unranked.2 unranked'.2)

theorem ComparesLike.of_tuple {items : List Value} {value : Value}
    (like : ComparesLike (.tuple items) value) :
    ∃ items', value = .tuple items' ∧ List.Forall₂ ComparesLike items items' := by
  obtain ⟨resembles, unranked, unranked'⟩ := like
  cases resembles with
  | same =>
      exact ⟨items, rfl, forall₂_comparesLike (Resembles.forall₂_refl items) unranked unranked⟩
  | tuple alike => exact ⟨_, rfl, forall₂_comparesLike alike unranked unranked'⟩

theorem ComparesLike.of_record {type : String} {fields : List (String × Value)} {value : Value}
    (like : ComparesLike (.record type fields) value) :
    ∃ fields', value = .record type fields' ∧
      List.Forall₂ (PairAlike Eq ComparesLike) fields fields' := by
  obtain ⟨resembles, unranked, unranked'⟩ := like
  cases resembles with
  | same =>
      have alike : List.Forall₂ (PairAlike Eq Resembles) fields fields :=
        List.forall₂_same.mpr fun _ _ => .mk rfl (.same _)
      exact ⟨fields, rfl, forall₂_fields_comparesLike alike unranked unranked⟩
  | record alike => exact ⟨_, rfl, forall₂_fields_comparesLike alike unranked unranked'⟩

theorem ComparesLike.tupleItems? {value value' : Value} (like : ComparesLike value value') :
    Option.Rel (List.Forall₂ ComparesLike) value.tupleItems? value'.tupleItems? := by
  cases value with
  | tuple items =>
      obtain ⟨items', rfl, alike⟩ := like.of_tuple
      exact .some alike
  | record type fields =>
      obtain ⟨fields', rfl, alike⟩ := like.of_record
      exact .some (PairAlike.seconds alike)
  | _ =>
      obtain ⟨resembles, _, _⟩ := like
      cases resembles <;> exact .none

theorem less_of_tupleItems?_eq_none {a b : Value} (single : a.tupleItems? = none) :
    less a b = singleLess a b := by
  cases a <;> first | (cases single; done) | simp only [less]

theorem less_eq_of_single {a a' b b' : Value} (single : a.tupleItems? = none)
    (left : ComparesLike a a') (right : ComparesLike b b') : less a' b' = less a b := by
  have single' : a'.tupleItems? = none := by
    have likeItems := left.tupleItems?
    rw [single] at likeItems
    generalize a'.tupleItems? = items at likeItems ⊢
    cases likeItems
    rfl
  rw [less_of_tupleItems?_eq_none single, less_of_tupleItems?_eq_none single',
    singleLess_eq_of_comparesLike left right]

mutual

theorem less_eq_of_comparesLike (a a' b b' : Value) (left : ComparesLike a a')
    (right : ComparesLike b b') : less a' b' = less a b := by
  have single := singleLess_eq_of_comparesLike left right
  cases a with
  | tuple items =>
      obtain ⟨items', rfl, alike⟩ := left.of_tuple
      rw [less, less, single]
      -- Either both values on the right have items or neither has.
      have likeOthers := right.tupleItems?
      generalize b.tupleItems? = others, b'.tupleItems? = others' at likeOthers ⊢
      cases likeOthers with
      | none => rfl
      | some likeOthers => exact itemsLess_eq items items' _ _ alike likeOthers
  | record kind fields =>
      obtain ⟨fields', rfl, alike⟩ := left.of_record
      rw [less, less, single]
      have likeOthers := right.tupleItems?
      generalize b.tupleItems? = others, b'.tupleItems? = others' at likeOthers ⊢
      cases likeOthers with
      | none => rfl
      | some likeOthers => exact fieldsLess_eq fields fields' _ _ alike likeOthers
  | _ => exact less_eq_of_single rfl left right

theorem itemsLess_eq : ∀ items items' others others', List.Forall₂ ComparesLike items items' →
    List.Forall₂ ComparesLike others others' →
    itemsLess items' others' = itemsLess items others
  | [], _, _, _, .nil, .nil => rfl
  | [], _, _, _, .nil, .cons _ _ => rfl
  | _ :: _, _, _, _, .cons _ _, .nil => rfl
  | a :: rest, _, _, _, .cons left alike, .cons right likeOthers => by
      rw [itemsLess, itemsLess, equals_eq_of_resembles left.resembles right.resembles,
        less_eq_of_comparesLike a _ _ _ left right, itemsLess_eq rest _ _ _ alike likeOthers]

theorem fieldsLess_eq : ∀ fields fields' others others',
    List.Forall₂ (PairAlike Eq ComparesLike) fields fields' →
    List.Forall₂ ComparesLike others others' →
    fieldsLess fields' others' = fieldsLess fields others
  | [], _, _, _, .nil, .nil => rfl
  | [], _, _, _, .nil, .cons _ _ => rfl
  | (_, _) :: _, _, _, _, .cons (.mk _ _) _, .nil => rfl
  | (_, a) :: rest, _, _, _, .cons (.mk _ left) alike, .cons right likeOthers => by
      rw [fieldsLess, fieldsLess, equals_eq_of_resembles left.resembles right.resembles,
        less_eq_of_comparesLike a _ _ _ left right, fieldsLess_eq rest _ _ _ alike likeOthers]

end

end Value
end Stencil
