set_option autoImplicit false

/-!
Sorting by questions. A way of sorting asks whether the item at one position is less than the one
at another, and stops at the first question that has no answer. Nothing else is known of the items.
What it returns is in order as far as neighbours go, which says more where "less" is transitive.
-/

namespace Stencil

/-- Why it is not known whether one value is less than another. -/
inductive Disorder where
  /-- The kinds of the two have no order. -/
  | kinds
  | undefined
  | refused (reason : String)
  deriving DecidableEq, Repr, Inhabited

instance : DecidableEq (Except Disorder Bool)
  | .ok a, .ok b => decidable_of_iff (a = b) (by simp)
  | .error a, .error b => decidable_of_iff (a = b) (by simp)
  | .ok _, .error _ | .error _, .ok _ => .isFalse (by simp)

/-- Tells whether the item at the first position is less than the one at the second. -/
abbrev Less := Nat → Nat → Except Disorder Bool

namespace Less

/-- Neighbours in order: the second one is not less, or the first one is. -/
def Orders (less : Less) (i j : Nat) : Prop := less j i = .ok false ∨ less i j = .ok true

/-- Each item is in order with the one after it. -/
def Chains (less : Less) : List Nat → Prop
  | i :: j :: rest => less.Orders i j ∧ less.Chains (j :: rest)
  | _ => True

theorem chains_cons {less : Less} {i : Nat} {rest : List Nat} :
    less.Chains (i :: rest) ↔ (∀ next ∈ rest.head?, less.Orders i next) ∧ less.Chains rest := by
  cases rest with
  | nil => simp [Chains]
  | cons j rest => simp [Chains]

theorem chains_append {less : Less} {before after : List Nat} :
    less.Chains (before ++ after) ↔ less.Chains before ∧ less.Chains after ∧
      ∀ last ∈ before.getLast?, ∀ next ∈ after.head?, less.Orders last next := by
  induction before with
  | nil => simp [Chains]
  | cons i before inductionHypothesis =>
      rw [List.cons_append, chains_cons, inductionHypothesis, chains_cons]
      cases before with
      | nil => simp [Chains, and_comm]
      | cons j before => simp [and_assoc]

/-- A question about two of the items has no answer. -/
def Fails (less : Less) (items : List Nat) (reason : Disorder) : Prop :=
  ∃ i ∈ items, ∃ j ∈ items, i ≠ j ∧ less i j = .error reason

theorem Fails.mono {less : Less} {items others : List Nat} {reason : Disorder}
    (fails : Fails less items reason) (subset : items ⊆ others) : Fails less others reason := by
  obtain ⟨i, memberI, j, memberJ, differ, asked⟩ := fails
  exact ⟨i, subset memberI, j, subset memberJ, differ, asked⟩

/-- The items in order, or a reason why they are not. -/
def Arranges (less : Less) (items : List Nat) : Except Disorder (List Nat) → Prop
  | .ok order => order.Perm items ∧ less.Chains order
  | .error reason => Fails less items reason

theorem Arranges.perm {less : Less} {items others : List Nat}
    {outcome : Except Disorder (List Nat)} (arranges : Arranges less items outcome)
    (perm : items.Perm others) : Arranges less others outcome := by
  cases outcome with
  | error reason => exact Fails.mono arranges perm.subset
  | ok order => exact ⟨arranges.1.trans perm, arranges.2⟩

end Less

structure Sorting where
  arrange : Less → Nat → Except Disorder (List Nat)
  arranges : ∀ less count, Less.Arranges less (List.range count) (arrange less count)

namespace Sorting

/-- Puts an item in its place among items in order. The place is found by halving. -/
def insert (less : Less) (item : Nat) (sorted : List Nat) : Except Disorder (List Nat) :=
  match _cut : sorted.drop (sorted.length / 2) with
  | [] => .ok [item]
  | middle :: later => do
      if ← less item middle then
        let earlier ← insert less item (sorted.take (sorted.length / 2))
        return earlier ++ middle :: later
      else
        let later ← insert less item later
        return sorted.take (sorted.length / 2) ++ middle :: later
termination_by sorted.length
decreasing_by
  all_goals
    have lengths := congrArg List.length _cut
    simp only [List.length_drop, List.length_cons, List.length_take] at lengths ⊢
    omega

/-- A start in which each item is less than the one before it is turned round. -/
def descend (less : Less) (last : Nat) (run : List Nat) :
    List Nat → Except Disorder (List Nat × List Nat)
  | [] => .ok (last :: run, [])
  | next :: rest => do
      if ← less next last then descend less next (last :: run) rest
      else return (last :: run, next :: rest)

/-- A start in which no item is less than the one before it. -/
def ascend (less : Less) (first : Nat) : List Nat → Except Disorder (List Nat × List Nat)
  | [] => .ok ([first], [])
  | next :: rest => do
      if ← less next first then return ([first], next :: rest)
      else
        let (run, others) ← ascend less next rest
        return (first :: run, others)

/-- The longest start that is in order one way or the other, and the items after it. -/
def start (less : Less) : List Nat → Except Disorder (List Nat × List Nat)
  | first :: second :: rest => do
      if ← less second first then descend less second [first] rest
      else
        let (run, others) ← ascend less second rest
        return (first :: run, others)
  | items => .ok (items, [])

/-- The items after the start go to their places one by one. -/
def byInsertion (less : Less) (items : List Nat) : Except Disorder (List Nat) := do
  let (sorted, rest) ← start less items
  rest.foldlM (fun sorted item => insert less item sorted) sorted

variable {less : Less} {item last : Nat} {items others rest run sorted : List Nat}

/-- The item stands where neither neighbour is out of order, or could not be compared. -/
def Inserts (less : Less) (item : Nat) (sorted : List Nat) : Except Disorder (List Nat) → Prop
  | .ok order => ∃ before after, sorted = before ++ after ∧ order = before ++ item :: after ∧
      (∀ last ∈ before.getLast?, less.Orders last item) ∧
      ∀ next ∈ after.head?, less.Orders item next
  | .error reason => ∃ other ∈ sorted, less item other = .error reason

theorem Inserts.before {outcome : Except Disorder (List Nat)} {middle : Nat} {later : List Nat}
    (inserts : Inserts less item sorted outcome) (isLess : less item middle = .ok true) :
    Inserts less item (sorted ++ middle :: later)
      (outcome >>= fun earlier => .ok (earlier ++ middle :: later)) := by
  cases outcome with
  | error reason =>
      obtain ⟨other, member, asked⟩ := inserts
      exact ⟨other, List.mem_append_left _ member, asked⟩
  | ok order =>
      obtain ⟨before, after, rfl, rfl, last, next⟩ := inserts
      refine ⟨before, after ++ middle :: later, by simp, by simp, last, ?_⟩
      cases after with
      | nil =>
          rintro _ ⟨⟩
          exact .inr isLess
      | cons first after => exact next

theorem Inserts.after {outcome : Except Disorder (List Nat)} {middle : Nat} {earlier : List Nat}
    (inserts : Inserts less item sorted outcome) (notLess : less item middle = .ok false) :
    Inserts less item (earlier ++ middle :: sorted)
      (outcome >>= fun later => .ok (earlier ++ middle :: later)) := by
  cases outcome with
  | error reason =>
      obtain ⟨other, member, asked⟩ := inserts
      exact ⟨other, by simp [member], asked⟩
  | ok order =>
      obtain ⟨before, after, rfl, rfl, last, next⟩ := inserts
      refine ⟨earlier ++ middle :: before, after, by simp, by simp, ?_, next⟩
      intro _ isLast
      rw [List.getLast?_append] at isLast
      cases before with
      | nil =>
          cases isLast
          exact .inl notLess
      | cons first before => exact last _ (by simpa using isLast)

theorem inserts_insert (less : Less) (item : Nat) (sorted : List Nat) :
    Inserts less item sorted (insert less item sorted) := by
  fun_induction insert less item sorted with
  | case1 sorted cut =>
      have short : sorted.length ≤ sorted.length / 2 := List.drop_eq_nil_iff.mp cut
      have empty : sorted = [] := List.eq_nil_of_length_eq_zero (by omega)
      exact ⟨[], [], empty, rfl, by simp, by simp⟩
  | case2 sorted middle later cut inductionEarlier inductionLater =>
      have whole : sorted = sorted.take (sorted.length / 2) ++ middle :: later := by
        rw [← cut, List.take_append_drop]
      generalize sorted.take (sorted.length / 2) = earlier at whole inductionEarlier ⊢
      subst whole
      cases asked : less item middle with
      | error reason => exact ⟨middle, by simp, asked⟩
      | ok isLess =>
          cases isLess with
          | true => exact inductionEarlier.before asked
          | false => exact inductionLater.after asked

/-- Items that are in order stay so when another one is put in its place. -/
theorem Inserts.arranges {outcome : Except Disorder (List Nat)}
    (inserts : Inserts less item sorted outcome) (ordered : less.Chains sorted)
    (fresh : item ∉ sorted) : less.Arranges (item :: sorted) outcome := by
  cases outcome with
  | error reason =>
      obtain ⟨other, member, asked⟩ := inserts
      have differ : item ≠ other := fun same => fresh (same ▸ member)
      exact ⟨item, by simp, other, by simp [member], differ, asked⟩
  | ok order =>
      obtain ⟨before, after, rfl, rfl, last, next⟩ := inserts
      obtain ⟨orderedBefore, orderedAfter, _⟩ := Less.chains_append.mp ordered
      have middle := Less.chains_cons.mpr ⟨next, orderedAfter⟩
      refine ⟨List.perm_middle, Less.chains_append.mpr ⟨orderedBefore, middle, ?_⟩⟩
      rintro x isLast _ ⟨⟩
      exact last x isLast

/-- What the start leaves to be done: items in order and other ones. -/
def Starts (less : Less) (items : List Nat) : Except Disorder (List Nat × List Nat) → Prop
  | .ok (sorted, rest) => (sorted ++ rest).Perm items ∧ less.Chains sorted
  | .error reason => less.Fails items reason

theorem Starts.perm {outcome : Except Disorder (List Nat × List Nat)}
    (starts : Starts less items outcome) (perm : items.Perm others) :
    Starts less others outcome := by
  cases outcome with
  | error reason => exact Less.Fails.mono starts perm.subset
  | ok result => exact ⟨starts.1.trans perm, starts.2⟩

theorem starts_descend (ordered : less.Chains (last :: run))
    (nodup : (last :: run ++ rest).Nodup) :
    Starts less (last :: run ++ rest) (descend less last run rest) := by
  induction rest generalizing last run with
  | nil => exact ⟨by simp, ordered⟩
  | cons next rest inductionHypothesis =>
      have moved : (next :: last :: run ++ rest).Perm (last :: run ++ next :: rest) :=
        List.perm_middle.symm
      rw [descend]
      cases asked : less next last with
      | error reason =>
          have differ : next ≠ last := (List.pairwise_cons.mp (moved.nodup_iff.mpr nodup)).1 last
            (by simp)
          exact ⟨next, by simp, last, by simp, differ, asked⟩
      | ok isLess =>
          cases isLess with
          | true =>
              have further : less.Chains (next :: last :: run) := ⟨.inr asked, ordered⟩
              exact (inductionHypothesis further (moved.nodup_iff.mpr nodup)).perm moved
          | false => exact ⟨.refl _, ordered⟩

/-- A start that goes on from an item stands after it. -/
theorem Starts.after {first next : Nat} {outcome : Except Disorder (List Nat × List Nat)}
    (starts : Starts less (next :: rest) outcome) (notLess : less next first = .ok false)
    (begins : ∀ result, outcome = .ok result → result.1.head? = some next) :
    Starts less (first :: next :: rest)
      (outcome >>= fun result => .ok (first :: result.1, result.2)) := by
  cases outcome with
  | error reason => exact Less.Fails.mono starts (List.subset_cons_self _ _)
  | ok result =>
      refine ⟨starts.1.cons first, Less.chains_cons.mpr ⟨?_, starts.2⟩⟩
      rw [begins result rfl]
      rintro _ ⟨⟩
      exact .inl notLess

theorem head?_of_ascend {first : Nat} {result : List Nat × List Nat}
    (ascended : ascend less first rest = .ok result) : result.1.head? = some first := by
  cases rest with
  | nil =>
      cases ascended
      rfl
  | cons next rest =>
      rw [ascend] at ascended
      cases asked : less next first with
      | error reason => simp [asked, bind, Except.bind] at ascended
      | ok isLess =>
          cases isLess with
          | true =>
              simp [asked, bind, Except.bind, pure, Except.pure] at ascended
              simp [← ascended]
          | false =>
              cases further : ascend less next rest with
              | error reason => simp [asked, further, bind, Except.bind] at ascended
              | ok others =>
                  simp [asked, further, bind, Except.bind, pure, Except.pure] at ascended
                  simp [← ascended]

theorem starts_ascend {first : Nat} (nodup : (first :: rest).Nodup) :
    Starts less (first :: rest) (ascend less first rest) := by
  induction rest generalizing first with
  | nil => exact ⟨.refl _, trivial⟩
  | cons next rest inductionHypothesis =>
      have apart := List.nodup_cons.mp nodup
      rw [ascend]
      cases asked : less next first with
      | error reason =>
          have differ : next ≠ first := fun same => apart.1 (by simp [same])
          exact ⟨next, by simp, first, by simp, differ, asked⟩
      | ok isLess =>
          cases isLess with
          | true => exact ⟨.refl _, trivial⟩
          | false => exact (inductionHypothesis apart.2).after asked fun _ => head?_of_ascend

theorem starts_start (nodup : items.Nodup) : Starts less items (start less items) := by
  match items with
  | [] => exact ⟨.refl _, trivial⟩
  | [first] => exact ⟨.refl _, trivial⟩
  | first :: second :: rest =>
      have swapped : (second :: [first] ++ rest).Perm (first :: second :: rest) :=
        .swap first second rest
      have apart : (second :: [first] ++ rest).Nodup := swapped.nodup_iff.mpr nodup
      rw [start]
      cases asked : less second first with
      | error reason =>
          have differ : second ≠ first := (List.pairwise_cons.mp apart).1 first (by simp)
          exact ⟨second, by simp, first, by simp, differ, asked⟩
      | ok isLess =>
          cases isLess with
          | true =>
              have ordered : less.Chains [second, first] := ⟨.inr asked, trivial⟩
              exact (starts_descend ordered apart).perm swapped
          | false =>
              exact (starts_ascend (List.nodup_cons.mp nodup).2).after asked
                fun _ => head?_of_ascend

theorem arranges_foldlM (ordered : less.Chains sorted) (nodup : (sorted ++ rest).Nodup) :
    less.Arranges (sorted ++ rest)
      (rest.foldlM (fun sorted item => insert less item sorted) sorted) := by
  induction rest generalizing sorted with
  | nil => exact ⟨by simp, ordered⟩
  | cons item rest inductionHypothesis =>
      have moved : (item :: sorted ++ rest).Perm (sorted ++ item :: rest) := List.perm_middle.symm
      have apart := moved.nodup_iff.mpr nodup
      have fresh : item ∉ sorted := fun member =>
        (List.nodup_cons.mp apart).1 (List.mem_append_left _ member)
      have step := (inserts_insert less item sorted).arranges ordered fresh
      rw [List.foldlM_cons]
      cases inserted : insert less item sorted with
      | error reason =>
          rw [inserted] at step
          exact Less.Fails.mono step
            (List.Subset.trans (List.subset_append_left _ rest) moved.subset)
      | ok order =>
          rw [inserted] at step
          have grown : (order ++ rest).Perm (sorted ++ item :: rest) :=
            (step.1.append_right rest).trans moved
          exact (inductionHypothesis step.2 (grown.nodup_iff.mpr nodup)).perm grown

theorem arranges_byInsertion (nodup : items.Nodup) :
    less.Arranges items (byInsertion less items) := by
  have starts : Starts less items (start less items) := starts_start nodup
  rw [byInsertion]
  cases started : start less items with
  | error reason =>
      rw [started] at starts
      exact starts
  | ok result =>
      rw [started] at starts
      exact (arranges_foldlM starts.2 (starts.1.nodup_iff.mpr nodup)).perm starts.1

/-- Insertion into the longest start that is in order. -/
def standard : Sorting where
  arrange less count := byInsertion less (List.range count)
  arranges _ _ := arranges_byInsertion List.nodup_range

end Sorting
end Stencil
