import Mathlib.Data.List.Nodup
import Mathlib.Data.List.Pairwise
import Stencil.Proofs.Settings.Grounding

set_option autoImplicit false

/-!
Trees in which no list or map stands at two places. There is a single way of keys to each list and
map, and everything that holds it lies on that way. The trees of values are such, and those in which a
change puts something new into such a tree.
-/

namespace Stencil.Settings.Tree

/-- No list or map stands at two places. -/
def Unshared (tree : Tree) : Prop := tree.origins.Nodup

variable {tree inner found : Tree} {change : Change} {step : Step} {place front : Path}
  {origin : Origin} {stage : Nat}

theorem itemOrigins_eq_flatMap (items : List Tree) : itemOrigins items = items.flatMap origins := by
  induction items with
  | nil => rfl
  | cons item rest inductionHypothesis =>
      rw [itemOrigins, inductionHypothesis, List.flatMap_cons]

theorem entryOrigins_eq_flatMap (entries : List (Value × Tree)) :
    entryOrigins entries = entries.flatMap fun entry => entry.2.origins := by
  induction entries with
  | nil => rfl
  | cons entry rest inductionHypothesis =>
      rw [entryOrigins, inductionHypothesis, List.flatMap_cons]

theorem Unshared.not_mem_of_enter? (unshared : tree.Unshared) (own : tree.origin? = some origin)
    (there : tree.enter? step = some inner) : origin ∉ inner.origins := by
  intro inside
  rcases mem_of_enter? there with ⟨_, items, rfl, member⟩ | ⟨_, entries, rfl, key, member⟩
  · cases own
    exact (List.nodup_cons.mp unshared).1 (mem_itemOrigins.mpr ⟨inner, member, inside⟩)
  · cases own
    exact (List.nodup_cons.mp unshared).1 (mem_entryOrigins.mpr ⟨(key, inner), member, inside⟩)

/-- Two entries that hold one list or map are the same. -/
theorem Unshared.eq_of_mem {entries : List (Value × Tree)} {one other : Value × Tree} {own : Origin}
    (unshared : (map own entries).Unshared) (first : one ∈ entries) (second : other ∈ entries)
    (inside : origin ∈ one.2.origins) (inside' : origin ∈ other.2.origins) : one = other := by
  have parts := (List.nodup_cons.mp unshared).2
  rw [entryOrigins_eq_flatMap, List.nodup_flatMap] at parts
  have symmetric : Std.Symm (Function.onFun List.Disjoint fun entry : Value × Tree =>
      entry.2.origins) := ⟨fun _ _ => List.disjoint_symm⟩
  by_contra unequal
  exact parts.2.forall first second unequal inside inside'

/-- A key and another step lead to one list or map only if they are the same. -/
theorem Unshared.eq_of_enter? {name : String} {other : Tree} (unshared : tree.Unshared)
    (first : tree.enter? (.key name) = some inner) (second : tree.enter? step = some other)
    (inside : origin ∈ inner.origins) (inside' : origin ∈ other.origins) :
    step = .key name ∧ other = inner := by
  cases tree with
  | leaf | list => cases first
  | map own entries =>
      have named := Value.mem_of_found first
      cases step with
      | key name' =>
          obtain ⟨same, rfl⟩ := Prod.ext_iff.mp
            (unshared.eq_of_mem named (Value.mem_of_found second) inside inside')
          cases same
          exact ⟨rfl, rfl⟩
      | index number =>
          obtain ⟨key, numbered, equal⟩ := Value.mem_of_lookup? second
          obtain ⟨same, -⟩ := Prod.ext_iff.mp (unshared.eq_of_mem named numbered inside inside')
          cases same
          rw [equals_text_int] at equal
          cases equal

theorem Unshared.of_enter? (unshared : tree.Unshared) (there : tree.enter? step = some inner) :
    inner.Unshared := by
  rcases mem_of_enter? there with ⟨_, items, rfl, member⟩ | ⟨_, entries, rfl, key, member⟩
  · have parts := (List.nodup_cons.mp unshared).2
    rw [itemOrigins_eq_flatMap, List.nodup_flatMap] at parts
    exact parts.1 inner member
  · have parts := (List.nodup_cons.mp unshared).2
    rw [entryOrigins_eq_flatMap, List.nodup_flatMap] at parts
    exact parts.1 (key, inner) member

/-- The way of keys to a list or map goes through all that holds it. -/
theorem Unshared.prefix_of_mem (unshared : tree.Unshared)
    (keys : ∀ step ∈ front, ∃ name, step = .key name) (standing : tree.originAt? front = some origin)
    (there : tree.reach? place = some found) (inside : origin ∈ found.origins) : place <+: front := by
  induction place generalizing tree front with
  | nil => exact List.nil_prefix
  | cons step rest inductionHypothesis =>
      obtain ⟨inner, here, further⟩ := Option.bind_eq_some_iff.mp there
      have held := mem_origins_of_reach? further inside
      cases front with
      | nil => exact absurd held (unshared.not_mem_of_enter? standing here)
      | cons first others =>
          obtain ⟨⟨name, rfl⟩, others'⟩ := List.forall_mem_cons.mp keys
          obtain ⟨last, there', own⟩ := Option.bind_eq_some_iff.mp standing
          obtain ⟨next, here', further'⟩ := Option.bind_eq_some_iff.mp there'
          have held' := mem_origins_of_reach? further' (mem_origins_of_origin? own)
          obtain ⟨rfl, rfl⟩ := unshared.eq_of_enter? here' here held' held
          refine List.cons_prefix_cons.mpr ⟨rfl, ?_⟩
          exact inductionHypothesis (unshared.of_enter? here) others'
            (by rw [originAt?, further']; exact own) further

/-! A value stands at each place by itself. -/

mutual

/-- The place of what is in a tree leads on from that of the tree. -/
theorem suffix_of_mem_ofValue (stage : Nat) : ∀ (value : Value) (place : List Nat),
    ∀ origin ∈ (ofValue stage place value).origins, place <:+ origin.place
  | .list items, place => by
      rw [ofValue, origins, List.forall_mem_cons]
      refine ⟨List.suffix_refl _, fun origin inside => ?_⟩
      obtain ⟨position, _, further⟩ := suffix_of_mem_ofItems stage items place origin inside
      exact (List.suffix_cons position place).trans further
  | .map entries, place => by
      rw [ofValue, origins, List.forall_mem_cons]
      refine ⟨List.suffix_refl _, fun origin inside => ?_⟩
      obtain ⟨position, _, further⟩ := suffix_of_mem_ofEntries stage entries place origin inside
      exact (List.suffix_cons position place).trans further
  | .null, _ | .bool .., _ | .int .., _ | .float .., _ | .complex .., _ | .decimal .., _
  | .text .., _ | .bytes .., _ | .tuple .., _ | .record .., _ | .set .., _ | .range .., _
  | .stream .., _ | .date .., _ | .moment .., _ | .zone .., _ | .function .., _ | .type .., _
  | .object .., _ => nofun

theorem suffix_of_mem_ofItems (stage : Nat) : ∀ (items : List Value) (place : List Nat),
    ∀ origin ∈ itemOrigins (ofItems stage place items),
      ∃ position, position < items.length ∧ position :: place <:+ origin.place
  | [], _ => nofun
  | item :: rest, place => by
      rw [ofItems, itemOrigins, List.forall_mem_append]
      refine ⟨fun origin inside => ⟨rest.length, Nat.lt_succ_self _,
        suffix_of_mem_ofValue stage item _ origin inside⟩, fun origin inside => ?_⟩
      obtain ⟨position, less, further⟩ := suffix_of_mem_ofItems stage rest place origin inside
      exact ⟨position, Nat.lt_succ_of_lt less, further⟩

theorem suffix_of_mem_ofEntries (stage : Nat) : ∀ (entries : List (Value × Value))
    (place : List Nat), ∀ origin ∈ entryOrigins (ofEntries stage place entries),
      ∃ position, position < entries.length ∧ position :: place <:+ origin.place
  | [], _ => nofun
  | (key, value) :: rest, place => by
      rw [ofEntries, entryOrigins, List.forall_mem_append]
      refine ⟨fun origin inside => ⟨rest.length, Nat.lt_succ_self _,
        suffix_of_mem_ofValue stage value _ origin inside⟩, fun origin inside => ?_⟩
      obtain ⟨position, less, further⟩ := suffix_of_mem_ofEntries stage rest place origin inside
      exact ⟨position, Nat.lt_succ_of_lt less, further⟩

end

/-- What leads on from one position does not lead on from a lesser one. -/
theorem not_suffix_of_lt {position lower : Nat} {base whole : List Nat} (less : lower < position)
    (one : position :: base <:+ whole) : ¬lower :: base <:+ whole := by
  intro other
  have same := (List.suffix_of_suffix_length_le one other (by simp)).eq_of_length (by simp)
  simp only [List.cons.injEq, and_true] at same
  omega

mutual

theorem unshared_ofValue (stage : Nat) : ∀ (value : Value) (place : List Nat),
    (ofValue stage place value).Unshared
  | .list items, place => by
      refine List.nodup_cons.mpr ⟨fun inside => ?_, nodup_ofItems stage items place⟩
      obtain ⟨position, _, further⟩ := suffix_of_mem_ofItems stage items place _ inside
      exact Nat.not_succ_le_self _ further.length_le
  | .map entries, place => by
      refine List.nodup_cons.mpr ⟨fun inside => ?_, nodup_ofEntries stage entries place⟩
      obtain ⟨position, _, further⟩ := suffix_of_mem_ofEntries stage entries place _ inside
      exact Nat.not_succ_le_self _ further.length_le
  | .null, _ | .bool .., _ | .int .., _ | .float .., _ | .complex .., _ | .decimal .., _
  | .text .., _ | .bytes .., _ | .tuple .., _ | .record .., _ | .set .., _ | .range .., _
  | .stream .., _ | .date .., _ | .moment .., _ | .zone .., _ | .function .., _ | .type .., _
  | .object .., _ => List.nodup_nil

theorem nodup_ofItems (stage : Nat) : ∀ (items : List Value) (place : List Nat),
    (itemOrigins (ofItems stage place items)).Nodup
  | [], _ => List.nodup_nil
  | item :: rest, place => by
      refine (unshared_ofValue stage item _).append (nodup_ofItems stage rest place) ?_
      intro origin first later
      obtain ⟨position, less, further⟩ := suffix_of_mem_ofItems stage rest place origin later
      exact not_suffix_of_lt less (suffix_of_mem_ofValue stage item _ origin first) further

theorem nodup_ofEntries (stage : Nat) : ∀ (entries : List (Value × Value)) (place : List Nat),
    (entryOrigins (ofEntries stage place entries)).Nodup
  | [], _ => List.nodup_nil
  | (key, value) :: rest, place => by
      refine (unshared_ofValue stage value _).append (nodup_ofEntries stage rest place) ?_
      intro origin first later
      obtain ⟨position, less, further⟩ := suffix_of_mem_ofEntries stage rest place origin later
      exact not_suffix_of_lt less (suffix_of_mem_ofValue stage value _ origin first) further

end

/-! A change puts its tree wherever the changed list or map stands, and nothing else. -/

theorem itemOrigins_nulls (count : Nat) : itemOrigins (List.replicate count null) = [] := by
  induction count with
  | zero => rfl
  | succ count inductionHypothesis => exact inductionHypothesis

theorem count_itemOrigins_set_le (origin : Origin) (new : Tree) (items : List Tree)
    (position : Nat) : (itemOrigins (items.set position new)).count origin ≤
      (itemOrigins items).count origin + new.origins.count origin := by
  induction items generalizing position with
  | nil => simp
  | cons item rest inductionHypothesis =>
      cases position with
      | zero =>
          rw [List.set_cons_zero, itemOrigins, itemOrigins, List.count_append, List.count_append]
          omega
      | succ position =>
          rw [List.set_cons_succ, itemOrigins, itemOrigins, List.count_append, List.count_append]
          have fewer := inductionHypothesis position
          omega

theorem count_items_le (change : Change) (origin : Origin) (items : List Tree) :
    (itemOrigins (change.items items)).count origin ≤
      (itemOrigins items).count origin + change.tree.origins.count origin := by
  unfold Change.items
  split
  · refine (count_itemOrigins_set_le origin change.tree _ _).trans ?_
    rw [itemOrigins_eq_flatMap, List.flatMap_append, ← itemOrigins_eq_flatMap,
      ← itemOrigins_eq_flatMap, itemOrigins_nulls, List.append_nil]
  · exact Nat.le_add_right _ _

theorem count_entryOrigins_putEntry_le (origin : Origin) (name : String) (new : Tree)
    (entries : List (Value × Tree)) :
    (entryOrigins (Value.putEntry name new entries)).count origin ≤
      (entryOrigins entries).count origin + new.origins.count origin := by
  induction entries with
  | nil => simp [Value.putEntry, entryOrigins]
  | cons entry rest inductionHypothesis =>
      obtain ⟨key, former⟩ := entry
      rw [Value.putEntry]
      split <;> rw [entryOrigins, entryOrigins, List.count_append, List.count_append] <;> omega

theorem count_entries_le (change : Change) (origin : Origin) (entries : List (Value × Tree)) :
    (entryOrigins (change.entries entries)).count origin ≤
      (entryOrigins entries).count origin + change.tree.origins.count origin := by
  unfold Change.entries
  split
  · exact count_entryOrigins_putEntry_le origin _ change.tree entries
  · exact Nat.le_add_right _ _

mutual

theorem count_origins_apply_le (change : Change) (origin : Origin) : ∀ tree : Tree,
    (tree.apply change).origins.count origin ≤ tree.origins.count origin +
      tree.origins.count change.origin * change.tree.origins.count origin
  | .leaf .. => by simp [apply, origins]
  | .list own items => by
      have within := count_itemOrigins_applyItems_le change origin items
      rw [apply, origins, origins, List.count_cons, List.count_cons, List.count_cons, Nat.add_mul]
      by_cases changed : own = change.origin
      · have put := count_items_le change origin (applyItems change items)
        simp only [changed, if_true, beq_self_eq_true, Nat.one_mul]
        omega
      · simp only [changed, if_false]
        omega
  | .map own entries => by
      have within := count_entryOrigins_applyEntries_le change origin entries
      rw [apply, origins, origins, List.count_cons, List.count_cons, List.count_cons, Nat.add_mul]
      by_cases changed : own = change.origin
      · have put := count_entries_le change origin (applyEntries change entries)
        simp only [changed, if_true, beq_self_eq_true, Nat.one_mul]
        omega
      · simp only [changed, if_false]
        omega

theorem count_itemOrigins_applyItems_le (change : Change) (origin : Origin) :
    ∀ items : List Tree, (itemOrigins (applyItems change items)).count origin ≤
      (itemOrigins items).count origin +
        (itemOrigins items).count change.origin * change.tree.origins.count origin
  | [] => by simp [applyItems, itemOrigins]
  | tree :: rest => by
      have first := count_origins_apply_le change origin tree
      have others := count_itemOrigins_applyItems_le change origin rest
      rw [applyItems, itemOrigins, itemOrigins, List.count_append, List.count_append,
        List.count_append, Nat.add_mul]
      omega

theorem count_entryOrigins_applyEntries_le (change : Change) (origin : Origin) :
    ∀ entries : List (Value × Tree), (entryOrigins (applyEntries change entries)).count origin ≤
      (entryOrigins entries).count origin +
        (entryOrigins entries).count change.origin * change.tree.origins.count origin
  | [] => by simp [applyEntries, entryOrigins]
  | (key, tree) :: rest => by
      have first := count_origins_apply_le change origin tree
      have others := count_entryOrigins_applyEntries_le change origin rest
      rw [applyEntries, entryOrigins, entryOrigins, List.count_append, List.count_append,
        List.count_append, Nat.add_mul]
      omega

end

theorem Unshared.apply (unshared : tree.Unshared) (new : change.tree.Unshared)
    (fresh : ∀ origin ∈ change.tree.origins, origin ∉ tree.origins) :
    (tree.apply change).Unshared := by
  refine List.nodup_iff_count_le_one.mpr fun origin => ?_
  have most := count_origins_apply_le change origin tree
  have once : tree.origins.count change.origin * change.tree.origins.count origin ≤
      1 * change.tree.origins.count origin :=
    Nat.mul_le_mul_right _ (List.nodup_iff_count_le_one.mp unshared _)
  by_cases inside : origin ∈ change.tree.origins
  · have absent := List.count_eq_zero.mpr (fresh origin inside)
    have newOnce := List.nodup_iff_count_le_one.mp new origin
    omega
  · have absent := List.count_eq_zero.mpr inside
    have formerOnce := List.nodup_iff_count_le_one.mp unshared origin
    omega

end Stencil.Settings.Tree
