import Stencil.Proofs.Settings.Sharing

set_option autoImplicit false

/-!
No list or map stands in itself. What is made in a stage holds only what was made before, and what is
further down its own place, so that trees of values and what merging makes of them are acyclic. They
stay so when a change puts something new into them.
-/

namespace Stencil.Settings

/-- The one may stand in the other: it is older, or of the same stage and further down. -/
def Origin.Within (inner outer : Origin) : Prop :=
  inner.stage < outer.stage ∨
    inner.stage = outer.stage ∧ outer.place.length < inner.place.length

theorem Origin.not_within_self (origin : Origin) : ¬origin.Within origin := by
  rintro (less | ⟨_, less⟩) <;> exact lt_irrefl _ less

namespace Tree

/-- Each list or map holds only what may stand in it. -/
inductive Grounded : Tree → Prop where
  | leaf {value plain} : Grounded (.leaf value plain)
  | list {origin items} :
      (∀ item ∈ items, Grounded item) →
      (∀ item ∈ items, ∀ inner ∈ item.origins, inner.Within origin) →
      Grounded (.list origin items)
  | map {origin} {entries : List (Value × Tree)} :
      (∀ entry ∈ entries, Grounded entry.2) →
      (∀ entry ∈ entries, ∀ inner ∈ entry.2.origins, inner.Within origin) →
      Grounded (.map origin entries)

/-- The tree is older than a stage, or made in it from some depth of places on. -/
structure Built (stage depth : Nat) (tree : Tree) : Prop where
  grounded : tree.Grounded
  made : ∀ origin ∈ tree.origins,
    origin.stage < stage ∨ origin.stage = stage ∧ depth ≤ origin.place.length

variable {tree inner found : Tree} {step : Step} {place : Path} {origin : Origin} {stage depth : Nat}

theorem mem_itemOrigins {items : List Tree} :
    origin ∈ itemOrigins items ↔ ∃ item ∈ items, origin ∈ item.origins := by
  induction items with
  | nil => simp [itemOrigins]
  | cons item rest inductionHypothesis => simp [itemOrigins, inductionHypothesis]

theorem mem_entryOrigins {entries : List (Value × Tree)} :
    origin ∈ entryOrigins entries ↔ ∃ entry ∈ entries, origin ∈ entry.2.origins := by
  induction entries with
  | nil => simp [entryOrigins]
  | cons entry rest inductionHypothesis => simp [entryOrigins, inductionHypothesis]

theorem mem_origins_of_origin? (own : tree.origin? = some origin) : origin ∈ tree.origins := by
  cases tree with
  | leaf => cases own
  | list | map =>
      cases own
      exact List.mem_cons_self

/-- What a step leads to is among what the list or map holds. -/
theorem mem_of_enter? (there : tree.enter? step = some inner) :
    (∃ origin items, tree = .list origin items ∧ inner ∈ items) ∨
      ∃ origin entries, tree = .map origin entries ∧ ∃ key, (key, inner) ∈ entries := by
  cases tree with
  | leaf => cases there
  | list origin items =>
      cases step with
      | key => cases there
      | index position => exact .inl ⟨origin, items, rfl, List.mem_of_getElem? there⟩
  | map origin entries =>
      cases step with
      | key name => exact .inr ⟨origin, entries, rfl, _, Value.mem_of_found there⟩
      | index number =>
          obtain ⟨key, member, _⟩ := Value.mem_of_lookup? there
          exact .inr ⟨origin, entries, rfl, key, member⟩

theorem mem_origins_of_enter? (there : tree.enter? step = some inner)
    (inside : origin ∈ inner.origins) : origin ∈ tree.origins := by
  rcases mem_of_enter? there with ⟨own, items, rfl, member⟩ | ⟨own, entries, rfl, key, member⟩
  · exact List.mem_cons_of_mem _ (mem_itemOrigins.mpr ⟨inner, member, inside⟩)
  · exact List.mem_cons_of_mem _ (mem_entryOrigins.mpr ⟨(key, inner), member, inside⟩)

theorem mem_origins_of_reach? (there : tree.reach? place = some inner)
    (inside : origin ∈ inner.origins) : origin ∈ tree.origins := by
  induction place generalizing tree with
  | nil =>
      cases there
      exact inside
  | cons step rest inductionHypothesis =>
      obtain ⟨next, here, further⟩ := Option.bind_eq_some_iff.mp there
      exact mem_origins_of_enter? here (inductionHypothesis further)

theorem mem_origins_of_originAt? (standing : tree.originAt? place = some origin) :
    origin ∈ tree.origins := by
  obtain ⟨inner, there, own⟩ := Option.bind_eq_some_iff.mp standing
  exact mem_origins_of_reach? there (mem_origins_of_origin? own)

/-! Grounded trees are acyclic. -/

theorem Grounded.of_enter? (grounded : tree.Grounded) (there : tree.enter? step = some inner) :
    inner.Grounded := by
  rcases mem_of_enter? there with ⟨own, items, rfl, member⟩ | ⟨own, entries, rfl, key, member⟩
  · cases grounded with
    | list each _ => exact each inner member
  · cases grounded with
    | map each _ => exact each (key, inner) member

theorem Grounded.within (grounded : tree.Grounded) (own : tree.origin? = some origin)
    (there : tree.enter? step = some inner) :
    ∀ further ∈ inner.origins, further.Within origin := by
  rcases mem_of_enter? there with ⟨_, items, rfl, member⟩ | ⟨_, entries, rfl, key, member⟩
  · cases own
    cases grounded with
    | list _ within => exact within inner member
  · cases own
    cases grounded with
    | map _ within => exact within (key, inner) member

theorem Grounded.of_reach? (grounded : tree.Grounded) (there : tree.reach? place = some inner) :
    inner.Grounded := by
  induction place generalizing tree with
  | nil =>
      cases there
      exact grounded
  | cons step rest inductionHypothesis =>
      obtain ⟨next, here, further⟩ := Option.bind_eq_some_iff.mp there
      exact inductionHypothesis (grounded.of_enter? here) further

theorem Grounded.acyclic (grounded : tree.Grounded) : tree.Acyclic := by
  intro front rest origin outside inside
  obtain ⟨outer, there, own⟩ := Option.bind_eq_some_iff.mp outside
  cases rest with
  | nil => rfl
  | cons step others =>
      rw [originAt?, reach?_append, there, Option.bind_some, reach?_cons] at inside
      obtain ⟨last, further, same⟩ := Option.bind_eq_some_iff.mp inside
      obtain ⟨next, here, further⟩ := Option.bind_eq_some_iff.mp further
      have within := (grounded.of_reach? there).within own here origin
        (mem_origins_of_reach? further (mem_origins_of_origin? same))
      exact absurd within origin.not_within_self

/-! What is built of what may stand in it is grounded. -/

theorem built_leaf (value : Value) (plain : isLeaf value = true) :
    Built stage depth (.leaf value plain) := ⟨.leaf, by simp [origins]⟩

theorem Built.of_deeper {deeper : Nat} (built : Built stage deeper tree) (less : depth ≤ deeper) :
    Built stage depth tree :=
  ⟨built.grounded, fun origin inside => (built.made origin inside).imp id (.imp id less.trans)⟩

theorem Grounded.built (grounded : tree.Grounded)
    (older : ∀ origin ∈ tree.origins, origin.stage < stage) :
    Built stage depth tree := ⟨grounded, fun origin inside => .inl (older origin inside)⟩

theorem Built.within {place : List Nat} (built : Built stage (place.length + 1) tree) :
    ∀ inner ∈ tree.origins, inner.Within ⟨stage, place⟩ :=
  fun inner inside => built.made inner inside

theorem built_list {place : List Nat} {items : List Tree}
    (each : ∀ item ∈ items, Built stage (place.length + 1) item) :
    Built stage place.length (.list ⟨stage, place⟩ items) where
  grounded := .list (fun item member => (each item member).grounded)
    fun item member => (each item member).within
  made origin inside := by
    rw [origins, List.mem_cons, mem_itemOrigins] at inside
    rcases inside with rfl | ⟨item, member, inside⟩
    · exact .inr ⟨rfl, le_rfl⟩
    · exact ((each item member).of_deeper (Nat.le_succ _)).made origin inside

theorem built_map {place : List Nat} {entries : List (Value × Tree)}
    (each : ∀ entry ∈ entries, Built stage (place.length + 1) entry.2) :
    Built stage place.length (.map ⟨stage, place⟩ entries) where
  grounded := .map (fun entry member => (each entry member).grounded)
    fun entry member => (each entry member).within
  made origin inside := by
    rw [origins, List.mem_cons, mem_entryOrigins] at inside
    rcases inside with rfl | ⟨entry, member, inside⟩
    · exact .inr ⟨rfl, le_rfl⟩
    · exact ((each entry member).of_deeper (Nat.le_succ _)).made origin inside

mutual

theorem built_ofValue (stage : Nat) : ∀ (value : Value) (place : List Nat),
    Built stage place.length (ofValue stage place value)
  | .list items, place => built_list (built_ofItems stage items place)
  | .map entries, place => built_map (built_ofEntries stage entries place)
  | .null, _ | .bool .., _ | .int .., _ | .float .., _ | .complex .., _ | .decimal .., _
  | .text .., _ | .bytes .., _ | .tuple .., _ | .record .., _ | .set .., _ | .range .., _
  | .stream .., _ | .date .., _ | .moment .., _ | .zone .., _ | .function .., _ | .type .., _
  | .object .., _ => built_leaf _ rfl

theorem built_ofItems (stage : Nat) : ∀ (items : List Value) (place : List Nat),
    ∀ item ∈ ofItems stage place items, Built stage (place.length + 1) item
  | [], _ => by simp [ofItems]
  | item :: rest, place => by
      rw [ofItems, List.forall_mem_cons]
      exact ⟨built_ofValue stage item (rest.length :: place), built_ofItems stage rest place⟩

theorem built_ofEntries (stage : Nat) : ∀ (entries : List (Value × Value)) (place : List Nat),
    ∀ entry ∈ ofEntries stage place entries, Built stage (place.length + 1) entry.2
  | [], _ => by simp [ofEntries]
  | (key, value) :: rest, place => by
      rw [ofEntries, List.forall_mem_cons]
      exact ⟨built_ofValue stage value (rest.length :: place), built_ofEntries stage rest place⟩

end

mutual

theorem stage_of_mem_ofValue (stage : Nat) : ∀ (value : Value) (place : List Nat),
    ∀ origin ∈ (ofValue stage place value).origins, origin.stage = stage
  | .list items, place => by
      rw [ofValue, origins, List.forall_mem_cons]
      exact ⟨rfl, stage_of_mem_ofItems stage items place⟩
  | .map entries, place => by
      rw [ofValue, origins, List.forall_mem_cons]
      exact ⟨rfl, stage_of_mem_ofEntries stage entries place⟩
  | .null, _ | .bool .., _ | .int .., _ | .float .., _ | .complex .., _ | .decimal .., _
  | .text .., _ | .bytes .., _ | .tuple .., _ | .record .., _ | .set .., _ | .range .., _
  | .stream .., _ | .date .., _ | .moment .., _ | .zone .., _ | .function .., _ | .type .., _
  | .object .., _ => nofun

theorem stage_of_mem_ofItems (stage : Nat) : ∀ (items : List Value) (place : List Nat),
    ∀ origin ∈ itemOrigins (ofItems stage place items), origin.stage = stage
  | [], _ => nofun
  | item :: rest, place => by
      rw [ofItems, itemOrigins, List.forall_mem_append]
      exact ⟨stage_of_mem_ofValue stage item _, stage_of_mem_ofItems stage rest place⟩

theorem stage_of_mem_ofEntries (stage : Nat) : ∀ (entries : List (Value × Value)) (place : List Nat),
    ∀ origin ∈ entryOrigins (ofEntries stage place entries), origin.stage = stage
  | [], _ => nofun
  | (key, value) :: rest, place => by
      rw [ofEntries, entryOrigins, List.forall_mem_append]
      exact ⟨stage_of_mem_ofValue stage value _, stage_of_mem_ofEntries stage rest place⟩

end

theorem Built.items {items : List Tree} (built : Built stage depth (.list origin items)) :
    ∀ item ∈ items, Built stage (depth + 1) item := by
  intro item member
  cases built.grounded with
  | list each within =>
      refine ⟨each item member, fun inner inside => ?_⟩
      have outer := built.made origin List.mem_cons_self
      have inward := within item member inner inside
      unfold Origin.Within at inward
      omega

theorem Built.entries {entries : List (Value × Tree)} (built : Built stage depth (.map origin entries)) :
    ∀ entry ∈ entries, Built stage (depth + 1) entry.2 := by
  intro entry member
  cases built.grounded with
  | map each within =>
      refine ⟨each entry member, fun inner inside => ?_⟩
      have outer := built.made origin List.mem_cons_self
      have inward := within entry member inner inside
      unfold Origin.Within at inward
      omega

theorem forall_mem_insertEntry {property : Tree → Prop} {key : Value} {entries : List (Value × Tree)}
    (kept : ∀ entry ∈ entries, property entry.2) (new : property tree) :
    ∀ entry ∈ Value.insertEntry key tree entries, property entry.2 := by
  induction entries with
  | nil => simpa [Value.insertEntry] using new
  | cons entry rest inductionHypothesis =>
      obtain ⟨own, former⟩ := entry
      obtain ⟨first, others⟩ := List.forall_mem_cons.mp kept
      rw [Value.insertEntry]
      split
      · exact List.forall_mem_cons.mpr ⟨new, others⟩
      · exact List.forall_mem_cons.mpr ⟨first, inductionHypothesis others⟩

/-- Merging takes its items from both lists. -/
theorem mem_of_mem_mergeItems {below items : List Tree} {item : Tree}
    (member : item ∈ mergeItems below items) : item ∈ below ∨ item ∈ items := by
  unfold mergeItems at member
  split at member
  · exact .inl member
  · split at member
    · exact (List.mem_append.mp member).imp id (List.mem_cons_of_mem _)
    · split at member
      · exact .inr (List.mem_cons_of_mem _ member)
      · exact .inr member

mutual

theorem built_mergeEntries (stage : Nat) : ∀ (upper base : List (Value × Tree)) (place : List Nat),
    (∀ entry ∈ base, Built stage (place.length + 1) entry.2) →
    (∀ entry ∈ upper, Built stage (place.length + 1) entry.2) →
    ∀ entry ∈ mergeEntries stage place base upper, Built stage (place.length + 1) entry.2
  | [], base, place, below, _ => by rwa [mergeEntries]
  | (key, tree) :: rest, base, place, below, above => by
      rw [List.forall_mem_cons] at above
      rw [mergeEntries]
      refine built_mergeEntries stage rest _ place (forall_mem_insertEntry below ?_) above.2
      refine built_merge stage tree _ (rest.length :: place) (fun inner found => ?_) above.1
      obtain ⟨own, member, _⟩ := Value.mem_of_lookup? found
      exact below (own, inner) member

theorem built_merge (stage : Nat) : ∀ (tree : Tree) (base : Option Tree) (place : List Nat),
    (∀ inner, base = some inner → Built stage place.length inner) → Built stage place.length tree →
    Built stage place.length (merge stage place base tree)
  | .leaf own plain, base, place, _, above => by
      have alone : merge stage place base (.leaf own plain) = .leaf own plain := by
        rw [merge] <;> simp
      rwa [alone]
  | .list own items, base, place, below, above => by
      cases base with
      | none => exact above
      | some inner =>
          cases inner with
          | leaf | map => exact above
          | list origin others =>
              rw [merge]
              split
              · exact below _ rfl
              · refine built_list fun item member => ?_
                exact (mem_of_mem_mergeItems member).elim ((below _ rfl).items item)
                  (above.items item)
  | .map own entries, base, place, below, above => by
      cases base with
      | none => exact above
      | some inner =>
          cases inner with
          | leaf | list => exact above
          | map origin others =>
              rw [merge]
              exact built_map
                (built_mergeEntries stage entries others place (below _ rfl).entries above.entries)

end

theorem Built.overlaid {upper : List (Value × Tree)} (below : Built stage 0 tree)
    (above : ∀ entry ∈ upper, Built stage 1 entry.2) : Built stage 0 (tree.overlaid stage upper) := by
  cases tree with
  | leaf | list => exact below
  | map origin base =>
      exact built_map (built_mergeEntries stage upper base [] below.entries above)

theorem stage_lt_nextStage (tree : Tree) : ∀ origin ∈ tree.origins, origin.stage < tree.nextStage := by
  rw [nextStage]
  induction tree.origins with
  | nil => simp
  | cons first rest inductionHypothesis =>
      rw [List.forall_mem_cons, List.foldr_cons]
      refine ⟨by omega, fun origin later => ?_⟩
      have less := inductionHypothesis origin later
      omega

/-! A change that puts something new into an acyclic tree leaves it acyclic. -/

theorem originAt?_of_apply {change : Change}
    (standing : (tree.apply change).originAt? place = some origin) :
    tree.originAt? place = some origin ∨
      ∃ front rest, place = front ++ change.step :: rest ∧
        tree.originAt? front = some change.origin ∧ change.tree.originAt? rest = some origin := by
  obtain ⟨inner, there, own⟩ := Option.bind_eq_some_iff.mp standing
  rcases reach?_of_apply there with ⟨former, kept, rfl⟩ | ⟨front, changed, new⟩
  · rw [origin?_apply] at own
    exact .inl (by rw [originAt?, kept]; exact own)
  · rcases new with ⟨rest, rfl, put⟩ | ⟨_, _, _, _, _, rfl⟩
    · exact .inr ⟨front, rest, rfl, changed, by rw [originAt?, put]; exact own⟩
    · cases own

theorem Acyclic.apply {change : Change} (acyclic : tree.Acyclic) (new : change.tree.Acyclic)
    (fresh : ∀ origin ∈ change.tree.origins, origin ∉ tree.origins) :
    (tree.apply change).Acyclic := by
  intro front rest origin outside inside
  rcases originAt?_of_apply outside with former | ⟨first, others, rfl, changed, put⟩
  · rcases originAt?_of_apply inside with former' | ⟨_, _, _, _, put'⟩
    · exact acyclic front rest origin former former'
    · exact absurd (mem_origins_of_originAt? former) (fresh origin (mem_origins_of_originAt? put'))
  · rcases originAt?_of_apply inside with former' | ⟨second, others', same, changed', put'⟩
    · exact absurd (mem_origins_of_originAt? former') (fresh origin (mem_origins_of_originAt? put))
    · -- Both go into what is put there, and at the same place.
      have reached : first <+: first ++ change.step :: others ++ rest := by simp
      have reached' : second <+: first ++ change.step :: others ++ rest := by simp [same]
      obtain rfl := acyclic.eq_of_prefix changed changed' reached reached'
      obtain rfl : others ++ rest = others' := by simpa using same
      exact new others rest origin put put'

end Tree
end Stencil.Settings
