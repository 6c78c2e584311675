import SpawnForest.Proofs.Forest.Optimum
import SpawnForest.Proofs.Registry.Soundness

/-!
# Limits of a running registry

A group with a maximum never holds more than that, as long as nobody chooses
the point of a spawn himself (`Reachable.total_le_max`). No operation looks at
the group when it reserves a point. What keeps the group from overflowing is
that the leaf was reached by a descent: the budget that left room for the leaf
came down through every group above it, in either mode.

A leaf is different. At the minimum a leaf with limits of its own is measured by
its minimum alone, so that its ceiling is the greater one of its limits
(`Reachable.own_le_limit`): its maximum only if the limits are not crossed, which
nothing checks (`not_own_le_maxLimit`).

What a registry answers when it is asked for its room is the best that can be
done under all limits at once (`Reachable.room_isGreatest`).
-/

namespace SpawnForest.Registry

variable {may : Registry → PoolId → PointId → Prop} {r s : Registry}

/-! ## Ceilings -/

/-- No group with a maximum holds more than that, and no leaf more than the greater one of its
limits. -/
structure Capped (r : Registry) : Prop where
  group : ∀ {id p}, r.forest.get? id = some p → p.isLeaf = false → 0 < p.maxLimit →
    p.totalCount ≤ p.maxLimit
  leaf : ∀ {id p}, r.forest.get? id = some p → p.isLeaf = true →
    p.ownCount ≤ max p.minLimit p.maxLimit

theorem Fresh.capped (hr : r.Fresh) : r.Capped := by
  refine ⟨fun hp _ _ => ?_, fun hp _ => ?_⟩
  · rw [(hr.counts hp).2]
    exact Nat.zero_le _
  · rw [(hr.counts hp).1]
    exact Nat.zero_le _

/-- The counts of a pool do not go up with a change, or the change reserves a point for a leaf below
the pool: then the total goes up by one, and the own count only if the pool is that leaf. -/
theorem Change.counts_cases (h : Change may r s) (hr : r.Sound) {id : PoolId} {p q : Pool}
    (hp : r.forest.get? id = some p) (hq : s.forest.get? id = some q) :
    (q.ownCount ≤ p.ownCount ∧ q.totalCount ≤ p.totalCount) ∨
    ∃ leaf x, may r leaf x ∧ leaf ∈ r.forest.subtree id ∧ q.totalCount ≤ p.totalCount + 1 ∧
      (q.ownCount ≤ p.ownCount ∨ id = leaf ∧ q.ownCount ≤ p.ownCount + 1) := by
  cases h.tally hr with
  | kept hcounts hpoints =>
      obtain ⟨p', hp', hsame⟩ := Forest.Alike.find hcounts.symm hq
      obtain rfl := Option.some.inj (hp.symm.trans hp')
      obtain ⟨hown, htotal⟩ := Prod.mk.inj hsame
      exact .inl ⟨hown.ge, htotal.ge⟩
  | @gained x point held hpoint hfree hallowed hknown hforest hpoints =>
      rw [hforest] at hq
      have htotals := hr.linked.totalCount_adjust hp hq
      have howns := hr.linked.ownCount_adjust hp hq
      have hbumpTotal := Forest.bump_le p.totalCount 1
      have hbumpOwn := Forest.bump_le p.ownCount 1
      by_cases hbelow : held.pool ∈ r.forest.subtree id
      · refine .inr ⟨held.pool, x, hallowed, hbelow, ?_, ?_⟩
        · rcases htotals with htotal | ⟨-, htotal⟩ <;> omega
        · rcases howns with hown | ⟨hself, hown⟩
          · exact .inl hown.le
          · exact .inr ⟨hself, by omega⟩
      · refine .inl ⟨?_, ?_⟩
        · rcases howns with hown | ⟨rfl, -⟩
          · exact hown.le
          · exact absurd (hr.linked.self_mem_subtree hknown) hbelow
        · rcases htotals with htotal | ⟨hmem, -⟩
          · exact htotal.le
          · exact absurd hmem hbelow
  | lost change hpoint hheld hforest halike hchange hpoints =>
      rw [hforest] at hq
      have hbumpTotal := Forest.bump_le p.totalCount (-1)
      have hbumpOwn := Forest.bump_le p.ownCount (-1)
      refine .inl ⟨?_, ?_⟩
      · rcases hr.linked.ownCount_adjust hp hq with hown | ⟨-, hown⟩ <;> omega
      · rcases hr.linked.totalCount_adjust hp hq with htotal | ⟨-, htotal⟩ <;> omega

/-- A change keeps the ceilings if it reserves only where a descent leads. -/
theorem Change.capped (h : Change may r s) (hr : r.Sound)
    (hmay : ∀ leaf point, may r leaf point → ∃ pool mode, r.forest.Descent mode pool leaf)
    (hcapped : r.Capped) : s.Capped := by
  have hbefore : ∀ {id q}, s.forest.get? id = some q → ∃ p, r.forest.get? id = some p ∧
      p.minLimit = q.minLimit ∧ p.maxLimit = q.maxLimit ∧ p.isLeaf = q.isLeaf := by
    intro id q hq
    obtain ⟨p, hp, hfixed⟩ := Forest.Alike.find h.samePlan.forest.symm hq
    exact ⟨p, hp, (congrArg Pool.minLimit hfixed :), (congrArg Pool.maxLimit hfixed :),
      (congrArg Pool.isLeaf hfixed :)⟩
  constructor
  · intro id q hq hgroup hmax
    obtain ⟨p, hp, -, hlimit, hleaf⟩ := hbefore hq
    rw [← hleaf] at hgroup
    rw [← hlimit] at hmax ⊢
    have hle := hcapped.group hp hgroup hmax
    rcases h.counts_cases hr hp hq with ⟨-, htotal⟩ | ⟨leaf, x, hallowed, hbelow, htotal, -⟩
    · omega
    · obtain ⟨pool, mode, hdescent⟩ := hmay _ _ hallowed
      obtain ⟨l, hl, hisLeaf, hroom⟩ := hdescent.leaf_get
      -- the group is not the leaf itself, so it stands above the leaf
      have habove : id ∈ r.forest.ancestors leaf := by
        rcases (hr.linked.mem_subtree.mp hbelow).2 with rfl | habove
        · obtain rfl := Option.some.inj (hl.symm.trans hp)
          rw [hisLeaf] at hgroup
          cases hgroup
        · exact habove
      have hpos := Forest.maxRoom_pos_of_hasRoom hroom habove hp
      simp [Pool.maxRoom, Nat.ne_of_gt hmax] at hpos
      omega
  · intro id q hq hisLeaf
    obtain ⟨p, hp, hmin, hmax, hleaf⟩ := hbefore hq
    rw [← hleaf] at hisLeaf
    rw [← hmin, ← hmax]
    have hle := hcapped.leaf hp hisLeaf
    rcases h.counts_cases hr hp hq with ⟨hown, -⟩ | ⟨leaf, x, hallowed, -, -, hown | ⟨rfl, hown⟩⟩
    · omega
    · omega
    · obtain ⟨pool, mode, hdescent⟩ := hmay _ _ hallowed
      obtain ⟨l, hl, -, hroom⟩ := hdescent.leaf_get
      obtain rfl := Option.some.inj (hl.symm.trans hp)
      have hless := Forest.own_lt_limit_of_hasRoom hroom hp hisLeaf
      omega

/-- An operation that does not choose points itself reserves only where a descent leads. -/
theorem descent_of_mayReserve {op : Operation} (hop : op.isDirectSpawn = false) {leaf : PoolId}
    {point : PointId} (h : MayReserve op r leaf point) :
    ∃ pool mode, r.forest.Descent mode pool leaf := by
  have hany : AnyPopulated r leaf point → ∃ pool mode, r.forest.Descent mode pool leaf := by
    rintro ⟨pool, -, ⟨mode, hdescent⟩, -⟩
    exact ⟨pool, mode, hdescent⟩
  cases op with
  | spawnAt kind pool entry point => cases hop
  | spawnSingle pool mode =>
      obtain ⟨⟨mode, hdescent⟩, -⟩ := h
      exact ⟨pool, mode, hdescent⟩
  | _ => exact hany h

theorem Reachable.capped {rows : PoolRows}
    (hr : Reachable rows (fun op => op.isDirectSpawn = false) r) : r.Capped :=
  hr.keep_change (fun hfresh => hfresh.capped) (fun hop hsound hcapped hchange =>
    hchange.capped hsound (fun _ _ h => descent_of_mayReserve hop h) hcapped)

/-- Without direct spawns, every group with a maximum holds at most that many entities and
reservations in its whole subtree, whatever its minimum is. -/
theorem Reachable.total_le_max {rows : PoolRows}
    (hr : Reachable rows (fun op => op.isDirectSpawn = false) r) {id : PoolId} {p : Pool}
    (hp : r.forest.get? id = some p) (hgroup : p.children ≠ []) (hmax : 0 < p.maxLimit) :
    p.totalCount ≤ p.maxLimit := by
  have hleaf : p.isLeaf = false := by
    rw [Bool.eq_false_iff, Pool.isLeaf, ne_eq, List.isEmpty_iff]
    exact hgroup
  exact hr.capped.group hp hleaf hmax

/-- More is asked for in the small map than its group may hold. -/
theorem total_le_max_camp :
    ((camp.perform (.spawnPool ⟨1⟩ 4)).forest.get? ⟨1⟩).isSome = true ∧
      ∀ p, (camp.perform (.spawnPool ⟨1⟩ 4)).forest.get? ⟨1⟩ = some p →
        p.totalCount ≤ p.maxLimit := by
  refine ⟨by decide +kernel, ?_⟩
  intro p hp
  have hfilled : Reachable campRows (fun op => op.isDirectSpawn = false)
      (camp.perform (.spawnPool ⟨1⟩ 4)) := (reachable_camp _).step _ rfl
  have hlimits : ((camp.perform (.spawnPool ⟨1⟩ 4)).forest.get? ⟨1⟩).all
      (fun p => !p.children.isEmpty && decide (0 < p.maxLimit)) = true := by decide +kernel
  rw [hp, Option.all_some, Bool.and_eq_true, Bool.not_eq_true', List.isEmpty_eq_false_iff,
    decide_eq_true_eq] at hlimits
  exact Reachable.total_le_max hfilled hp hlimits.1 hlimits.2

/-- Without direct spawns, no leaf holds more than the greater one of its limits, so none holds more
than its maximum if that is not below its minimum. -/
theorem Reachable.own_le_limit {rows : PoolRows}
    (hr : Reachable rows (fun op => op.isDirectSpawn = false) r) {id : PoolId} {p : Pool}
    (hp : r.forest.get? id = some p) (hleaf : p.children = []) :
    p.ownCount ≤ max p.minLimit p.maxLimit ∧
      (p.minLimit ≤ p.maxLimit → p.ownCount ≤ p.maxLimit) := by
  have hle := hr.capped.leaf hp (List.isEmpty_iff.mpr hleaf)
  exact ⟨hle, by omega⟩

/-- One leaf of two points whose limits are crossed: at least two, and at most one. -/
def crossedRows : PoolRows where
  templates := [{ (default : TemplateRow) with pool := ⟨1⟩, minLimit := 2, maxLimit := 1 }]
  edges := []
  points := [⟨⟨1⟩, default, none⟩, ⟨⟨2⟩, default, none⟩]
  assignments := [⟨⟨1⟩, ⟨1⟩⟩, ⟨⟨1⟩, ⟨2⟩⟩]
  creatures := [⟨⟨1⟩, 7, .one, default⟩]
  gameObjects := []
  creaturePatches := []
  gameObjectPatches := []

/-- The registry of the leaf with crossed limits, before anything is spawned. -/
def crossed : Registry :=
  match load default crossedRows .fresh default with
  | .ok r => r
  | .error _ => .empty default .fresh default

theorem reachable_crossed (allowed : Operation → Prop) : Reachable crossedRows allowed crossed := by
  have h : load default crossedRows .fresh default = .ok crossed := rfl
  exact .loaded h

/-- With crossed limits a leaf is filled to its minimum and holds more than its maximum. -/
theorem own_le_limit_crossed :
    ((crossed.perform (.spawnPool ⟨1⟩ 2)).forest.get? ⟨1⟩).map (·.ownCount) = some 2 ∧
      ∀ p, (crossed.perform (.spawnPool ⟨1⟩ 2)).forest.get? ⟨1⟩ = some p →
        p.ownCount ≤ max p.minLimit p.maxLimit := by
  refine ⟨by decide +kernel, ?_⟩
  intro p hp
  have hspawned : Reachable crossedRows (fun op => op.isDirectSpawn = false)
      (crossed.perform (.spawnPool ⟨1⟩ 2)) := (reachable_crossed _).step _ rfl
  have hleaf : ((crossed.perform (.spawnPool ⟨1⟩ 2)).forest.get? ⟨1⟩).all
      (fun p => p.children.isEmpty) = true := by decide +kernel
  rw [hp, Option.all_some, List.isEmpty_iff] at hleaf
  exact (Reachable.own_le_limit hspawned hp hleaf).1

/-- A maximum below the minimum is not a ceiling: it is passed by spawns at the minimum. -/
theorem not_own_le_maxLimit :
    ¬∀ (rows : PoolRows) (r : Registry), Reachable rows (fun op => op.isDirectSpawn = false) r →
      ∀ id p, r.forest.get? id = some p → p.children = [] → p.ownCount ≤ p.maxLimit := by
  intro hclaim
  have hover : ((crossed.perform (.spawnPool ⟨1⟩ 2)).forest.get? ⟨1⟩).any
      (fun p => p.children.isEmpty && decide (p.maxLimit < p.ownCount)) = true := by decide +kernel
  obtain ⟨p, hp, hover⟩ := (Option.any_eq_true _ _).mp hover
  rw [Bool.and_eq_true, List.isEmpty_iff, decide_eq_true_eq] at hover
  have hle := hclaim crossedRows _ ((reachable_crossed _).step (.spawnPool ⟨1⟩ 2) rfl) ⟨1⟩ p hp
    hover.1
  exact absurd hover.2 (Nat.not_lt.mpr hle)

/-! ## The best distribution -/

/-- The room of a pool is the greatest total that can be given to the open leaves below it under
every limit of its subtree and above it, and no more than fits 32 bits. An unknown pool has none. -/
theorem Reachable.room_isGreatest {rows : PoolRows} (hr : Reachable rows (fun _ => True) r)
    (id : PoolId) :
    (∃ n, IsGreatest {t | ∃ a, r.forest.Feasible id a ∧ r.forest.load a id = t} n ∧
      r.forest.room id .maximum = min (2 ^ 32 - 1) n) ∧
    (r.forest.get? id = none → r.forest.room id .maximum = 0) := by
  have hlinked := hr.sound.linked
  refine ⟨hlinked.exists_isGreatest id, ?_⟩
  · intro hunknown
    simp [Forest.room_eq_min, Forest.capacity_of_unknown hunknown]

/-- The leaves of the small map could hold four, and no distribution gives them more than two. -/
theorem room_isGreatest_camp :
    IsGreatest {t | ∃ a, camp.forest.Feasible ⟨1⟩ a ∧ camp.forest.load a ⟨1⟩ = t} 2 := by
  obtain ⟨⟨n, hn, hroom⟩, -⟩ := Reachable.room_isGreatest (reachable_camp _) ⟨1⟩
  have htwo : camp.forest.room ⟨1⟩ .maximum = 2 := by decide +kernel
  obtain rfl : n = 2 := by omega
  exact hn

end SpawnForest.Registry
