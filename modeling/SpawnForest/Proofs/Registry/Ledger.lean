import Mathlib.Algebra.BigOperators.Group.List.Basic
import Mathlib.Data.List.Count
import Mathlib.Data.List.Dedup
import SpawnForest.Proofs.Registry.Soundness

/-!
# The ledger of counts

No count is ever computed anew: each reservation adds one on its way up the
forest, and each release takes one away. Here the counts are compared with what
they stand for, the reservations on the points (`Balanced`). A change that moves
no reservation moves no count; a reservation that comes or goes moves the
counts of the pools that it lies below, and these only.

A step of a count that would leave 32 bits is dropped without a word. In a
balanced registry there is none: a count that goes up is below the number of
points, and a count that goes down has the reservation that goes to stand for
(`Forest.Counts`).
-/

namespace SpawnForest

/-- How many points are reserved by some of these pools. -/
def heldIn (points : Table PointId SpawnPoint) (pools : List PoolId) : Nat :=
  points.values.countP (·.isHeldBy pools)

/-- What a pool itself has spawned, nothing if it is unknown. -/
def Forest.ownCount (f : Forest) (id : PoolId) : Nat := ((f.get? id).map (·.ownCount)).getD 0

/-! ## Counting reservations -/

section

variable {points points' : Table PointId SpawnPoint}

theorem heldIn_le_size (points : Table PointId SpawnPoint) (pools : List PoolId) :
    heldIn points pools ≤ points.size := by
  have hle := List.countP_le_length (p := fun x : SpawnPoint => x.isHeldBy pools)
    (l := points.values)
  rwa [Table.values, List.length_map] at hle

theorem heldIn_of_alike (h : points.Alike (·.reservation) points') (pools : List PoolId) :
    heldIn points pools = heldIn points' pools := by
  have hview : (fun p : SpawnPoint => p.isHeldBy pools)
      = fun p => p.reservation.any (fun held => pools.contains held.pool) := by
    funext p
    unfold SpawnPoint.isHeldBy
    cases p.reservation <;> rfl
  rw [heldIn, heldIn, hview]
  exact h.countP (fun held => held.any (fun r => pools.contains r.pool))

theorem isHeldBy_of_free {p : SpawnPoint} (h : p.reservation = none) (pools : List PoolId) :
    p.isHeldBy pools = false := by
  rw [SpawnPoint.isHeldBy, h]

theorem isHeldBy_of_held {p : SpawnPoint} {held : Reservation} (h : p.reservation = some held)
    (pools : List PoolId) : p.isHeldBy pools = pools.contains held.pool := by
  rw [SpawnPoint.isHeldBy, h]

theorem toNat_contains (x : PoolId) (pools : List PoolId) :
    (pools.contains x).toNat = if x ∈ pools then 1 else 0 := by
  rw [List.contains_eq_mem]
  by_cases h : x ∈ pools <;> simp [h]

/-- A reservation that comes is counted in the pools that hold it. -/
theorem heldIn_gain {x : PointId} {p : SpawnPoint} (hp : points.get? x = some p)
    (hfree : p.reservation = none) (held : Reservation) (pools : List PoolId) :
    (heldIn (points.modify x (·.reserve held)) pools : Int)
      = heldIn points pools + if held.pool ∈ pools then 1 else 0 := by
  have hcount : heldIn (points.modify x (·.reserve held)) pools + (p.isHeldBy pools).toNat
      = heldIn points pools + (pools.contains held.pool).toNat :=
    Table.countP_modify hp (·.reserve held) (·.isHeldBy pools)
  rw [isHeldBy_of_free hfree, Bool.toNat_false, toNat_contains] at hcount
  by_cases hmem : held.pool ∈ pools
  · rw [if_pos hmem] at hcount ⊢
    omega
  · rw [if_neg hmem] at hcount ⊢
    omega

theorem heldIn_release {x : PointId} {p : SpawnPoint} {held : Reservation}
    (halike : points.Alike (·.reservation) points') (hp : points.get? x = some p)
    (hheld : p.reservation = some held) {change : SpawnPoint → SpawnPoint}
    (hchange : ∀ q, (change q).reservation = none) (pools : List PoolId) :
    (heldIn (points'.modify x change) pools + if held.pool ∈ pools then 1 else 0)
      = heldIn points pools := by
  obtain ⟨q, hq, hsame⟩ := halike.find hp
  have hcount := Table.countP_modify hq change (·.isHeldBy pools)
  rw [isHeldBy_of_free (hchange q), isHeldBy_of_held (hsame.trans hheld)] at hcount
  rw [heldIn_of_alike halike, ← toNat_contains]
  exact hcount

/-- A reservation that goes is counted off in the pools that held it. -/
theorem heldIn_lose {x : PointId} {p : SpawnPoint} {held : Reservation}
    (halike : points.Alike (·.reservation) points') (hp : points.get? x = some p)
    (hheld : p.reservation = some held) {change : SpawnPoint → SpawnPoint}
    (hchange : ∀ q, (change q).reservation = none) (pools : List PoolId) :
    (heldIn (points'.modify x change) pools : Int)
      = heldIn points pools + if held.pool ∈ pools then -1 else 0 := by
  have hcount := heldIn_release halike hp hheld hchange pools
  by_cases hmem : held.pool ∈ pools
  · rw [if_pos hmem] at hcount ⊢
    omega
  · rw [if_neg hmem] at hcount ⊢
    omega

theorem countP_eq_sum {α : Type} (q : α → Bool) (l : List α) :
    l.countP q = (l.map (fun a => (q a).toNat)).sum := by
  induction l with
  | nil => rfl
  | cons a l ih =>
      rw [List.countP_cons, List.map_cons, List.sum_cons, ih]
      cases q a <;> simp [Nat.add_comm]

theorem isHeldBy_cons {x : PoolId} {pools : List PoolId} (hnew : x ∉ pools) (p : SpawnPoint) :
    (p.isHeldBy (x :: pools)).toNat = (p.isHeldBy [x]).toNat + (p.isHeldBy pools).toNat := by
  cases hheld : p.reservation with
  | none => simp only [isHeldBy_of_free hheld, Bool.toNat_false]
  | some held =>
      simp only [isHeldBy_of_held hheld, List.contains_cons, List.contains_nil]
      by_cases hx : held.pool = x
      · rw [hx, beq_self_eq_true, List.contains_eq_mem, decide_eq_false hnew]
        rfl
      · rw [beq_eq_false_iff_ne.mpr hx]
        simp

/-- What several pools hold is what each of them holds, added up. -/
theorem heldIn_eq_sum (points : Table PointId SpawnPoint) {pools : List PoolId}
    (h : pools.Nodup) : heldIn points pools = (pools.map (fun x => heldIn points [x])).sum := by
  induction pools with
  | nil =>
      refine List.countP_eq_zero.mpr ?_
      intro p _
      unfold SpawnPoint.isHeldBy
      split <;> exact Bool.false_ne_true
  | cons x pools ih =>
      obtain ⟨hnew, hrest⟩ := List.nodup_cons.mp h
      rw [List.map_cons, List.sum_cons, ← ih hrest]
      simp only [heldIn, countP_eq_sum, isHeldBy_cons hnew]
      exact List.sum_map_add

end

/-! ## Balanced registries -/

namespace Registry

variable {may : Registry → PoolId → PointId → Prop} {r s : Registry}

/-- A sound registry whose counts are those of its reservations. -/
structure Balanced (r : Registry) : Prop extends Sound r where
  own : ∀ {id p}, r.forest.get? id = some p → p.ownCount = heldIn r.points [id]
  total : ∀ {id p}, r.forest.get? id = some p →
    p.totalCount = heldIn r.points (r.forest.subtree id)
  small : r.points.size < 2 ^ 32

theorem Fresh.balanced (hr : r.Fresh) (hsmall : r.points.size < 2 ^ 32) : r.Balanced := by
  have hnone : ∀ pools, heldIn r.points pools = 0 := by
    intro pools
    refine List.countP_eq_zero.mpr ?_
    intro p hp
    obtain ⟨x, hx⟩ := Table.mem_values.mp hp
    rw [isHeldBy_of_free (hr.vacant hx).1]
    exact Bool.false_ne_true
  refine ⟨hr.sound, fun hp => ?_, fun hp => ?_, hsmall⟩
  · rw [hnone]
    exact (hr.counts hp).1
  · rw [hnone]
    exact (hr.counts hp).2

/-! ## Full steps -/

/-- As long as a point is free every count may go up. -/
theorem Balanced.counts_up (hr : r.Balanced) {x : PointId} {p : SpawnPoint}
    (hp : r.points.get? x = some p) (hfree : p.reservation = none) (pool : PoolId) :
    r.forest.Counts pool 1 := by
  have hlt : ∀ pools, heldIn r.points pools + 1 < 2 ^ 32 := by
    intro pools
    have hbelow : heldIn r.points pools < r.points.values.length :=
      List.countP_lt_length_iff.mpr
        ⟨p, Table.mem_values.mpr ⟨x, hp⟩, isHeldBy_of_free hfree pools⟩
    have hsmall := hr.small
    rw [Table.values, List.length_map] at hbelow
    unfold Table.size at hsmall
    omega
  intro key hkey q hq
  rw [hr.own hq, hr.total hq, Forest.bump_one (hlt _), Forest.bump_one (hlt _)]
  exact ⟨rfl, fun _ => rfl⟩

/-- A reservation is counted all the way up, so every count there may go down. -/
theorem Balanced.counts_down (hr : r.Balanced) {x : PointId} {p : SpawnPoint} {held : Reservation}
    (hp : r.points.get? x = some p) (hheld : p.reservation = some held) :
    r.forest.Counts held.pool (-1) := by
  obtain ⟨c, -, hc, -⟩ := hr.candidate_of_held hp hheld
  have hknown := Forest.contains_iff.mpr ⟨c, hc⟩
  have hbump : ∀ pools, held.pool ∈ pools →
      (Forest.bump (heldIn r.points pools) (-1) : Int) = heldIn r.points pools + -1 := by
    intro pools hmem
    have hpos : 0 < heldIn r.points pools := by
      refine List.countP_pos_iff.mpr ⟨p, Table.mem_values.mpr ⟨x, hp⟩, ?_⟩
      rw [isHeldBy_of_held hheld]
      exact List.contains_iff_mem.mpr hmem
    have hle := heldIn_le_size r.points pools
    have hsmall := hr.small
    rw [Forest.bump_neg_one (by omega)]
    omega
  intro key hkey q hq
  rw [hr.own hq, hr.total hq]
  refine ⟨hbump _ ((hr.linked.mem_path_iff hknown).mp hkey), fun hself => hbump _ ?_⟩
  rw [hself]
  exact List.mem_singleton.mpr rfl

/-! ## Each change -/

/-- A change that moves neither counts nor reservations. -/
theorem Balanced.of_alike (hr : r.Balanced) (hplan : SamePlan r s) (hsound : s.Sound)
    (hcounts : Forest.Alike (fun p => (p.ownCount, p.totalCount)) r.forest s.forest)
    (hpoints : r.points.Alike (·.reservation) s.points) : s.Balanced := by
  have hlinks : Forest.Alike Pool.links r.forest s.forest := hplan.forest.through Pool.links
  refine ⟨hsound, fun hq => ?_, fun hq => ?_, ?_⟩
  · obtain ⟨p, hp, hsame⟩ := Forest.Alike.find hcounts.symm hq
    rw [← (Prod.mk.inj hsame).1, hr.own hp, heldIn_of_alike hpoints]
  · obtain ⟨p, hp, hsame⟩ := Forest.Alike.find hcounts.symm hq
    rw [← (Prod.mk.inj hsame).2, hr.total hp, heldIn_of_alike hpoints, hlinks.subtree]
  · rw [← hpoints.size]
    exact hr.small

/-- A count that moves, or not, as what it counts moves. -/
theorem bump_eq {before after : Nat} {delta : Int} {moved : Prop} [Decidable moved]
    (hafter : (after : Int) = before + if moved then delta else 0)
    (hbump : moved → (Forest.bump before delta : Int) = before + delta) :
    (if moved then Forest.bump before delta else before) = after := by
  by_cases hmoved : moved
  · have hstep := hbump hmoved
    rw [if_pos hmoved] at hafter ⊢
    omega
  · rw [if_neg hmoved] at hafter ⊢
    omega

/-- The counts after one reservation came or went. -/
theorem Balanced.of_adjust (hr : r.Balanced) (hplan : SamePlan r s) (hsound : s.Sound)
    {pool : PoolId} {delta : Int} (hknown : r.forest.contains pool = true)
    (hforest : s.forest = r.forest.adjust pool delta false) (hcounts : r.forest.Counts pool delta)
    (hheld : ∀ pools, (heldIn s.points pools : Int)
      = heldIn r.points pools + if pool ∈ pools then delta else 0) : s.Balanced := by
  have hlinks : Forest.Alike Pool.links r.forest s.forest := hplan.forest.through Pool.links
  have hpools : ∀ {id q}, s.forest.get? id = some q →
      ∃ p, r.forest.get? id = some p ∧ q = r.forest.recount pool delta id p := by
    intro id q hq
    rw [hforest] at hq
    exact hr.linked.find_adjust hknown hq
  refine ⟨hsound, ?_, ?_, ?_⟩
  · intro id q hq
    obtain ⟨p, hp, rfl⟩ := hpools hq
    have hafter := hheld [id]
    rw [← hr.own hp] at hafter
    simp only [List.mem_singleton, eq_comm (a := pool)] at hafter
    refine bump_eq hafter ?_
    intro hid
    exact (hcounts id (hid ▸ List.mem_cons_self) p hp).2 hid
  · intro id q hq
    obtain ⟨p, hp, rfl⟩ := hpools hq
    have hafter := hheld (r.forest.subtree id)
    rw [← hr.total hp] at hafter
    rw [← hlinks.subtree]
    refine bump_eq hafter ?_
    intro hbelow
    exact (hcounts id ((hr.linked.mem_path_iff hknown).mpr hbelow) p hp).1
  · rw [← hplan.points.size]
    exact hr.small

/-- A reservation goes, together with whatever else goes from its point. -/
theorem Balanced.lose (hr : r.Balanced) (hplan : SamePlan r s) (hsound : s.Sound) {x : PointId}
    {p : SpawnPoint} {held : Reservation} (hp : r.points.get? x = some p)
    (hheld : p.reservation = some held) (hforest : s.forest = r.forest.lose held.pool)
    {points : Table PointId SpawnPoint} (halike : r.points.Alike (·.reservation) points)
    {change : SpawnPoint → SpawnPoint} (hchange : ∀ q, (change q).reservation = none)
    (hpoints : s.points = points.modify x change) : s.Balanced := by
  obtain ⟨c, -, hc, -⟩ := hr.candidate_of_held hp hheld
  refine hr.of_adjust hplan hsound (Forest.contains_iff.mpr ⟨c, hc⟩) hforest
    (hr.counts_down hp hheld) ?_
  intro pools
  rw [hpoints]
  exact heldIn_lose halike hp hheld hchange pools

theorem Change.balanced (h : Change may r s) (hr : r.Balanced) : s.Balanced := by
  have hplan := h.samePlan
  have hsound := h.sound hr.toSound
  cases h.tally hr.toSound with
  | kept hcounts hpoints => exact hr.of_alike hplan hsound hcounts hpoints
  | gained hp hfree hmay hknown hforest hpoints =>
      refine hr.of_adjust hplan hsound hknown hforest (hr.counts_up hp hfree _) ?_
      intro pools
      rw [hpoints]
      exact heldIn_gain hp hfree _ pools
  | lost change hp hheld hforest halike hchange hpoints =>
      exact hr.lose hplan hsound hp hheld hforest halike hchange hpoints

/-- What is drawn has no say in the counts. -/
theorem Balanced.drawn (hr : r.Balanced) (g : Pcg) : Balanced { r with random := g } :=
  (Change.draw r g : Change (fun _ _ _ => True) r _).balanced hr

theorem Steps.balanced (h : Steps may r s) (hr : r.Balanced) : s.Balanced :=
  h.keep (fun change hr => change.balanced hr) hr

/-! ## Reachable registries -/

/-- A reachable registry has as many points as its rows name. -/
theorem Reachable.size_points {rows : PoolRows} {allowed : Operation → Prop}
    (hr : Reachable rows allowed r) :
    r.points.size = ((rows.points.map (·.point)).dedup).length := by
  have hperm : r.points.keys.Perm (rows.points.map (·.point)).dedup := by
    refine (List.perm_ext_iff_of_nodup r.points.keys_nodup (List.nodup_dedup _)).mpr ?_
    intro x
    rw [Table.mem_keys, List.mem_dedup]
    exact hr.contains_point x
  rw [← hperm.length_eq, Table.keys, List.length_map]
  rfl

theorem Reachable.balanced {rows : PoolRows} {allowed : Operation → Prop}
    (hsmall : ((rows.points.map (·.point)).dedup).length < 2 ^ 32)
    (hr : Reachable rows allowed r) : r.Balanced :=
  hr.keep (fun hloaded hfresh => hfresh.balanced (hloaded.size_points ▸ hsmall))
    (fun _ _ hbalanced hsteps => hsteps.balanced hbalanced)

theorem Balanced.own_of_group (hr : r.Balanced) {id : PoolId} {p : Pool}
    (hp : r.forest.get? id = some p) (hgroup : p.children ≠ []) : p.ownCount = 0 := by
  rw [hr.own hp]
  refine List.countP_eq_zero.mpr ?_
  intro x hx
  obtain ⟨key, hkey⟩ := Table.mem_values.mp hx
  intro hheldBy
  cases hheld : x.reservation with
  | none =>
      rw [isHeldBy_of_free hheld] at hheldBy
      cases hheldBy
  | some held =>
      rw [isHeldBy_of_held hheld, List.contains_iff_mem, List.mem_singleton] at hheldBy
      obtain ⟨q, c, hq, hc⟩ := hr.candidate_of_held hkey hheld
      rw [hheldBy, hp] at hq
      obtain rfl := Option.some.inj hq
      exact hgroup (List.isEmpty_iff.mp (hr.leaf_of_candidate hp hc))

theorem Balanced.total_eq_sum (hr : r.Balanced) {id : PoolId} {p : Pool}
    (hp : r.forest.get? id = some p) :
    p.totalCount = ((r.forest.subtree id).map r.forest.ownCount).sum := by
  rw [hr.total hp, heldIn_eq_sum _ (hr.linked.nodup_subtree id)]
  congr 1
  refine List.map_congr_left ?_
  intro x hx
  obtain ⟨q, hq⟩ := Forest.contains_iff.mp (hr.linked.mem_subtree.mp hx).1
  simp [Forest.ownCount, hq, hr.own hq]

/-- The ledger of counts. Every pool counts for itself the points that are reserved for it, so that
a group counts none, and in total what its subtree counts. On the way through any further operation
no step of a count is ever dropped: neither the one up at a free point nor the one down at a
reserved point. -/
theorem Reachable.ledger {rows : PoolRows}
    (hsmall : ((rows.points.map (·.point)).dedup).length < 2 ^ 32)
    (hr : Reachable rows (fun _ => True) r) :
    (∀ id p, r.forest.get? id = some p →
      p.ownCount = r.points.values.countP
        (fun x => decide (x.reservation.map (·.pool) = some id)) ∧
      (p.children ≠ [] → p.ownCount = 0) ∧
      p.totalCount = ((r.forest.subtree id).map r.forest.ownCount).sum) ∧
    ∀ op s, Steps (MayReserve op) r s → ∀ x q, s.points.get? x = some q →
      (q.reservation = none → ∀ pool, s.forest.Counts pool 1) ∧
      ∀ held, q.reservation = some held → s.forest.Counts held.pool (-1) := by
  have hbalanced := hr.balanced hsmall
  refine ⟨fun id p hp => ⟨?_, hbalanced.own_of_group hp, hbalanced.total_eq_sum hp⟩, ?_⟩
  · rw [hbalanced.own hp, heldIn]
    refine List.countP_congr ?_
    intro x _
    cases hheld : x.reservation with
    | none => simp [isHeldBy_of_free hheld]
    | some held => simp [isHeldBy_of_held hheld]
  · intro op s hsteps x q hq
    have hs := hsteps.balanced hbalanced
    exact ⟨fun hfree pool => hs.counts_up hq hfree pool, fun held hheld => hs.counts_down hq hheld⟩

/-- The group of the small map, once it is full, counts what its leaves count. -/
theorem ledger_camp :
    ((camp.perform (.spawnPool ⟨1⟩ 0)).forest.get? ⟨1⟩).map (·.totalCount) = some 2 ∧
      ∀ p, (camp.perform (.spawnPool ⟨1⟩ 0)).forest.get? ⟨1⟩ = some p →
        p.totalCount = (((camp.perform (.spawnPool ⟨1⟩ 0)).forest.subtree ⟨1⟩).map
          (camp.perform (.spawnPool ⟨1⟩ 0)).forest.ownCount).sum := by
  refine ⟨by decide +kernel, ?_⟩
  intro p hp
  have hfilled : Reachable campRows (fun _ => True) (camp.perform (.spawnPool ⟨1⟩ 0)) :=
    (reachable_camp _).step _ trivial
  exact ((Reachable.ledger (by decide) hfilled).1 _ p hp).2.2

end Registry

end SpawnForest
