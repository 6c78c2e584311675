import Mathlib.Algebra.BigOperators.Group.Finset.Basic
import SpawnForest.Proofs.Forest.Hierarchy
import SpawnForest.Proofs.Registry.Roots
import SpawnForest.Proofs.Registry.TimerWrites
import SpawnForest.Proofs.Timer.Pending
import SpawnForest.Proofs.Timer.Refilling

/-!
# The timers of a root

A timer repeats what its pool and its point say, and the questions about timers
do not all read the same part of it: a listing goes by the root, the room of a
pool by the pool, a scan by the grid or the zone. In a reachable registry the
parts agree with each other and with the registry (`Reachable.timers_true`). So
the timers of a root are those of the pools below it, and the roots share all
timers among themselves.
-/

namespace SpawnForest

namespace Forest

variable {f : Forest}

/-- The pools below a root are those that have it as their top. -/
theorem WellLinked.mem_subtree_root (hf : f.WellLinked) {root x : PoolId}
    (hroot : f.parent? root = none) :
    x ∈ f.subtree root ↔ f.contains x = true ∧ f.top x = root := by
  have htop : f.top root = root := top_of_top hroot
  constructor
  · intro hx
    have hknown : f.contains x = true := (hf.mem_subtree.mp hx).1
    refine ⟨hknown, ((hf.inHierarchy_iff hknown).mp ?_).trans htop⟩
    rwa [inHierarchy, htop, List.contains_iff_mem]
  · rintro ⟨hx, rfl⟩
    exact hf.mem_subtree_top hx

theorem Named.mem_roots (hf : f.Named) {root : PoolId} :
    root ∈ f.roots.map (·.id) ↔ f.contains root = true ∧ f.parent? root = none := by
  constructor
  · intro h
    obtain ⟨p, hp, rfl⟩ := List.mem_map.mp h
    obtain ⟨hmem, hroot⟩ := List.mem_filter.mp hp
    obtain ⟨id, hid⟩ := mem_all.mp hmem
    obtain rfl := hf hid
    exact ⟨contains_iff.mpr ⟨p, hid⟩,
      (parent?_of_get hid).trans (Option.isNone_iff_eq_none.mp hroot)⟩
  · rintro ⟨hknown, hroot⟩
    obtain ⟨p, hp⟩ := contains_iff.mp hknown
    refine List.mem_map.mpr ⟨p, List.mem_filter.mpr ⟨mem_all.mpr ⟨root, hp⟩, ?_⟩, hf hp⟩
    rw [parent?_of_get hp] at hroot
    exact Option.isNone_iff_eq_none.mpr hroot

theorem Named.roots_nodup (hf : f.Named) : (f.roots.map (·.id)).Nodup := by
  have hids : f.all.map (·.id) = f.pools.keys :=
    List.map_map.trans (List.map_congr_left (fun e he => hf (Table.mem_entries.mp he)))
  have hall : (f.all.map (·.id)).Nodup := hids ▸ f.pools.keys_nodup
  exact hall.sublist (List.filter_sublist.map _)

end Forest

/-- Elements that each have one of some different values are counted value by value. -/
theorem sum_countP_eq_length {α κ : Type} [DecidableEq κ] (value : α → κ) {values : List κ}
    (hvalues : values.Nodup) {l : List α} (hl : ∀ a ∈ l, value a ∈ values) :
    (values.map (fun k => l.countP (fun a => value a == k))).sum = l.length := by
  have hcount : ∀ k, l.countP (fun a => value a == k) = Multiset.count k (l.map value) := by
    intro k
    rw [Multiset.coe_count, List.count, List.countP_map]
    rfl
  have hin : ∀ k ∈ (l.map value : Multiset κ), k ∈ values.toFinset := by
    intro k hk
    obtain ⟨a, ha, rfl⟩ := List.mem_map.mp (Multiset.mem_coe.mp hk)
    exact List.mem_toFinset.mpr (hl a ha)
  rw [funext hcount, ← List.sum_toFinset _ hvalues, Multiset.sum_count_eq_card hin,
    Multiset.coe_card, List.length_map]

namespace Registry

variable {rows : PoolRows} {allowed : Operation → Prop} {r : Registry}

/-- What the timers of a registry say about its pools and points, and how they are counted. -/
structure TimersTrue (r : Registry) : Prop where
  genuine : ∀ t ∈ r.timers.all, ∃ q p,
    r.forest.get? t.pool = some q ∧ r.points.get? t.point = some p ∧ t.kind = q.kind ∧
      t.root = r.forest.top t.pool ∧ t.grid = p.grid ∧ t.zone = p.zone ∧ t.firstDue = t.due
  by_root : ∀ root ∈ r.rootPools,
    r.timers.pendingForRoot root = r.timers.pendingIn (r.forest.subtree root)
  shared : (r.rootPools.map r.timers.pendingForRoot).sum = r.timers.size

theorem Reachable.timers_true (hr : Reachable rows allowed r) : r.TimersTrue := by
  have hplanned := hr.sound.toPlanned
  have hgenuine : ∀ t ∈ r.timers.all, r.Genuine t := fun t ht =>
    hr.genuine (hr.coherent.mem_all.mp ht)
  have hknown : ∀ t ∈ r.timers.all, r.forest.contains t.pool = true ∧
      t.root = r.forest.top t.pool := by
    intro t ht
    obtain ⟨q, p, hq, -, hsame⟩ := hgenuine t ht
    have hroot : t.root = q.root := (congrArg Timer.root hsame :)
    exact ⟨Forest.contains_iff.mpr ⟨q, hq⟩, hroot.trans (hr.rooted _ q hq)⟩
  refine ⟨fun t ht => ?_, fun root hroot => ?_, ?_⟩
  · obtain ⟨q, p, hq, hp, hsame⟩ := hgenuine t ht
    exact ⟨q, p, hq, hp, (congrArg Timer.kind hsame :), (hknown t ht).2,
      (congrArg Timer.grid hsame :), (congrArg Timer.zone hsame :),
      (congrArg Timer.firstDue hsame :)⟩
  · obtain ⟨-, htop⟩ := (Forest.Named.mem_roots hplanned.named).mp hroot
    rw [Schedule.pendingForRoot, Schedule.forRoot, Schedule.pendingIn]
    refine congrArg List.length (List.filter_congr (fun t ht => ?_))
    obtain ⟨hpool, hsame⟩ := hknown t ht
    rw [Bool.eq_iff_iff, beq_iff_eq, List.contains_iff_mem, hplanned.linked.mem_subtree_root htop,
      hsame]
    exact (and_iff_right hpool).symm
  · have hroots : ∀ t ∈ r.timers.all, t.root ∈ r.rootPools := by
      intro t ht
      obtain ⟨hpool, hsame⟩ := hknown t ht
      rw [hsame]
      exact (Forest.Named.mem_roots hplanned.named).mpr
        ⟨Forest.contains_of_mem_subtree (hplanned.linked.mem_subtree_top hpool),
          hplanned.linked.parent?_top t.pool⟩
    rw [← Schedule.length_all,
      ← sum_countP_eq_length Timer.root (Forest.Named.roots_nodup hplanned.named) hroots]
    exact congrArg List.sum (List.map_congr_left (fun root _ => r.timers.pendingForRoot_eq root))

/-- One timer after a death, and one that is put back for a pool at a point it does not own. -/
def waitingCamp : Registry :=
  ((camp.perform .spawnAll).perform (.handleDeath ⟨0⟩ false)).perform (.restoreTimer ⟨3⟩ ⟨2⟩ ⟨40⟩)

theorem timers_true_camp :
    waitingCamp.TimersTrue ∧ waitingCamp.rootPools = [⟨1⟩] ∧ waitingCamp.timers.size = 2 ∧
      waitingCamp.timers.pendingForRoot ⟨1⟩ = 2 :=
  have hreachable : Reachable campRows (fun _ => True) waitingCamp :=
    (((reachable_camp _).step .spawnAll trivial).step _ trivial).step _ trivial
  ⟨Reachable.timers_true hreachable, by decide +kernel⟩

end Registry

end SpawnForest
