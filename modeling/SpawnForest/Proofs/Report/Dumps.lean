import Mathlib.Data.List.Forall2
import SpawnForest.Proofs.Registry.Ledger
import SpawnForest.Report.Basic

/-!
# Dumps of pools

Four walks find the same population: the dump goes down from child to child,
`subtree` lists the pools below a pool, `occupiedPoints` scans the points, and
the counts were kept up step by step. The first two follow the same links, so
the dumps in a dump are those of the pools of the subtree, one by one
(`forall₂_parts`). Each of them lists the points of its own pool, and since a
subtree names no pool twice, the lists together are what one scan for the whole
subtree finds. The ledger ties the counts to that scan.
-/

namespace SpawnForest

/-! ## The dumps in a dump -/

namespace PoolDump

mutual

/-- A dump and the dumps below it, in the order of their lines. -/
def parts : PoolDump → List PoolDump
  | node entry children => node entry children :: partsOf children

def partsOf : List PoolDump → List PoolDump
  | [] => []
  | d :: rest => parts d ++ partsOf rest

end

def pools (d : PoolDump) : List PoolId := d.parts.map (·.entry.pool)

/-- The occupied points of all pools in a dump. -/
def occupied (d : PoolDump) : List OccupiedPoint := d.parts.flatMap (·.entry.occupied)

theorem partsOf_eq (ds : List PoolDump) : partsOf ds = ds.flatMap parts := by
  induction ds with
  | nil => rfl
  | cons d rest ih => rw [partsOf, ih, List.flatMap_cons]

mutual

theorem count_eq : (d : PoolDump) → d.count = d.parts.length
  | node _ children => by
      rw [count, parts, List.length_cons, countAll_eq children, Nat.add_comm]

theorem countAll_eq : (ds : List PoolDump) → countAll ds = (partsOf ds).length
  | [] => rfl
  | d :: rest => by
      rw [countAll, partsOf, List.length_append, count_eq d, countAll_eq rest]

end

end PoolDump

/-! ## Dumping children -/

/-- Answers come one for each question, or there are none at all. -/
theorem mapM_eq_ok_iff {ε α β : Type} {f : α → Except ε β} {l : List α} {bs : List β} :
    l.mapM f = .ok bs ↔ List.Forall₂ (fun a b => f a = .ok b) l bs := by
  induction l generalizing bs with
  | nil =>
      rw [List.mapM_nil, List.forall₂_nil_left_iff]
      exact ⟨fun h => (Except.ok.inj h).symm, fun h => h ▸ rfl⟩
  | cons a l ih =>
      rw [List.mapM_cons, List.forall₂_cons_left_iff]
      cases ha : f a with
      | error e =>
          refine ⟨nofun, ?_⟩
          rintro ⟨b, _, hb, -⟩
          cases hb
      | ok b =>
          cases hl : l.mapM f with
          | error e =>
              refine ⟨nofun, ?_⟩
              rintro ⟨_, cs, -, hcs, -⟩
              rw [ih.mpr hcs] at hl
              cases hl
          | ok cs =>
              constructor
              · intro h
                exact ⟨b, cs, rfl, ih.mp hl, (Except.ok.inj h).symm⟩
              · rintro ⟨_, _, hb, hcs, rfl⟩
                obtain rfl := Except.ok.inj hb
                rw [← ih, hl] at hcs
                obtain rfl := Except.ok.inj hcs
                rfl

theorem exists_forall₂ {α β : Type} {R : α → β → Prop} {l : List α}
    (h : ∀ a ∈ l, ∃ b, R a b) : ∃ bs, List.Forall₂ R l bs := by
  induction l with
  | nil => exact ⟨[], .nil⟩
  | cons a l ih =>
      obtain ⟨b, hb⟩ := h a List.mem_cons_self
      obtain ⟨bs, hbs⟩ := ih (fun c hc => h c (List.mem_cons_of_mem _ hc))
      exact ⟨b :: bs, .cons hb hbs⟩

theorem exists_of_mem_forall₂ {α β : Type} {R : α → β → Prop} {l : List α} {bs : List β}
    (h : List.Forall₂ R l bs) {b : β} (hb : b ∈ bs) : ∃ a ∈ l, R a b := by
  induction h with
  | nil => cases hb
  | cons hab _ ih =>
      rcases List.mem_cons.mp hb with rfl | hb
      · exact ⟨_, List.mem_cons_self, hab⟩
      · obtain ⟨a, ha, h⟩ := ih hb
        exact ⟨a, List.mem_cons_of_mem _ ha, h⟩

theorem map_eq_of_forall₂ {α β γ : Type} {R : α → β → Prop} {f : α → γ} {g : β → γ}
    (hfg : ∀ a b, R a b → f a = g b) {l : List α} {bs : List β} (h : List.Forall₂ R l bs) :
    l.map f = bs.map g := by
  have hmapped : List.Forall₂ (· = ·) (l.map f) (bs.map g) := List.rel_map hfg h
  rwa [List.forall₂_eq_eq_eq] at hmapped

namespace Registry

variable {r : Registry}

/-- The dump of a pool from what dumping its children came to. -/
def dumpOver (r : Registry) (id : PoolId) (below : List (Except PoolError PoolDump)) :
    Except PoolError PoolDump := do
  let pool ← r.requirePool id
  let children ← below.mapM fun answer => answer
  return .node (r.dumpEntry pool) children

/-- A dump without its bound. -/
theorem dumpPool_eq (hf : r.forest.WellLinked) (id : PoolId) :
    r.dumpPool id = r.dumpOver id ((r.forest.children id).map r.dumpPool) := by
  have hwalk : ∀ bound id, r.dumpBelow (bound + 1) id =
      r.dumpOver id ((r.forest.children id).map (r.dumpBelow bound)) := by
    intro bound id
    rw [dumpBelow, dumpOver, List.mapM_map, requirePool, Forest.children]
    cases r.forest.get? id <;> rfl
  exact hf.walk_unfold r.dumpOver hwalk id

theorem dumpPool_of_get? (hf : r.forest.WellLinked) {id : PoolId} {p : Pool}
    (hp : r.forest.get? id = some p) :
    r.dumpPool id = (p.children.mapM r.dumpPool).map (PoolDump.node (r.dumpEntry p)) := by
  rw [dumpPool_eq hf, dumpOver, List.mapM_map, requirePool, Forest.children, hp]
  change (p.children.mapM r.dumpPool >>= fun ds => .ok (PoolDump.node (r.dumpEntry p) ds)) = _
  cases p.children.mapM r.dumpPool <;> rfl

/-- Every dump is the entry of a pool over the dumps of its children. -/
theorem exists_of_dumpPool (hf : r.forest.WellLinked) {id : PoolId} {d : PoolDump}
    (h : r.dumpPool id = .ok d) : ∃ p ds, r.forest.get? id = some p ∧
      List.Forall₂ (fun c d => r.dumpPool c = .ok d) p.children ds ∧
      d = .node (r.dumpEntry p) ds := by
  cases hp : r.forest.get? id with
  | none =>
      rw [dumpPool_eq hf, dumpOver, requirePool, hp] at h
      cases h
  | some p =>
      rw [dumpPool_of_get? hf hp] at h
      cases hds : p.children.mapM r.dumpPool with
      | error e => rw [hds] at h; cases h
      | ok ds =>
          rw [hds] at h
          exact ⟨p, ds, rfl, mapM_eq_ok_iff.mp hds, (Except.ok.inj h).symm⟩

/-- Every pool has a dump. -/
theorem exists_dumpPool (hf : r.forest.WellLinked) {id : PoolId}
    (hid : r.forest.contains id = true) : ∃ d, r.dumpPool id = .ok d := by
  induction id using hf.down_induction with
  | step id ih =>
      obtain ⟨p, hp⟩ := Forest.contains_iff.mp hid
      have hchildren := Forest.children_of_get hp
      obtain ⟨ds, hds⟩ := exists_forall₂ (R := fun c d => r.dumpPool c = .ok d) (l := p.children)
        (fun c hc => by
          rw [← hchildren] at hc
          exact ih c hc (hf.contains_child hc))
      exact ⟨_, by rw [dumpPool_of_get? hf hp, mapM_eq_ok_iff.mpr hds]; rfl⟩

/-- The dumps in the dump of a pool are those of the pools of its subtree, in the same order. -/
theorem forall₂_parts (hf : r.forest.WellLinked) {id : PoolId} {d : PoolDump}
    (h : r.dumpPool id = .ok d) :
    List.Forall₂ (fun x e => r.dumpPool x = .ok e) (r.forest.subtree id) d.parts := by
  induction id using hf.down_induction generalizing d with
  | step id ih =>
      obtain ⟨p, ds, hp, hds, rfl⟩ := exists_of_dumpPool hf h
      have hchildren := Forest.children_of_get hp
      rw [hf.subtree_eq (Forest.contains_iff.mpr ⟨p, hp⟩), hchildren, PoolDump.parts,
        PoolDump.partsOf_eq]
      refine .cons h ?_
      have hbelow := (List.forall₂_and_left _ _).mpr
        ⟨fun c hc => @ih c (by rw [hchildren]; exact hc), hds⟩
      exact List.rel_flatMap hbelow (fun _ _ hc => hc.1 hc.2)

/-! ## Points of a dump -/

/-- What a dump says of a point. -/
def occupant? (p : SpawnPoint) : Option OccupiedPoint :=
  p.reservation.map fun held => ⟨p.id, held.entry, p.entity.map (·.serial)⟩

/-- The reserved points of some pools, found in one scan. -/
def occupants (r : Registry) (pools : List PoolId) : List OccupiedPoint :=
  (r.points.values.filter (·.isHeldBy pools)).filterMap occupant?

theorem exists_of_mem_occupants {pools : List PoolId} {o : OccupiedPoint}
    (h : o ∈ r.occupants pools) : ∃ p ∈ r.points.values, ∃ held, p.reservation = some held ∧
      o = ⟨p.id, held.entry, p.entity.map (·.serial)⟩ := by
  obtain ⟨p, hp, ho⟩ := List.mem_filterMap.mp h
  obtain ⟨held, hheld, rfl⟩ := Option.map_eq_some_iff.mp ho
  exact ⟨p, (List.mem_filter.mp hp).1, held, hheld, rfl⟩

theorem length_occupants (r : Registry) (pools : List PoolId) :
    (r.occupants pools).length = heldIn r.points pools := by
  rw [occupants, heldIn, List.countP_eq_length_filter, List.length_filterMap_eq_countP,
    List.countP_eq_length]
  intro p hp
  cases hheld : p.reservation with
  | none =>
      rw [List.mem_filter, isHeldBy_of_free hheld] at hp
      exact absurd hp.2 Bool.false_ne_true
  | some held => rw [occupant?, hheld]; rfl

/-- The points of the first of several pools, and those of the others. -/
theorem isHeldBy_split {x : PoolId} {pools : List PoolId} (hnew : x ∉ pools) (p : SpawnPoint) :
    (p.isHeldBy [x] && p.isHeldBy (x :: pools)) = p.isHeldBy [x] ∧
      (!p.isHeldBy [x] && p.isHeldBy (x :: pools)) = p.isHeldBy pools := by
  have hcons := isHeldBy_cons hnew p
  revert hcons
  generalize p.isHeldBy (x :: pools) = all, p.isHeldBy [x] = first, p.isHeldBy pools = others
  revert all first others
  decide

/-- One scan for several pools finds what the scans for each of them find. -/
theorem filter_isHeldBy_perm {pools : List PoolId} (h : pools.Nodup) (l : List SpawnPoint) :
    (pools.flatMap fun x => l.filter (·.isHeldBy [x])).Perm (l.filter (·.isHeldBy pools)) := by
  induction pools with
  | nil =>
      rw [List.flatMap_nil, List.filter_eq_nil_iff.mpr]
      rintro p - hheldBy
      obtain ⟨held, -, hmem⟩ := isHeldBy_iff.mp hheldBy
      cases hmem
  | cons x pools ih =>
      obtain ⟨hnew, hrest⟩ := List.nodup_cons.mp h
      -- the scan for all is put in order: the points of the first pool, then the others
      have hsplit := List.filter_append_perm (·.isHeldBy [x]) (l.filter (·.isHeldBy (x :: pools)))
      simp only [List.filter_filter, (isHeldBy_split hnew _).1, (isHeldBy_split hnew _).2] at hsplit
      rw [List.flatMap_cons]
      exact ((ih hrest).append_left _).trans hsplit

theorem occupants_perm (r : Registry) {pools : List PoolId} (h : pools.Nodup) :
    (pools.flatMap fun x => r.occupants [x]).Perm (r.occupants pools) := by
  have hperm := (filter_isHeldBy_perm h r.points.values).filterMap occupant?
  rwa [List.filterMap_flatMap] at hperm

/-- The lists of a dump together are what one scan for the subtree finds. -/
theorem Planned.occupied_perm (hr : r.Planned) {id : PoolId} {d : PoolDump}
    (h : r.dumpPool id = .ok d) : d.occupied.Perm (r.occupants (r.forest.subtree id)) := by
  have hentry : ∀ x e, r.dumpPool x = .ok e → r.occupants [x] = e.entry.occupied := by
    intro x e he
    obtain ⟨p, ds, hp, -, rfl⟩ := exists_of_dumpPool hr.linked he
    rw [← hr.named hp]
    rfl
  have hlists := map_eq_of_forall₂ hentry (forall₂_parts hr.linked h)
  rw [PoolDump.occupied, List.flatMap_def, ← hlists, ← List.flatMap_def]
  exact occupants_perm r (hr.linked.nodup_subtree id)

theorem Planned.pools_of_dumpPool (hr : r.Planned) {id : PoolId} {d : PoolDump}
    (h : r.dumpPool id = .ok d) : d.pools = r.forest.subtree id := by
  have hentry : ∀ x e, r.dumpPool x = .ok e → x = e.entry.pool := by
    intro x e he
    obtain ⟨p, ds, hp, -, rfl⟩ := exists_of_dumpPool hr.linked he
    exact (hr.named hp).symm
  rw [PoolDump.pools, ← map_eq_of_forall₂ hentry (forall₂_parts hr.linked h)]
  exact List.map_id' _

/-- The count of each dump is what its lists add up to. -/
theorem Balanced.spawned_of_dumpPool (hr : r.Balanced) {id : PoolId} {d : PoolDump}
    (h : r.dumpPool id = .ok d) : d.entry.spawned = d.occupied.length := by
  rw [(hr.occupied_perm h).length_eq, length_occupants]
  obtain ⟨p, ds, hp, -, rfl⟩ := exists_of_dumpPool hr.linked h
  exact hr.total hp

theorem occupants_eq_occupiedPoints (r : Registry) (pool : PoolId) :
    (r.occupants (r.forest.subtree pool)).map (fun o => (o.point, o.entry)) =
      (r.occupiedPoints pool).map (fun (x, held) => (x, held.entry)) := by
  rw [occupants, occupiedPoints, List.filterMap_filter, List.map_filterMap, List.map_filterMap]
  congr 1
  funext p
  cases hheld : p.reservation with
  | none =>
      rw [isHeldBy_of_free hheld]
      rfl
  | some held =>
      simp only [isHeldBy_of_held hheld, occupant?, hheld]
      split <;> rfl

/-- No point is found twice. -/
theorem Planned.occupants_nodup (hr : r.Planned) (pools : List PoolId) :
    ((r.occupants pools).map (·.point)).Nodup := by
  have hids := List.pairwise_map.mp hr.ids_nodup
  refine List.pairwise_map.mpr (List.pairwise_filterMap.mpr ((hids.filter _).imp ?_))
  intro p q hne o ho o' ho'
  obtain ⟨_, _, rfl⟩ := Option.map_eq_some_iff.mp ho
  obtain ⟨_, _, rfl⟩ := Option.map_eq_some_iff.mp ho'
  exact hne

/-- The entity shown at a point is the one that is alive there. -/
theorem Sound.entity_of_occupants (hr : r.Sound) {pools : List PoolId} {o : OccupiedPoint}
    (ho : o ∈ r.occupants pools) (serial : Nat) : o.entity = some serial ↔
      ∃ spawn, r.live.get? ⟨serial⟩ = some spawn ∧ spawn.point = o.point := by
  obtain ⟨p, hmem, held, -, rfl⟩ := exists_of_mem_occupants ho
  have hp := hr.get_of_mem hmem
  rw [Option.map_eq_some_iff]
  constructor
  · rintro ⟨handle, hentity, rfl⟩
    exact hr.tracking.placed hp hentity
  · rintro ⟨spawn, hlive, hpoint⟩
    obtain ⟨q, hq, hentity, -⟩ := hr.tracking.tracked hlive
    rw [hpoint, hp] at hq
    obtain rfl := Option.some.inj hq
    exact ⟨⟨serial⟩, hentity, rfl⟩

/-! ## Complete and consistent -/

/-- A dump that shows the subtree of a pool as it is: every pool once, every reserved point once
with its entry and its live entity, and counts that add up. -/
structure Pictured (r : Registry) (pool : PoolId) (d : PoolDump) : Prop where
  pools : d.pools = r.forest.subtree pool
  count : d.count = (r.forest.subtree pool).length
  occupied : (d.occupied.map fun o => (o.point, o.entry)).Perm
    ((r.occupiedPoints pool).map fun (x, held) => (x, held.entry))
  once : (d.occupied.map (·.point)).Nodup
  entity : ∀ o ∈ d.occupied, ∀ serial, o.entity = some serial ↔
    ∃ spawn, r.live.get? ⟨serial⟩ = some spawn ∧ spawn.point = o.point
  spawned : ∀ e ∈ d.parts, e.entry.spawned = e.occupied.length

theorem Balanced.pictured (hr : r.Balanced) {pool : PoolId} {d : PoolDump}
    (h : r.dumpPool pool = .ok d) : r.Pictured pool d := by
  have hperm := hr.occupied_perm h
  have hpools := hr.pools_of_dumpPool h
  have hparts := forall₂_parts hr.linked h
  refine ⟨hpools, ?_, ?_, ?_, ?_, ?_⟩
  · rw [PoolDump.count_eq, hparts.length_eq]
  · rw [← occupants_eq_occupiedPoints]
    exact hperm.map _
  · exact (hperm.map _).nodup_iff.mpr (hr.occupants_nodup _)
  · exact fun o ho => hr.entity_of_occupants (hperm.mem_iff.mp ho)
  · intro e he
    obtain ⟨x, -, hx⟩ := exists_of_mem_forall₂ hparts he
    exact hr.spawned_of_dumpPool hx

variable {rows : PoolRows}

/-- Every pool of a reachable registry can be dumped, and its dump is complete and agrees with the
counts. -/
theorem Reachable.dumpPool_pictured
    (hsmall : ((rows.points.map (·.point)).dedup).length < 2 ^ 32)
    (hr : Reachable rows (fun _ => True) r) {pool : PoolId}
    (hknown : r.forest.contains pool = true) :
    ∃ d, r.dumpPool pool = .ok d ∧ r.Pictured pool d := by
  have hbalanced := hr.balanced hsmall
  obtain ⟨d, hd⟩ := exists_dumpPool hbalanced.linked hknown
  exact ⟨d, hd, hbalanced.pictured hd⟩

/-- The camp filled up: three pools in the dump of its root, and two points. -/
theorem dumpPool_pictured_camp :
    ∃ d, (camp.perform (.spawnPool ⟨1⟩ 0)).dumpPool ⟨1⟩ = .ok d ∧
      d.count = 3 ∧ d.occupied.length = 2 := by
  have hfilled : Reachable campRows (fun _ => True) (camp.perform (.spawnPool ⟨1⟩ 0)) :=
    (reachable_camp _).step _ trivial
  have hknown : (camp.perform (.spawnPool ⟨1⟩ 0)).forest.contains ⟨1⟩ = true := by decide +kernel
  obtain ⟨d, hd, hpictured⟩ := Reachable.dumpPool_pictured (by decide) hfilled hknown
  have hpools : ((camp.perform (.spawnPool ⟨1⟩ 0)).forest.subtree ⟨1⟩).length = 3 := by
    decide +kernel
  have hpoints : ((camp.perform (.spawnPool ⟨1⟩ 0)).occupiedPoints ⟨1⟩).length = 2 := by
    decide +kernel
  have hlength := hpictured.occupied.length_eq
  rw [List.length_map, List.length_map, hpoints] at hlength
  exact ⟨d, hd, hpictured.count.trans hpools, hlength⟩

end Registry

end SpawnForest
