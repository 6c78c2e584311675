import SpawnForest.Proofs.Registry.Admission
import SpawnForest.Proofs.Registry.Spawning

/-!
# Populating, step by step

Spawning and emptying are taken apart into steps here, of whatever sort admits
them. `Chosen`, `Populated` and `AnyPopulated` say which leaf and which point a
spawn may come to when it starts from a pool: from any pool, from a pool that is
switched on, and from one of those, whichever it is. They speak about the
registry at the moment of the reservation, so they can be used one step at a
time.

A spawn changes only counts in the forest, so that the plan is the same after
it and a pool that was switched on still is (`spawnSingle_populates`). That is
what filling a pool by many spawns goes by.
-/

namespace SpawnForest.Registry

/-- The leaf and the point that a spawn from a pool may come to. -/
def Chosen (pool : PoolId) (r : Registry) (leaf : PoolId) (point : PointId) : Prop :=
  (∃ mode, r.forest.Descent mode pool leaf) ∧ point ∈ r.forest.freePoints leaf r.points

/-- The leaf and the point that populating a pool may come to. -/
def Populated (pool : PoolId) (r : Registry) (leaf : PoolId) (point : PointId) : Prop :=
  r.forest.isActive pool = true ∧ Chosen pool r leaf point

/-- The leaf and the point that populating any pool may come to. -/
def AnyPopulated (r : Registry) (leaf : PoolId) (point : PointId) : Prop :=
  ∃ pool, Populated pool r leaf point

variable {may : Registry → PoolId → PointId → Prop} {step : Registry → Registry → Prop}
  {r : Registry}

open Relation (ReflTransGen)

/-! ## Spawning -/

section

variable (hs : Spawns may step)

include hs

theorem draw_steps (r : Registry) (g : Pcg) : ReflTransGen step r { r with random := g } :=
  .single (hs.draw r g)

theorem spawnAt_steps {kind : SpawnKind} {pool : PoolId} {entry : UInt32} {point : PointId}
    (hmay : may r pool point) : ReflTransGen step r (exec (spawnAt kind pool entry point) r).2 := by
  rcases exec_spawnAt r kind pool entry point with
    ⟨-, h⟩ | ⟨p, holder, -, -, h⟩ | ⟨p, hcandidate, hpoint, hfree, h⟩
  · rw [h]
  · rw [h]
  · have hreserve : step r (r.reserve point ⟨pool, entry, kind⟩) :=
      hs.reserve hcandidate hpoint hfree hmay
    rcases h with h | ⟨made, hmade, h⟩ | ⟨hrefused, h⟩
    · rw [h]
      exact .single hreserve
    · rw [h]
      exact .tail (.single hreserve) (hs.materialize hmade)
    · rw [h]
      have hreserved : (r.reserve point ⟨pool, entry, kind⟩).points.get? point
          = some (p.reserve ⟨pool, entry, kind⟩) := by
        show (r.points.modify point _).get? point = _
        rw [Table.get?_modify, if_pos rfl, hpoint]
        rfl
      have hentity : (p.reserve ⟨pool, entry, kind⟩).entity = none := by
        -- a point with an entity is not refused
        by_contra hne
        have hsome := Option.isSome_iff_ne_none.mpr hne
        rw [materialize?, hreserved] at hrefused
        simp only [hsome, if_true] at hrefused
        cases hrefused
      exact .tail (.single hreserve) (hs.withdraw hreserved rfl hentity)

/-- A spawn reserves at most one point, while pools and points are as they were before it. -/
theorem spawnSingle_steps (hr : r.Planned) (pool : PoolId) (mode : Mode)
    (hmay : ∀ s leaf point, s.forest = r.forest → s.points = r.points → Chosen pool s leaf point →
      may s leaf point) : ReflTransGen step r (exec (spawnSingle pool mode) r).2 := by
  obtain ⟨g, h⟩ := exec_spawnSingle hr.linked hr.named pool mode
  rcases h with ⟨-, h⟩ | ⟨-, h⟩ | ⟨leaf, p, c, point, hdescent, -, -, hpoint, h⟩
  · rw [h]
    exact draw_steps hs r g
  · rw [h]
    exact draw_steps hs r g
  · rw [h]
    exact (draw_steps hs r g).trans
      (spawnAt_steps hs (hmay _ leaf point rfl rfl ⟨⟨mode, hdescent⟩, hpoint⟩))

end

/-! ## Populating -/

/-- One spawn leaves every pool as it was but for its counts. -/
theorem spawnSingle_alike (hr : r.Planned) (pool : PoolId) (mode : Mode) :
    Forest.Alike Pool.uncounted r.forest (exec (spawnSingle pool mode) r).2.forest := by
  obtain ⟨g, h⟩ := exec_spawnSingle hr.linked hr.named pool mode
  rcases h with ⟨-, h⟩ | ⟨-, h⟩ | ⟨leaf, p, c, point, -, -, -, -, h⟩
  · rw [h]
    exact .refl _ _
  · rw [h]
    exact .refl _ _
  · rw [h]
    rcases exec_spawnAt { r with random := g } p.kind leaf c.entry point with
      ⟨-, h⟩ | ⟨_, holder, -, -, h⟩ | ⟨_, -, -, -, h | ⟨made, hmade, h⟩ | ⟨-, h⟩⟩
    · rw [h]
      exact .refl _ _
    · rw [h]
      exact .refl _ _
    · rw [h]
      exact Forest.alike_adjust _ _ _ _
    · rw [h]
      rcases materialize?_cases hmade with rfl | ⟨_, _, _, _, -, -, -, -, rfl⟩
      · exact Forest.alike_adjust _ _ _ _
      · exact Forest.alike_adjust _ _ _ _
    · rw [h]
      exact (Forest.alike_adjust _ _ _ _).trans (Forest.alike_adjust _ _ _ _)

theorem isActive_of_alike {f g : Forest} (h : Forest.Alike Pool.uncounted f g) (id : PoolId) :
    f.isActive id = g.isActive id := by
  have hlinks : Forest.Alike Pool.links f g := h.through Pool.links
  have hactive : Forest.Alike Pool.active f g := h.through Pool.active
  rw [Forest.isActive, Forest.isActive, hlinks.ancestors id]
  congr 1
  funext a
  have ha := hactive.get? a
  cases hf : f.get? a with
  | none =>
      rw [hf, Option.map_none] at ha
      rw [Option.map_eq_none_iff.mp ha.symm]
  | some p =>
      rw [hf, Option.map_some] at ha
      obtain ⟨q, hq, hsame⟩ := Option.map_eq_some_iff.mp ha.symm
      rw [hq]
      exact hsame.symm

theorem exec_fill_zero (pool : PoolId) (mode : Mode) (r : Registry) :
    exec (fill pool 0 mode) r = (.ok 0, r) := by
  cases mode <;> rfl

theorem fill_maximum (pool : PoolId) (count : Nat) :
    fill pool (count + 1) .maximum = (do
      let spawned ← spawnSingle pool .maximum
      return (← fill pool count .maximum) + spawned.toNat) := rfl

theorem fill_minimum (pool : PoolId) (count : Nat) :
    fill pool (count + 1) .minimum = (do
      if ← spawnSingle pool .minimum then
        return (← fill pool count .minimum) + 1
      else
        let spawned ← spawnSingle pool .maximum
        return (← fill pool count .maximum) + spawned.toNat) := rfl

/-- A pool that is unknown or switched off is not populated, any other one is filled. -/
theorem exec_spawnPool (r : Registry) (pool : PoolId) (count : Nat) :
    exec (spawnPool pool count) r = (.ok 0, r) ∨
    r.forest.isActive pool = true ∧
      exec (spawnPool pool count) r =
        exec (fill pool (if count = 0 then r.unclaimedRoom pool else count) .minimum) r := by
  unfold spawnPool
  rw [exec_get_bind]
  by_cases hclosed : (!r.forest.contains pool || !r.forest.isActive pool) = true
  · rw [if_pos hclosed]
    exact .inl rfl
  · rw [if_neg hclosed]
    simp only [Bool.or_eq_true, Bool.not_eq_true', not_or, Bool.not_eq_false] at hclosed
    exact .inr ⟨hclosed.2, rfl⟩

/-- A pool is filled in steps of whatever sort its spawns are made of, as long as each spawn keeps
what the next one relies on. -/
theorem fill_steps_of {P : Registry → Prop} {pool : PoolId}
    (hspawn : ∀ {s : Registry} (mode : Mode), P s →
      ReflTransGen step s (exec (spawnSingle pool mode) s).2 ∧
        P (exec (spawnSingle pool mode) s).2)
    (hr : P r) (count : Nat) (mode : Mode) :
    ReflTransGen step r (exec (fill pool count mode) r).2 := by
  induction count generalizing r mode with
  | zero => cases mode <;> exact .refl
  | succ count ih =>
      have hrest : ∀ {s : Registry}, P s → ∀ mode n,
          ReflTransGen step s (exec (do return (← fill pool count mode) + n) s).2 := by
        intro s hs mode n
        exact steps_bind (ih hs mode) (fun _ _ _ => .refl)
      have hmaximum : ∀ {s : Registry}, P s →
          ReflTransGen step s (exec (do
            let spawned ← spawnSingle pool .maximum
            return (← fill pool count .maximum) + spawned.toNat) s).2 := by
        intro s hs
        obtain ⟨hsteps, hnext⟩ := hspawn .maximum hs
        refine steps_bind hsteps (fun spawned t ht => ?_)
        rw [ht] at hnext
        exact hrest hnext .maximum _
      cases mode with
      | maximum => exact hmaximum hr
      | minimum =>
          obtain ⟨hsteps, hnext⟩ := hspawn .minimum hr
          refine steps_bind hsteps (fun spawned t ht => ?_)
          rw [ht] at hnext
          cases spawned with
          | true => exact hrest hnext .minimum 1
          | false => exact hmaximum hnext

section

variable {P : Registry → Prop} {R : Nat → Registry → Registry → Prop} {pool : PoolId}
  (hrefl : ∀ s, R 0 s s) (htrans : ∀ {m n s t u}, R m s t → R n t u → R (m + n) s u)
  (hspawn : ∀ {s t : Registry} {mode : Mode} {spawned : Bool}, P s →
    exec (spawnSingle pool mode) s = (.ok spawned, t) → P t ∧ R spawned.toNat s t)
  {count n : Nat} {s : Registry}

include hrefl htrans hspawn

/-- What filling answers tells what it did, as long as this adds up over the spawns and each spawn
keeps what the next one relies on. -/
theorem exec_fill_ok (hr : P r) {mode : Mode} (h : exec (fill pool count mode) r = (.ok n, s)) :
    R n r s ∧ n ≤ count := by
  induction count generalizing r mode n with
  | zero =>
      obtain ⟨rfl, rfl⟩ := answer_inj ((exec_fill_zero pool mode r).symm.trans h)
      exact ⟨hrefl r, Nat.le_refl _⟩
  | succ count ih =>
      have hmaximum : ∀ {r : Registry}, P r → ∀ {n}, exec (do
            let spawned ← spawnSingle pool .maximum
            return (← fill pool count .maximum) + spawned.toNat) r = (.ok n, s) →
          R n r s ∧ n ≤ count + 1 := by
        intro r hr n h
        obtain ⟨spawned, t, hfirst, h⟩ := exec_bind_eq_ok h
        obtain ⟨m, u, hrest, h⟩ := exec_bind_eq_ok h
        obtain ⟨rfl, rfl⟩ := answer_inj h
        obtain ⟨hnext, hone⟩ := hspawn hr hfirst
        obtain ⟨hmore, hle⟩ := ih hnext hrest
        have hatMost := spawned.toNat_le
        exact ⟨Nat.add_comm m _ ▸ htrans hone hmore, by omega⟩
      cases mode with
      | maximum => exact hmaximum hr h
      | minimum =>
          rw [fill_minimum] at h
          obtain ⟨spawned, t, hfirst, h⟩ := exec_bind_eq_ok h
          obtain ⟨hnext, hone⟩ := hspawn hr hfirst
          cases spawned with
          | true =>
              obtain ⟨m, u, hrest, h⟩ := exec_bind_eq_ok h
              obtain ⟨rfl, rfl⟩ := answer_inj h
              obtain ⟨hmore, hle⟩ := ih hnext hrest
              exact ⟨Nat.add_comm m 1 ▸ htrans hone hmore, by omega⟩
          | false =>
              obtain ⟨hmore, hle⟩ := hmaximum hnext h
              exact ⟨Nat.zero_add n ▸ htrans hone hmore, hle⟩

/-- A pool is filled with as many entities as were asked for at most, or as it has unclaimed
room. -/
theorem exec_spawnPool_ok (hr : P r) (h : exec (spawnPool pool count) r = (.ok n, s)) :
    R n r s ∧ n ≤ if count = 0 then r.unclaimedRoom pool else count := by
  rcases exec_spawnPool r pool count with hclosed | ⟨-, hfilled⟩
  · obtain ⟨rfl, rfl⟩ := answer_inj (hclosed.symm.trans h)
    exact ⟨hrefl r, Nat.zero_le _⟩
  · exact exec_fill_ok hrefl htrans hspawn hr (hfilled.symm.trans h)

end

section

variable (hs : Spawns may step)

include hs

/-- A spawn from a pool that is switched on leads to a registry that may go on like this. -/
theorem spawnSingle_populates (hr : r.Planned) {pool : PoolId}
    (hmay : ∀ s leaf point, Populated pool s leaf point → may s leaf point)
    (hactive : r.forest.isActive pool = true) (mode : Mode) :
    ReflTransGen step r (exec (spawnSingle pool mode) r).2 ∧
      (exec (spawnSingle pool mode) r).2.Planned ∧
      (exec (spawnSingle pool mode) r).2.forest.isActive pool = true := by
  have hsteps : ReflTransGen step r (exec (spawnSingle pool mode) r).2 :=
    spawnSingle_steps hs hr pool mode (fun s leaf point hforest _ hchosen =>
      hmay s leaf point ⟨by rw [hforest]; exact hactive, hchosen⟩)
  refine ⟨hsteps, hs.planned_of_steps hsteps hr, ?_⟩
  rw [← isActive_of_alike (spawnSingle_alike hr pool mode)]
  exact hactive

theorem fill_steps (hr : r.Planned) {pool : PoolId}
    (hmay : ∀ s leaf point, Populated pool s leaf point → may s leaf point)
    (hactive : r.forest.isActive pool = true) (count : Nat) (mode : Mode) :
    ReflTransGen step r (exec (fill pool count mode) r).2 :=
  fill_steps_of (P := fun s => s.Planned ∧ s.forest.isActive pool = true)
    (fun mode h => spawnSingle_populates hs h.1 hmay h.2 mode) ⟨hr, hactive⟩ count mode

theorem spawnPool_steps (hr : r.Planned) {pool : PoolId}
    (hmay : ∀ s leaf point, Populated pool s leaf point → may s leaf point) (count : Nat) :
    ReflTransGen step r (exec (spawnPool pool count) r).2 := by
  rcases exec_spawnPool r pool count with h | ⟨hactive, h⟩
  · rw [h]
  · rw [h]
    exact fill_steps hs hr hmay hactive _ _

end

section

variable (hs : Spawns AnyPopulated step)

include hs

theorem spawnPool_steps_any (hr : r.Planned) (pool : PoolId) (count : Nat) :
    ReflTransGen step r (exec (spawnPool pool count) r).2 :=
  spawnPool_steps hs hr (fun _ _ _ h => ⟨pool, h⟩) count

/-- What follows a spawn may rely on the plan as well. -/
theorem spawnPool_bind_steps {β : Type} (hr : r.Planned) (pool : PoolId) (count : Nat)
    {f : Nat → Action β} (hf : ∀ n s, s.Planned → ReflTransGen step s (exec (f n) s).2) :
    ReflTransGen step r (exec (spawnPool pool count >>= f) r).2 := by
  refine steps_bind (spawnPool_steps_any hs hr pool count) (fun n s hran => hf n s ?_)
  have hplanned := hs.planned_of_steps (spawnPool_steps_any hs hr pool count) hr
  rwa [hran] at hplanned

theorem spawnPools_steps (hr : r.Planned) (pools : List PoolId) :
    ReflTransGen step r (exec (spawnPools pools) r).2 := by
  induction pools generalizing r with
  | nil => exact .refl
  | cons pool pools ih =>
      exact spawnPool_bind_steps hs hr pool 0 (fun n s hplanned =>
        steps_bind (ih hplanned) (fun _ _ _ => .refl))

theorem spawnAll_steps (hr : r.Planned) : ReflTransGen step r (exec spawnAll r).2 :=
  spawnPools_steps hs hr _

end

/-! ## Emptying -/

theorem vacate_points {p : SpawnPoint} {held : Reservation} (hheld : p.reservation = some held)
    {x : PointId} (hx : x ≠ p.id) : (r.vacate p).points.get? x = r.points.get? x := by
  have hrank : ¬Key.rank p.id = Key.rank x := fun h => hx (Key.rank_inj h).symm
  rw [vacate_eq r hheld]
  show ((r.destroyAt p).points.modify p.id _).get? x = _
  rw [Table.get?_modify, if_neg hrank]
  rcases r.destroyAt_cases p with ⟨-, h⟩ | ⟨handle, -, h⟩
  · rw [h]
  · rw [h]
    show (r.points.modify p.id _).get? x = _
    rw [Table.get?_modify, if_neg hrank]

theorem isHeldBy_iff {p : SpawnPoint} {pools : List PoolId} :
    p.isHeldBy pools = true ↔ ∃ held, p.reservation = some held ∧ held.pool ∈ pools := by
  unfold SpawnPoint.isHeldBy
  cases p.reservation <;> simp

/-- Points that some pools hold are freed one after the other, and each is still held by the time
that it is freed. -/
theorem foldl_vacate_steps {P : Registry → Prop} {pools : List PoolId}
    (hvacate : ∀ {s : Registry} {p : SpawnPoint} {held : Reservation}, P s →
      s.points.get? p.id = some p → p.reservation = some held → held.pool ∈ pools →
      step s (s.vacate p) ∧ P (s.vacate p))
    {l : List SpawnPoint} (hids : (l.map (·.id)).Nodup)
    (hl : ∀ p ∈ l, r.points.get? p.id = some p ∧ p.isHeldBy pools = true) (hr : P r) :
    ReflTransGen step r (l.foldl vacate r) ∧ P (l.foldl vacate r) := by
  induction l generalizing r with
  | nil => exact ⟨.refl, hr⟩
  | cons p l ih =>
      obtain ⟨hnew, hids⟩ := List.nodup_cons.mp hids
      obtain ⟨hpoint, hheld⟩ := hl p List.mem_cons_self
      obtain ⟨held, hheld, hpool⟩ := isHeldBy_iff.mp hheld
      obtain ⟨hfirst, hnext⟩ := hvacate hr hpoint hheld hpool
      have hrest : ∀ q ∈ l, (r.vacate p).points.get? q.id = some q ∧ q.isHeldBy pools = true := by
        intro q hq
        have hne : q.id ≠ p.id := fun h => hnew (List.mem_map.mpr ⟨q, hq, h⟩)
        rw [vacate_points hheld hne]
        exact hl q (List.mem_cons_of_mem _ hq)
      obtain ⟨hsteps, hlast⟩ := ih hids hrest hnext
      exact ⟨ReflTransGen.head hfirst hsteps, hlast⟩

/-- The points of a registry as its table lists them, each under its number. -/
theorem Planned.ids_nodup (hr : r.Planned) : (r.points.values.map (·.id)).Nodup := by
  have hids : r.points.values.map (·.id) = r.points.keys := by
    rw [Table.values, Table.keys, List.map_map]
    exact List.map_congr_left (fun e he => hr.points_named (Table.mem_entries.mp he))
  rw [hids]
  exact r.points.keys_nodup

theorem Planned.get_of_mem (hr : r.Planned) {p : SpawnPoint} (hp : p ∈ r.points.values) :
    r.points.get? p.id = some p := by
  obtain ⟨x, hx⟩ := Table.mem_values.mp hp
  rwa [hr.points_named hx]

/-- A pool is emptied in steps of whatever sort its points are freed by, and its remains cleared by,
as long as each of them keeps what the next one relies on. -/
theorem despawnPool_steps_of {P : Registry → Prop} {pool : PoolId}
    (hvacate : ∀ {s : Registry} {p : SpawnPoint} {held : Reservation}, P s →
      s.points.get? p.id = some p → p.reservation = some held →
      held.pool ∈ r.forest.subtree pool → step s (s.vacate p) ∧ P (s.vacate p))
    (hclear : ∀ s, P s →
      step s (s.clearRemains (fun x => (r.forest.subtree pool).contains x.pool)).2)
    (hplanned : r.Planned) (hr : P r) (corpses : Bool) :
    ReflTransGen step r (r.despawnPool pool corpses).2 := by
  have hids : ((r.points.values.filter
      (fun p => p.isHeldBy (r.forest.subtree pool))).map (·.id)).Nodup :=
    hplanned.ids_nodup.sublist (List.filter_sublist.map _)
  obtain ⟨hvacated, hlast⟩ := foldl_vacate_steps hvacate hids (fun p hp =>
    ⟨hplanned.get_of_mem (List.mem_filter.mp hp).1, (List.mem_filter.mp hp).2⟩) hr
  unfold despawnPool
  cases corpses with
  | false => exact hvacated
  | true => exact hvacated.tail (hclear _ hlast)

section

variable (ha : Admits may step)

include ha

theorem despawnPool_steps (hr : r.Planned) (pool : PoolId) (corpses : Bool) :
    ReflTransGen step r (r.despawnPool pool corpses).2 :=
  despawnPool_steps_of (P := fun _ => True)
    (fun _ hpoint hheld _ => ⟨ha.vacate hpoint hheld, trivial⟩) (fun s _ => ha.clear s _) hr
    trivial corpses

theorem dropTimers_steps (r : Registry) (pool : PoolId) :
    ReflTransGen step r (r.dropTimers pool) :=
  .single (ha.schedule r _)

end

section

variable (ha : Admits AnyPopulated step)

include ha

theorem respawnPool_steps (hr : r.Planned) (pool : PoolId) :
    ReflTransGen step r (exec (respawnPool pool) r).2 := by
  unfold respawnPool
  rw [exec_modify_bind]
  have hdrop := dropTimers_steps ha r pool
  exact hdrop.trans (spawnPool_steps_any ha.toSpawns (ha.planned_of_steps hdrop hr) pool 0)

theorem reseedPool_steps (hr : r.Planned) (pool : PoolId) :
    ReflTransGen step r (exec (reseedPool pool) r).2 := by
  unfold reseedPool
  rw [exec_modify_bind]
  have hempty := despawnPool_steps ha hr pool false
  exact hempty.trans (respawnPool_steps ha (ha.planned_of_steps hempty hr) pool)

theorem setActive_steps (hr : r.Planned) (pool : PoolId) (active : Bool)
    (hswitch : ∀ s : Registry,
      step s { s with forest := s.forest.modify pool (fun p => { p with active := active }) }) :
    ReflTransGen step r (exec (setActive pool active) r).2 := by
  unfold setActive
  rw [exec_get_bind]
  split
  · exact .refl
  · rw [exec_modify_bind]
    have hswitched := ReflTransGen.single (hswitch r)
    have hplanned := ha.planned_of_steps hswitched hr
    cases active with
    | true =>
        exact hswitched.trans
          (spawnPool_bind_steps ha.toSpawns hplanned pool 0 (fun _ _ _ => .refl))
    | false =>
        have hdrop := hswitched.trans (dropTimers_steps ha _ pool)
        exact hdrop.trans (despawnPool_steps ha (ha.planned_of_steps hdrop hr) pool false)

end

end SpawnForest.Registry
