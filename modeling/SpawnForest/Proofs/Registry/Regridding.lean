import SpawnForest.Proofs.Registry.Filling
import SpawnForest.Proofs.Registry.Presence
import SpawnForest.Proofs.Registry.WellFormed

/-!
# Grids that come back

Unloading a grid takes the entities off its points and destroys them, and
leaves everything else as it was (`Sound.onGridUnloaded_eq`). Each reserved
point of the grid waits for its entity then, as if it had never had one, so
that loading the grid makes the entities from the reservations alone
(`foldl_spawnNext`). All that is new in the end are the entities
(`Reachable.regrid_lossless`).

Loading asks whether the grid of a point's position is loaded, and not the grid
that the point is filed under. The two are the same, since a point never moves
(`Reachable.located`).
-/

namespace SpawnForest

/-- A point without its entity, if that is one of some entities. -/
def SpawnPoint.without (gone : List EntityHandle) (p : SpawnPoint) : SpawnPoint :=
  { p with entity := p.entity.filter (fun handle => !gone.contains handle) }

/-- A point when a grid is unloaded. -/
def SpawnPoint.unload (grid : GridId) (p : SpawnPoint) : SpawnPoint :=
  if p.grid = grid then p.detach else p

namespace SpawnPoint

variable {p : SpawnPoint} {grid : GridId}

theorem without_of_mem {gone : List EntityHandle} {handle : EntityHandle}
    (hentity : p.entity = some handle) (hgone : handle ∈ gone) : p.without gone = p.detach := by
  simp [without, detach, hentity, hgone]

theorem without_of_not_mem {gone : List EntityHandle}
    (h : ∀ handle, p.entity = some handle → handle ∉ gone) : p.without gone = p := by
  have hkept : p.entity.filter (fun handle => !gone.contains handle) = p.entity := by
    cases hentity : p.entity with
    | none => rfl
    | some handle => simp [h handle hentity]
  rw [without, hkept]

/-- One entity goes before the others. -/
theorem without_cons (handle : EntityHandle) (gone : List EntityHandle) (p : SpawnPoint) :
    p.without (handle :: gone) = (p.without [handle]).without gone := by
  cases hentity : p.entity with
  | none => simp [without, hentity]
  | some other =>
      by_cases hother : other = handle <;> simp [without, hentity, hother]

theorem unload_of_eq (h : p.grid = grid) : p.unload grid = p.detach := if_pos h

theorem unload_of_ne (h : p.grid ≠ grid) : p.unload grid = p := if_neg h

@[simp] theorem detach_unload (grid : GridId) (p : SpawnPoint) :
    (p.unload grid).detach = p.detach := by
  unfold unload
  split <;> rfl

end SpawnPoint

/-- Nobody can tell afterwards that a grid was switched off and on. -/
theorem Host.setGridLoaded_off_on {h : Host} {grid : GridId}
    (hloaded : h.isGridLoaded grid = true) :
    (h.setGridLoaded grid false).setGridLoaded grid true = h := by
  have hunloaded : h.unloaded.get? grid = none := by
    rw [isGridLoaded, Bool.not_eq_true', Table.contains] at hloaded
    exact Option.not_isSome_iff_eq_none.mp (by rw [hloaded]; exact Bool.false_ne_true)
  have hback : (h.unloaded.add grid).erase grid = h.unloaded := Table.ext_get? (fun k => by
    by_cases hk : k = grid
    · rw [hk, Table.get?_erase_self, hunloaded]
    · rw [Table.get?_erase_of_ne _ hk, KeySet.add, Table.get?_insert_of_ne _ _ hk])
  simp only [setGridLoaded, Bool.false_eq_true, if_false, if_true]
  rw [hback]

namespace Registry

variable {rows : PoolRows} {allowed : Operation → Prop} {r s : Registry} {grid : GridId}

/-! ## Unloading -/

/-- The entities on the points of a grid. -/
def entitiesIn (r : Registry) (grid : GridId) : List EntityHandle :=
  (r.points.values.filter (fun p => p.grid == grid)).filterMap (·.entity)

theorem mem_entitiesIn {handle : EntityHandle} : handle ∈ r.entitiesIn grid ↔
    ∃ x p, r.points.get? x = some p ∧ p.grid = grid ∧ p.entity = some handle := by
  simp only [entitiesIn, List.mem_filterMap, List.mem_filter, Table.mem_values, beq_iff_eq]
  constructor
  · rintro ⟨p, ⟨⟨x, hp⟩, hgrid⟩, hentity⟩
    exact ⟨x, p, hp, hgrid, hentity⟩
  · rintro ⟨x, p, hp, hgrid, hentity⟩
    exact ⟨p, ⟨⟨x, hp⟩, hgrid⟩, hentity⟩

theorem length_entitiesIn (r : Registry) (grid : GridId) : (r.entitiesIn grid).length =
    r.points.values.countP (fun p => p.grid == grid && p.entity.isSome) := by
  rw [entitiesIn, List.length_filterMap_eq_countP, List.countP_filter]
  exact List.countP_congr (fun p _ => by rw [Bool.and_comm])

theorem Sound.entitiesIn_nodup (hr : r.Sound) (grid : GridId) : (r.entitiesIn grid).Nodup :=
  hr.entities_nodup _

theorem Sound.live_of_entitiesIn (hr : r.Sound) {handle : EntityHandle}
    (h : handle ∈ r.entitiesIn grid) : ∃ spawn, r.live.get? handle = some spawn :=
  hr.live_of_entities h

/-- The entity of a point elsewhere is none of the grid. -/
theorem Sound.not_mem_entitiesIn (hr : r.Sound) {x : PointId} {p : SpawnPoint}
    {handle : EntityHandle} (hp : r.points.get? x = some p) (hentity : p.entity = some handle)
    (hgrid : p.grid ≠ grid) : handle ∉ r.entitiesIn grid := by
  intro hmem
  obtain ⟨y, q, hq, hsame, hother⟩ := mem_entitiesIn.mp hmem
  obtain ⟨spawn, hlive, rfl⟩ := hr.tracking.placed hp hentity
  rw [hr.tracking.point_eq hlive hq hother, hq] at hp
  exact hgrid (Option.some.inj hp ▸ hsame)

/-- Only the points of a grid lose their entities with it. -/
theorem Sound.without_entitiesIn (hr : r.Sound) {x : PointId} {p : SpawnPoint}
    (hp : r.points.get? x = some p) : p.without (r.entitiesIn grid) = p.unload grid := by
  by_cases hgrid : p.grid = grid
  · rw [SpawnPoint.unload_of_eq hgrid]
    cases hentity : p.entity with
    | none => simp [SpawnPoint.without, SpawnPoint.detach, hentity]
    | some handle =>
        exact SpawnPoint.without_of_mem hentity (mem_entitiesIn.mpr ⟨x, p, hp, hgrid, hentity⟩)
  · rw [SpawnPoint.unload_of_ne hgrid]
    exact SpawnPoint.without_of_not_mem (fun _ h => hr.not_mem_entitiesIn hp h hgrid)

/-- One more entity that is taken out of the world, if it is known. -/
def unloadNext (acc : Nat × Registry) (handle : EntityHandle) : Nat × Registry :=
  match acc.2.live.get? handle with
  | none => acc
  | some spawn =>
    (acc.1 + 1, { acc.2.unlink handle spawn with host := acc.2.host.destroy handle })

/-- An entity that leaves its point is missing there and nowhere else. -/
theorem modify_detach_eq (htracking : Tracking r.points r.live r.host.handles.issued)
    {handle : EntityHandle} {spawn : LiveSpawn} (hlive : r.live.get? handle = some spawn) :
    r.points.modify spawn.point (·.detach) =
      r.points.map (fun _ => SpawnPoint.without [handle]) := by
  refine Table.ext_get? (fun x => ?_)
  rw [Table.get?_map]
  cases hp : r.points.get? x with
  | none => simp [Table.get?_modify, hp]
  | some p =>
      by_cases hx : x = spawn.point
      · subst hx
        obtain ⟨q, hq, hentity, -⟩ := htracking.tracked hlive
        obtain rfl := Option.some.inj (hp.symm.trans hq)
        rw [Table.get?_modify_self hp, Option.map_some,
          SpawnPoint.without_of_mem hentity (List.mem_singleton_self handle)]
      · rw [Table.get?_modify_of_ne hx, hp, Option.map_some, SpawnPoint.without_of_not_mem]
        rintro other hentity hother
        obtain rfl := List.mem_singleton.mp hother
        exact hx (htracking.point_eq hlive hp hentity).symm

/-- Different entities that are alive are all unloaded, and nothing else happens. -/
theorem foldl_unloadNext (htracking : Tracking r.points r.live r.host.handles.issued)
    {gone : List EntityHandle} (hdistinct : gone.Nodup)
    (halive : ∀ handle ∈ gone, ∃ spawn, r.live.get? handle = some spawn) (n : Nat) :
    gone.foldl unloadNext (n, r) = (n + gone.length, { r with
      points := r.points.map (fun _ => SpawnPoint.without gone)
      live := r.live.filter (fun handle _ => !gone.contains handle)
      host := gone.foldl Host.destroy r.host }) := by
  induction gone generalizing r n with
  | nil =>
      have hsame : SpawnPoint.without [] = id :=
        funext (fun p => SpawnPoint.without_of_not_mem (fun _ _ => List.not_mem_nil))
      have hpoints : r.points.map (fun _ => SpawnPoint.without []) = r.points :=
        Table.ext_get? (fun x => by rw [Table.get?_map, hsame, Option.map_id, id])
      have hlive : r.live.filter (fun handle _ => !([] : List EntityHandle).contains handle)
          = r.live := Table.ext_get? (fun handle => by
        rw [Table.get?_filter_not_contains, if_neg List.not_mem_nil])
      rw [hpoints, hlive]
      rfl
  | cons handle gone ih =>
      obtain ⟨hnew, hdistinct⟩ := List.nodup_cons.mp hdistinct
      obtain ⟨spawn, hspawn⟩ := halive handle List.mem_cons_self
      have hstep : unloadNext (n, r) handle =
          (n + 1, { r.unlink handle spawn with host := r.host.destroy handle }) := by
        rw [unloadNext, hspawn]
      have hnext := htracking.unlink hspawn
      rw [← destroy_issued r.host handle] at hnext
      have hstill : ∀ other ∈ gone, ∃ spawn, (r.live.erase handle).get? other = some spawn := by
        intro other hother
        have hne : other ≠ handle := fun same => hnew (same ▸ hother)
        rw [Table.get?_erase_of_ne _ hne]
        exact halive other (List.mem_cons_of_mem _ hother)
      -- one entity is off its point and out of the table before the others are
      have hpoints : (r.points.modify spawn.point (·.detach)).map
          (fun _ => SpawnPoint.without gone) =
            r.points.map (fun _ => SpawnPoint.without (handle :: gone)) := by
        rw [modify_detach_eq htracking hspawn]
        refine Table.ext_get? (fun x => ?_)
        rw [Table.get?_map, Table.get?_map, Table.get?_map, Option.map_map]
        exact Option.map_congr (fun p _ => (SpawnPoint.without_cons handle gone p).symm)
      have hlive : (r.live.erase handle).filter (fun other _ => !gone.contains other) =
          r.live.filter (fun other _ => !(handle :: gone).contains other) := by
        refine Table.ext_get? (fun other => ?_)
        rw [Table.get?_filter_not_contains, Table.get?_filter_not_contains, Table.get?_erase]
        by_cases hother : other = handle <;> simp [hother, Key.rank_eq_iff]
      rw [List.foldl_cons, hstep, ih (r := { r.unlink handle spawn with
        host := r.host.destroy handle }) hnext hdistinct hstill, List.length_cons, ← hpoints,
        ← hlive, Nat.add_right_comm, Nat.add_assoc]
      rfl

/-- What unloading a grid leaves. -/
def unloaded (r : Registry) (grid : GridId) : Registry :=
  { r with
    points := r.points.map (fun _ => SpawnPoint.unload grid)
    live := r.live.filter (fun handle _ => !(r.entitiesIn grid).contains handle)
    host := (r.entitiesIn grid).foldl Host.destroy r.host }

/-- The entities of a grid leave its points and are destroyed, and nothing else happens. -/
theorem Sound.onGridUnloaded_eq (hr : r.Sound) (grid : GridId) :
    r.onGridUnloaded grid = ((r.entitiesIn grid).length, r.unloaded grid) := by
  have hpoints : r.points.map (fun _ => SpawnPoint.without (r.entitiesIn grid)) =
      r.points.map (fun _ => SpawnPoint.unload grid) := by
    refine Table.ext_get? (fun x => ?_)
    rw [Table.get?_map, Table.get?_map]
    exact Option.map_congr (fun p hp => hr.without_entitiesIn hp)
  have hall := foldl_unloadNext hr.tracking (hr.entitiesIn_nodup grid)
    (fun _ h => hr.live_of_entitiesIn h) 0
  rw [Nat.zero_add, hpoints] at hall
  exact hall

theorem unloaded_host (r : Registry) (grid : GridId) : (r.unloaded grid).host = { r.host with
    entities := (r.unloaded grid).host.entities
    destroyed := (r.unloaded grid).host.destroyed } :=
  r.host.destroyAll_eq (r.entitiesIn grid)

theorem get?_unloaded_live (r : Registry) (grid : GridId) (handle : EntityHandle) :
    (r.unloaded grid).live.get? handle =
      if handle ∈ r.entitiesIn grid then none else r.live.get? handle :=
  r.live.get?_filter_not_contains _ handle

theorem get?_unloaded_entities (r : Registry) (grid : GridId) (handle : EntityHandle) :
    (r.unloaded grid).host.entities.get? handle =
      if handle ∈ r.entitiesIn grid then none else r.host.entities.get? handle :=
  r.host.get?_destroyAll (r.entitiesIn grid) handle

theorem get?_unloaded_points {x : PointId} {p : SpawnPoint} (hp : r.points.get? x = some p) :
    (r.unloaded grid).points.get? x = some (p.unload grid) := by
  rw [unloaded, Table.get?_map, hp, Option.map_some]

theorem Planned.unloaded (hr : r.Planned) (grid : GridId) : (r.unloaded grid).Planned := by
  have hplan : SamePlan r (r.unloaded grid) := ⟨.refl _ _, Table.alike_map (fun _ p _ => by
    unfold SpawnPoint.unload
    split <;> rfl)⟩
  exact hplan.planned hr

/-! ## Loading -/

/-- A point waits for an entity, and nothing stands in its way. -/
structure Awaits (r : Registry) (x : PointId) (p : SpawnPoint) (request : SpawnRequest) :
    Prop where
  point : r.points.get? x = some p
  missing : p.entity = none
  loaded : r.host.isLoadedAt p.position = true
  wanted : r.request? p = some request
  accepted : r.host.rejected.contains request.entry = false

/-- The entity that is requested for a point is made. -/
def furnish (r : Registry) (x : PointId) (request : SpawnRequest) : Registry :=
  let handle : EntityHandle := ⟨r.host.handles.issued⟩
  { r with
    points := r.points.modify x (·.attach handle)
    host := { r.host with
      handles := ⟨r.host.handles.issued + 1⟩
      entities := r.host.entities.insert handle request }
    live := r.live.insert handle ⟨request.kind, request.pool, x, request.entry⟩ }

theorem Awaits.spawnPending? {x : PointId} {p : SpawnPoint} {request : SpawnRequest}
    (h : r.Awaits x p request) : r.spawnPending? x = some (r.furnish x request) := by
  obtain ⟨pool, candidate, hheld, -⟩ := request?_eq_some h.wanted
  have hpending : (p.isPending && r.host.isLoadedAt p.position) = true := by
    rw [SpawnPoint.isPending, hheld, h.missing, h.loaded]
    rfl
  have hmade : r.host.instantiate? request = some (⟨r.host.handles.issued⟩,
      (r.furnish x request).host) := by
    rw [Host.instantiate?, h.accepted, if_neg Bool.false_ne_true]
    rfl
  rw [Registry.spawnPending?, h.point]
  simp only [hpending, if_true]
  rw [materialize?, h.point]
  simp only [hheld, h.missing, Option.isSome_none, Bool.false_eq_true, if_false, h.wanted, hmade]
  rfl

/-- What is requested for a point goes by the pools, the patches and the point. -/
theorem request?_congr (hforest : s.forest = r.forest) (hpatches : s.patches = r.patches)
    (p : SpawnPoint) : s.request? p = r.request? p := by
  unfold request?
  rw [hforest, hpatches]

/-- One entity does not stand in the way of another. -/
theorem Awaits.furnish {x y : PointId} {p : SpawnPoint} {request : SpawnRequest}
    (h : r.Awaits x p request) (hne : x ≠ y) (other : SpawnRequest) :
    (r.furnish y other).Awaits x p request where
  point := (Table.get?_modify_of_ne hne).trans h.point
  missing := h.missing
  loaded := h.loaded
  wanted := (request?_congr rfl rfl p).trans h.wanted
  accepted := h.accepted

/-- The entities of some points have been made, and that is all. -/
structure Furnished (r s : Registry) (ids : List PointId) : Prop where
  rest : s = { r with points := s.points, host := s.host, live := s.live }
  host : s.host = { r.host with handles := s.host.handles, entities := s.host.entities }
  issued : r.host.handles.issued ≤ s.host.handles.issued
  /-- Entities that were there are there. -/
  older : ∀ handle : EntityHandle, handle.serial < r.host.handles.issued →
    s.live.get? handle = r.live.get? handle ∧
      s.host.entities.get? handle = r.host.entities.get? handle
  others : ∀ x, x ∉ ids → s.points.get? x = r.points.get? x
  made : ∀ x ∈ ids, ∀ p request, r.Awaits x p request → ∃ handle : EntityHandle,
    s.points.get? x = some (p.attach handle) ∧
    s.live.get? handle = some ⟨request.kind, request.pool, x, request.entry⟩ ∧
    s.host.entities.get? handle = some request

theorem Furnished.nil (r : Registry) : Furnished r r [] :=
  ⟨rfl, rfl, Nat.le_refl _, fun _ _ => ⟨rfl, rfl⟩, fun _ _ => rfl, nofun⟩

/-- One more entity was made first. -/
theorem Furnished.cons {x : PointId} {p : SpawnPoint} {request : SpawnRequest}
    {ids : List PointId} (h : Furnished (r.furnish x request) s ids) (hx : r.Awaits x p request)
    (hnew : x ∉ ids) : Furnished r s (x :: ids) where
  rest := h.rest
  host := h.host
  issued := Nat.le_of_succ_le h.issued
  older handle hold := by
    have hne : handle ≠ ⟨r.host.handles.issued⟩ := by
      rintro rfl
      exact Nat.lt_irrefl _ hold
    obtain ⟨hlive, hentities⟩ := h.older handle (Nat.lt_succ_of_lt hold)
    exact ⟨hlive.trans (Table.get?_insert_of_ne _ _ hne),
      hentities.trans (Table.get?_insert_of_ne _ _ hne)⟩
  others y hy := by
    obtain ⟨hne, hrest⟩ := not_or.mp (mt List.mem_cons.mpr hy)
    exact (h.others y hrest).trans (Table.get?_modify_of_ne hne)
  made y hy q other hawaits := by
    rcases List.mem_cons.mp hy with rfl | hy
    · obtain rfl := Option.some.inj (hx.point.symm.trans hawaits.point)
      obtain rfl := Option.some.inj (hx.wanted.symm.trans hawaits.wanted)
      obtain ⟨hlive, hentities⟩ := h.older ⟨r.host.handles.issued⟩ (Nat.lt_succ_self _)
      refine ⟨⟨r.host.handles.issued⟩, ?_, ?_, ?_⟩
      · exact (h.others y hnew).trans (Table.get?_modify_self hx.point)
      · exact hlive.trans (Table.get?_insert_self _ _ _)
      · exact hentities.trans (Table.get?_insert_self _ _ _)
    · have hne : y ≠ x := fun same => hnew (same ▸ hy)
      exact h.made y hy q other (hawaits.furnish hne request)

/-- One more point that gets its entity, if it waits for one. -/
def spawnNext (acc : Nat × Registry) (x : PointId) : Nat × Registry :=
  match acc.2.spawnPending? x with
  | some made => (acc.1 + 1, made)
  | none => acc

/-- Different points that wait for their entities all get them, and nothing else happens. -/
theorem foldl_spawnNext {ids : List PointId} (hdistinct : ids.Nodup)
    (hawait : ∀ x ∈ ids, ∃ p request, r.Awaits x p request) (n : Nat) :
    (ids.foldl spawnNext (n, r)).1 = n + ids.length ∧
      Furnished r (ids.foldl spawnNext (n, r)).2 ids := by
  induction ids generalizing r n with
  | nil => exact ⟨rfl, .nil r⟩
  | cons x ids ih =>
      obtain ⟨hnew, hdistinct⟩ := List.nodup_cons.mp hdistinct
      obtain ⟨p, request, hx⟩ := hawait x List.mem_cons_self
      have hstep : spawnNext (n, r) x = (n + 1, r.furnish x request) := by
        rw [spawnNext, hx.spawnPending?]
      have hstill : ∀ y ∈ ids, ∃ q other, (r.furnish x request).Awaits y q other := by
        intro y hy
        obtain ⟨q, other, hy'⟩ := hawait y (List.mem_cons_of_mem _ hy)
        have hne : y ≠ x := fun same => hnew (same ▸ hy)
        exact ⟨q, other, hy'.furnish hne request⟩
      obtain ⟨hcount, hmade⟩ := ih hdistinct hstill (n + 1)
      rw [List.foldl_cons, hstep]
      exact ⟨by rw [hcount, List.length_cons]; omega, hmade.cons hx hnew⟩

/-- The points of a grid that wait for their entities. -/
def pendingPoints (r : Registry) (grid : GridId) : List PointId :=
  (r.points.values.filter (fun p => p.grid == grid && p.isPending)).map (·.id)

theorem Planned.mem_pendingPoints (hr : r.Planned) {x : PointId} : x ∈ r.pendingPoints grid ↔
    ∃ p, r.points.get? x = some p ∧ p.grid = grid ∧ p.isPending = true := by
  simp only [pendingPoints, List.mem_map, List.mem_filter, Bool.and_eq_true, beq_iff_eq]
  constructor
  · rintro ⟨p, ⟨hp, hgrid, hpending⟩, rfl⟩
    exact ⟨p, hr.get_of_mem hp, hgrid, hpending⟩
  · rintro ⟨p, hp, hgrid, hpending⟩
    exact ⟨p, ⟨Table.mem_values.mpr ⟨x, hp⟩, hgrid, hpending⟩, hr.points_named hp⟩

theorem Planned.pendingPoints_nodup (hr : r.Planned) (grid : GridId) :
    (r.pendingPoints grid).Nodup :=
  hr.ids_nodup.sublist (List.filter_sublist.map _)

/-- Loading a grid makes just the entities that its points wait for, if all of them can be made. -/
theorem Planned.onGridLoaded_furnished (hr : r.Planned)
    (hawait : ∀ x ∈ r.pendingPoints grid, ∃ p request, r.Awaits x p request) :
    (r.onGridLoaded grid).1 = (r.pendingPoints grid).length ∧
      Furnished r (r.onGridLoaded grid).2 (r.pendingPoints grid) := by
  have hall := foldl_spawnNext (hr.pendingPoints_nodup grid) hawait 0
  rwa [Nat.zero_add] at hall

/-! ## Both, one after the other -/

theorem Reachable.located (hr : Reachable rows allowed r) : r.Located :=
  hr.keep_plan (P := Located) (fun h => load_located h) (fun h hr => h.located hr)

/-- When a grid has been unloaded, its reserved points are those that wait. -/
theorem Planned.mem_pendingPoints_unloaded (hr : r.Planned) {x : PointId} :
    x ∈ (r.unloaded grid).pendingPoints grid ↔
      ∃ p, r.points.get? x = some p ∧ p.grid = grid ∧ p.reservation.isSome = true := by
  rw [(hr.unloaded grid).mem_pendingPoints]
  constructor
  · rintro ⟨q, hq, hgrid, hpending⟩
    rw [Registry.unloaded, Table.get?_map] at hq
    obtain ⟨p, hp, rfl⟩ := Option.map_eq_some_iff.mp hq
    by_cases hp' : p.grid = grid
    · rw [SpawnPoint.unload_of_eq hp', SpawnPoint.isPending, Bool.and_eq_true] at hpending
      exact ⟨p, hp, hp', hpending.1⟩
    · rw [SpawnPoint.unload_of_ne hp'] at hgrid
      exact absurd hgrid hp'
  · rintro ⟨p, hp, hgrid, hheld⟩
    refine ⟨p.detach, ?_, hgrid, ?_⟩
    · rw [get?_unloaded_points hp, SpawnPoint.unload_of_eq hgrid]
    · rw [SpawnPoint.isPending, Bool.and_eq_true]
      exact ⟨hheld, rfl⟩

theorem length_pendingPoints_unloaded (r : Registry) (grid : GridId) :
    ((r.unloaded grid).pendingPoints grid).length =
      r.points.values.countP (fun p => p.grid == grid && p.reservation.isSome) := by
  have hvalues : (r.unloaded grid).points.values =
      r.points.values.map (SpawnPoint.unload grid) := r.points.values_map _
  rw [pendingPoints, List.length_map, ← List.countP_eq_length_filter, hvalues, List.countP_map]
  refine List.countP_congr (fun p _ => ?_)
  by_cases hgrid : p.grid = grid
  · simp [SpawnPoint.unload_of_eq hgrid, SpawnPoint.isPending, SpawnPoint.detach]
  · simp [SpawnPoint.unload_of_ne hgrid, hgrid]

/-- Every reserved point of a loaded grid waits for its entity when the grid has been unloaded. -/
theorem Sound.awaits_unloaded (hr : r.Sound) (hlocated : r.Located)
    (hloaded : r.host.isGridLoaded grid = true) {x : PointId} {p : SpawnPoint}
    {held : Reservation} (hp : r.points.get? x = some p) (hgrid : p.grid = grid)
    (hheld : p.reservation = some held)
    (haccepted : r.host.rejected.contains held.entry = false) :
    ∃ pool candidate, r.forest.get? held.pool = some pool ∧
      pool.candidate? held.entry = some candidate ∧
      (r.unloaded grid).Awaits x p.detach ⟨held.kind, held.pool, x, held.entry, p.position,
        r.patches.resolve p candidate pool.template⟩ := by
  obtain ⟨pool, candidate, hpool, -, hcandidate, -⟩ := hr.leaf_of_held hp hheld
  refine ⟨pool, candidate, hpool, hcandidate, ?_, rfl, ?_, ?_, ?_⟩
  · rw [get?_unloaded_points hp, SpawnPoint.unload_of_eq hgrid]
  · rw [unloaded_host]
    show r.host.isGridLoaded (Region.ofPosition p.position).grid = true
    rw [← (hlocated x p hp).1, hgrid]
    exact hloaded
  · refine (request?_congr (r := r) rfl rfl p.detach).trans ?_
    unfold request?
    rw [show p.detach.reservation = some held from hheld, Option.bind_eq_bind, Option.bind_some,
      hpool, Option.bind_eq_bind, Option.bind_some, hcandidate]
    rw [← hr.points_named hp]
    rfl
  · rw [unloaded_host]
    exact haccepted

/-- The entity of a reserved point has been made from the reservation, with the attributes that the
pools and patches gave it before. -/
def Remade (r s : Registry) (x : PointId) (p : SpawnPoint) (held : Reservation) : Prop :=
  ∃ handle pool candidate,
    r.forest.get? held.pool = some pool ∧ pool.candidate? held.entry = some candidate ∧
    s.points.get? x = some (p.attach handle) ∧
    s.live.get? handle = some ⟨held.kind, held.pool, x, held.entry⟩ ∧
    s.host.entities.get? handle = some ⟨held.kind, held.pool, x, held.entry, p.position,
      r.patches.resolve p candidate pool.template⟩

/-- A registry after one of its grids was unloaded and loaded again: only entities of the grid are
others than before, and every reserved point of the grid has one. -/
structure Regridded (grid : GridId) (r s : Registry) : Prop where
  /-- Pools with their counts, switches and candidates, patches, timers and the random source are
  the same. -/
  rest : s = { r with points := s.points, host := s.host, live := s.live }
  host : s.host = { r.host with
    handles := s.host.handles
    entities := s.host.entities
    destroyed := s.host.destroyed }
  /-- Reservations, patches and remains of all points are the same. -/
  points : r.points.Alike (·.detach) s.points
  inside : ∀ x p held, r.points.get? x = some p → p.grid = grid → p.reservation = some held →
    Remade r s x p held
  outside : ∀ x p, r.points.get? x = some p → p.grid ≠ grid →
    s.points.get? x = some p ∧ ∀ handle, p.entity = some handle →
      s.live.get? handle = r.live.get? handle ∧
      s.host.entities.get? handle = r.host.entities.get? handle
  remains : ∀ x ∈ r.remains, s.host.entities.get? x.handle = r.host.entities.get? x.handle

/-- The entities of a grid are made anew where its points are reserved. -/
theorem Furnished.remade (h : Furnished (r.unloaded grid) s ((r.unloaded grid).pendingPoints grid))
    (hr : r.Sound) (hlocated : r.Located) (hloaded : r.host.isGridLoaded grid = true)
    {x : PointId} {p : SpawnPoint} {held : Reservation} (hp : r.points.get? x = some p)
    (hgrid : p.grid = grid) (hheld : p.reservation = some held)
    (haccepted : r.host.rejected.contains held.entry = false) : Remade r s x p held := by
  obtain ⟨pool, candidate, hpool, hcandidate, hawaits⟩ :=
    hr.awaits_unloaded hlocated hloaded hp hgrid hheld haccepted
  have hpending : x ∈ (r.unloaded grid).pendingPoints grid :=
    hr.mem_pendingPoints_unloaded.mpr ⟨p, hp, hgrid, by rw [hheld]; rfl⟩
  obtain ⟨handle, hpoint, hlive, hentity⟩ := h.made x hpending p.detach _ hawaits
  exact ⟨handle, pool, candidate, hpool, hcandidate, hpoint, hlive, hentity⟩

/-- All other points stay as unloading leaves them. -/
theorem Furnished.get?_points (h : Furnished (r.unloaded grid) s
      ((r.unloaded grid).pendingPoints grid)) (hr : r.Planned) {x : PointId}
    (hfree : ∀ p, r.points.get? x = some p → p.grid = grid → p.reservation = none) :
    s.points.get? x = (r.points.get? x).map (SpawnPoint.unload grid) := by
  rw [h.others x, unloaded, Table.get?_map]
  intro hmem
  obtain ⟨p, hp, hgrid, hheld⟩ := hr.mem_pendingPoints_unloaded.mp hmem
  rw [hfree p hp hgrid] at hheld
  cases hheld

/-- An entity that was there before and is none of the grid is still there. -/
theorem Furnished.keeps (h : Furnished (r.unloaded grid) s ((r.unloaded grid).pendingPoints grid))
    (hdistinct : r.Distinct) {handle : EntityHandle} (hward : handle ∈ r.wards)
    (hstays : handle ∉ r.entitiesIn grid) : s.live.get? handle = r.live.get? handle ∧
      s.host.entities.get? handle = r.host.entities.get? handle := by
  have hissued : (r.unloaded grid).host.handles = r.host.handles := by
    rw [unloaded_host]
  obtain ⟨hlive, hentities⟩ := h.older handle (hissued ▸ hdistinct.issued_lt handle hward)
  rw [hlive, hentities, get?_unloaded_live, get?_unloaded_entities, if_neg hstays, if_neg hstays]
  exact ⟨rfl, rfl⟩

/-- The entities made anew are all that loading adds to what unloading has left. -/
theorem Furnished.regridded (hr : r.Sound) (hdistinct : r.Distinct) (hlocated : r.Located)
    (hloaded : r.host.isGridLoaded grid = true)
    (haccepted : ∀ p ∈ r.points.values, p.grid = grid → ∀ held ∈ p.reservation,
      r.host.rejected.contains held.entry = false)
    (h : Furnished (r.unloaded grid) s ((r.unloaded grid).pendingPoints grid)) :
    Regridded grid r s := by
  have hinside : ∀ x p held, r.points.get? x = some p → p.grid = grid →
      p.reservation = some held → Remade r s x p held := fun x p held hp hgrid hheld =>
    h.remade hr hlocated hloaded hp hgrid hheld
      (haccepted p (Table.mem_values.mpr ⟨x, hp⟩) hgrid held hheld)
  refine ⟨h.rest, ?_, ?_, hinside, ?_, ?_⟩
  · have hhost := h.host
    rw [unloaded_host] at hhost
    rw [hhost]
  · intro x
    by_cases hfree : ∀ p, r.points.get? x = some p → p.grid = grid → p.reservation = none
    · rw [h.get?_points hr.toPlanned hfree, Option.map_map]
      exact Option.map_congr (fun p _ => (SpawnPoint.detach_unload grid p).symm)
    · push Not at hfree
      obtain ⟨p, hp, hgrid, hheld⟩ := hfree
      obtain ⟨held, hheld⟩ := Option.ne_none_iff_exists'.mp hheld
      obtain ⟨handle, -, -, -, -, hpoint, -⟩ := hinside x p held hp hgrid hheld
      rw [hp, hpoint]
      rfl
  · intro x p hp hgrid
    refine ⟨?_, fun handle hentity => h.keeps hdistinct ?_ (hr.not_mem_entitiesIn hp hentity hgrid)⟩
    · have hfree : ∀ q, r.points.get? x = some q → q.grid = grid → q.reservation = none := by
        intro q hq hsame
        obtain rfl := Option.some.inj (hp.symm.trans hq)
        exact absurd hsame hgrid
      rw [h.get?_points hr.toPlanned hfree, hp, Option.map_some, SpawnPoint.unload_of_ne hgrid]
    · obtain ⟨spawn, hlive, -⟩ := hr.tracking.placed hp hentity
      exact mem_wards_of_live hlive
  · intro x hx
    refine (h.keeps hdistinct (mem_wards_of_remains hx) (fun hmem => ?_)).2
    obtain ⟨spawn, hlive⟩ := hr.live_of_entitiesIn hmem
    exact ne_of_wards_nodup hdistinct.nodup hlive hx rfl

/-- Unloading a grid and loading it again loses nothing. Whatever was asked of a registry before, if
the grid is loaded and the host accepts what its points are reserved for, then unloading destroys
just the entities of the grid, switching the grid off and on leaves no trace, and loading makes an
entity for each of its reserved points. -/
theorem Reachable.regrid_lossless (hr : Reachable rows allowed r)
    (hloaded : r.host.isGridLoaded grid = true)
    (haccepted : ∀ p ∈ r.points.values, p.grid = grid → ∀ held ∈ p.reservation,
      r.host.rejected.contains held.entry = false) :
    (r.onGridUnloaded grid).1 =
      r.points.values.countP (fun p => p.grid == grid && p.entity.isSome) ∧
    (∀ x p handle, r.points.get? x = some p → p.grid = grid → p.entity = some handle →
      r.host.entities.contains handle = true ∧
      (r.onGridUnloaded grid).2.host.entities.contains handle = false) ∧
    (r.onGridUnloaded grid).2.host.destroyed = r.host.destroyed + (r.onGridUnloaded grid).1 ∧
    ((r.onGridUnloaded grid).2.host.setGridLoaded grid false).setGridLoaded grid true =
      (r.onGridUnloaded grid).2.host ∧
    ((r.onGridUnloaded grid).2.onGridLoaded grid).1 =
      r.points.values.countP (fun p => p.grid == grid && p.reservation.isSome) ∧
    Regridded grid r ((r.onGridUnloaded grid).2.onGridLoaded grid).2 := by
  have hsound := hr.sound
  have hthere : ∀ handle ∈ r.entitiesIn grid, r.host.entities.contains handle = true := by
    intro handle hmem
    obtain ⟨spawn, hlive⟩ := hsound.live_of_entitiesIn hmem
    exact hr.present handle (mem_wards_of_live hlive)
  have hawait : ∀ x ∈ (r.unloaded grid).pendingPoints grid,
      ∃ p request, (r.unloaded grid).Awaits x p request := by
    intro x hx
    obtain ⟨p, hp, hgrid, hheld⟩ := hsound.mem_pendingPoints_unloaded.mp hx
    obtain ⟨held, hheld⟩ := Option.isSome_iff_exists.mp hheld
    obtain ⟨_, _, -, -, hawaits⟩ := hsound.awaits_unloaded hr.located hloaded hp hgrid hheld
      (haccepted p (Table.mem_values.mpr ⟨x, hp⟩) hgrid held hheld)
    exact ⟨_, _, hawaits⟩
  obtain ⟨hcount, hmade⟩ := (hsound.toPlanned.unloaded grid).onGridLoaded_furnished hawait
  rw [hsound.onGridUnloaded_eq grid]
  refine ⟨r.length_entitiesIn grid, ?_, ?_, ?_, ?_, ?_⟩
  · intro x p handle hp hgrid hentity
    have hmem : handle ∈ r.entitiesIn grid := mem_entitiesIn.mpr ⟨x, p, hp, hgrid, hentity⟩
    refine ⟨hthere handle hmem, ?_⟩
    rw [Table.contains, get?_unloaded_entities, if_pos hmem]
    rfl
  · exact Host.destroyed_destroyAll _ (hsound.entitiesIn_nodup grid) hthere
  · refine Host.setGridLoaded_off_on ?_
    rw [unloaded_host]
    exact hloaded
  · exact hcount.trans (r.length_pendingPoints_unloaded grid)
  · exact hmade.regridded hsound hr.distinct hr.located hloaded haccepted

/-- The two entities of the small map are destroyed with their grid, and two come back. -/
theorem regrid_lossless_camp :
    ((camp.perform (.spawnPool ⟨1⟩ 0)).onGridUnloaded ⟨2080⟩).1 = 2 ∧
    (((camp.perform (.spawnPool ⟨1⟩ 0)).onGridUnloaded ⟨2080⟩).2.onGridLoaded ⟨2080⟩).1 = 2 := by
  have hr : Reachable campRows (fun _ => True) (camp.perform (.spawnPool ⟨1⟩ 0)) :=
    (reachable_camp _).step _ trivial
  have hgrid : (camp.perform (.spawnPool ⟨1⟩ 0)).host.isGridLoaded ⟨2080⟩ = true := by
    decide +kernel
  obtain ⟨hunloaded, -, -, -, hloaded, -⟩ := Reachable.regrid_lossless hr hgrid (by decide +kernel)
  exact ⟨hunloaded.trans (by decide +kernel), hloaded.trans (by decide +kernel)⟩

end Registry

end SpawnForest
