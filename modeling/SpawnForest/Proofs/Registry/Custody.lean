import SpawnForest.Proofs.Registry.Soundness

/-!
# The entities of the host

A registry sees to the entities that it made: the live ones and the remains.
If nobody reports that one of them has left the world, these are just the
entities that the host has, each of them once (`entities_accounted`).
So no entity is lost sight of, and none is destroyed twice: whatever the
registry destroys is still there, and every handle that was given out belongs
to an entity that is there or that was destroyed.

What the host does is said by itself (`Host.Houses`), for any list of handles;
what a change does to the list is compared with that. Whatever is reported, the
handles of live entities and remains are different ones (`Distinct`).
-/

namespace SpawnForest

namespace Host

/-- The entities of a host are these, each of them once, and all other handles that it gave out
were destroyed. -/
structure Houses (h : Host) (handles : List EntityHandle) : Prop where
  perm : handles.Perm h.entities.keys
  issued_lt : ∀ handle ∈ handles, handle.serial < h.handles.issued
  ledger : h.destroyed + handles.length = h.handles.issued

variable {h h' : Host} {handle : EntityHandle} {handles kept : List EntityHandle}

theorem houses_fresh : fresh.Houses [] := ⟨.nil, nofun, rfl⟩

theorem Houses.of_perm (hh : h.Houses handles) (hperm : kept.Perm handles) : h.Houses kept :=
  ⟨hperm.trans hh.perm, fun x hx => hh.issued_lt x (hperm.mem_iff.mp hx),
    hperm.length_eq ▸ hh.ledger⟩

theorem Houses.nodup (hh : h.Houses handles) : handles.Nodup :=
  hh.perm.nodup_iff.mpr h.entities.keys_nodup

theorem Houses.contains (hh : h.Houses handles) (hmem : handle ∈ handles) :
    h.entities.contains handle = true :=
  Table.mem_keys.mp (hh.perm.mem_iff.mp hmem)

theorem Houses.apply (hh : h.Houses handles) (change : HostChange) :
    (change.apply h).Houses handles := by
  cases change <;> exact ⟨hh.perm, hh.issued_lt, hh.ledger⟩

/-- A new entity has a handle that no other one has. -/
theorem Houses.instantiate? (hh : h.Houses handles) {request : SpawnRequest}
    (hmade : h.instantiate? request = some (handle, h')) : h'.Houses (handle :: handles) := by
  unfold Host.instantiate? at hmade
  split at hmade
  · cases hmade
  · obtain ⟨rfl, rfl⟩ := Prod.mk.inj (Option.some.inj hmade)
    have hnew : h.entities.get? ⟨h.handles.issued⟩ = none := by
      rw [← Option.not_isSome_iff_eq_none]
      intro hsome
      exact Nat.lt_irrefl _ (hh.issued_lt _ (hh.perm.mem_iff.mpr (Table.mem_keys.mpr hsome)))
    refine ⟨?_, ?_, ?_⟩
    · exact (hh.perm.cons _).trans ((Table.insert_perm hnew request).map Prod.fst).symm
    · intro x hx
      rcases List.mem_cons.mp hx with rfl | hx
      · exact Nat.lt_succ_self _
      · exact Nat.lt_succ_of_lt (hh.issued_lt x hx)
    · show h.destroyed + (handles.length + 1) = h.handles.issued + 1
      rw [← hh.ledger, Nat.add_assoc]

/-- An entity that is there is destroyed, and counted as destroyed. -/
theorem Houses.destroy (hh : h.Houses (handle :: handles)) :
    (h.destroy handle).Houses handles ∧ (h.destroy handle).destroyed = h.destroyed + 1 := by
  have hthere := hh.contains List.mem_cons_self
  obtain ⟨request, hrequest⟩ := Option.isSome_iff_exists.mp hthere
  unfold Host.destroy
  rw [if_pos hthere]
  refine ⟨⟨?_, fun x hx => hh.issued_lt x (List.mem_cons_of_mem _ hx), ?_⟩, rfl⟩
  · exact (hh.perm.trans ((Table.erase_perm hrequest).map Prod.fst)).cons_inv
  · rw [← hh.ledger, List.length_cons]
    show h.destroyed + 1 + handles.length = _
    omega

/-- Several entities are destroyed in a row, and all of them are there when it is their turn. -/
theorem Houses.destroyAll {gone : List Remains} (hh : h.Houses (gone.map (·.handle) ++ kept)) :
    (gone.foldl (fun h x => h.destroy x.handle) h).Houses kept ∧
      (gone.foldl (fun h x => h.destroy x.handle) h).destroyed = h.destroyed + gone.length := by
  induction gone generalizing h with
  | nil => exact ⟨hh, rfl⟩
  | cons x gone ih =>
      obtain ⟨hrest, hcount⟩ := Houses.destroy hh
      obtain ⟨hkept, hcounts⟩ := ih hrest
      refine ⟨hkept, hcounts.trans ?_⟩
      rw [hcount, List.length_cons]
      omega

end Host

namespace Registry

variable {may : Registry → PoolId → PointId → Prop} {r s : Registry}

/-- The entities that a registry sees to: the live ones and the remains. -/
def wards (r : Registry) : List EntityHandle := r.live.keys ++ r.remains.map (·.handle)

theorem mem_wards_of_live {handle : EntityHandle} {spawn : LiveSpawn}
    (h : r.live.get? handle = some spawn) : handle ∈ r.wards :=
  List.mem_append_left _ (Table.mem_keys_of_get? h)

theorem mem_wards_of_remains {x : Remains} (h : x ∈ r.remains) : x.handle ∈ r.wards :=
  List.mem_append_right _ (List.mem_map_of_mem h)

/-- Nothing is alive and dead at once. -/
theorem ne_of_wards_nodup (h : r.wards.Nodup) {handle : EntityHandle} {spawn : LiveSpawn}
    (hlive : r.live.get? handle = some spawn) {x : Remains} (hx : x ∈ r.remains) :
    x.handle ≠ handle := by
  have hapart := (List.nodup_append.mp h).2.2
  exact (hapart handle (Table.mem_keys_of_get? hlive) x.handle (List.mem_map_of_mem hx)).symm

/-! ## What changes do to the list -/

theorem remains_of_alike (h : r.points.Alike (·.remains) s.points) : s.remains = r.remains := by
  have hvalues := congrArg Table.values h.map_eq
  rw [Table.values_map, Table.values_map] at hvalues
  rw [remains, remains, List.flatMap_def, List.flatMap_def, hvalues]

theorem wards_of_alike (hlive : s.live = r.live) (h : r.points.Alike (·.remains) s.points) :
    s.wards = r.wards := by
  rw [wards, wards, hlive, remains_of_alike h]

/-- Nothing happens to the list nor to the host. -/
theorem houses_of_alike (hhoused : r.host.Houses r.wards) (hhost : s.host = r.host)
    (hlive : s.live = r.live) (h : r.points.Alike (·.remains) s.points) :
    s.host.Houses s.wards := by
  rw [hhost, wards_of_alike hlive h]
  exact hhoused

theorem wards_erase {handle : EntityHandle} {spawn : LiveSpawn}
    (hlive : r.live.get? handle = some spawn) (hgone : s.live = r.live.erase handle)
    (h : r.points.Alike (·.remains) s.points) : r.wards.Perm (handle :: s.wards) := by
  rw [wards, wards, hgone, remains_of_alike h]
  exact ((Table.erase_perm hlive).map Prod.fst).append_right _

theorem wards_insert {handle : EntityHandle} {spawn : LiveSpawn}
    (hnew : r.live.get? handle = none) (hlive : s.live = r.live.insert handle spawn)
    (h : r.points.Alike (·.remains) s.points) : s.wards.Perm (handle :: r.wards) := by
  rw [wards, wards, hlive, remains_of_alike h]
  exact ((Table.insert_perm hnew spawn).map Prod.fst).append_right _

/-- A death turns a live entity into remains. -/
theorem wards_bury {handle : EntityHandle} {spawn : LiveSpawn} {p : SpawnPoint}
    (hlive : r.live.get? handle = some spawn) (hpoint : r.points.get? spawn.point = some p)
    (corpseSecs : Nat) : (r.bury handle spawn corpseSecs).wards.Perm r.wards := by
  obtain ⟨rest, hbefore, hafter⟩ := Table.values_modify_perm hpoint (fun p =>
    (p.detach.retire ⟨handle, spawn.pool, r.now.plus corpseSecs⟩).release)
  have hdead : (r.bury handle spawn corpseSecs).remains.Perm
      (⟨handle, spawn.pool, r.now.plus corpseSecs⟩ :: r.remains) := by
    refine (hafter.flatMap_right _).trans (.trans ?_ ((hbefore.flatMap_right _).symm.cons _))
    rw [List.flatMap_cons, List.flatMap_cons, ← List.cons_append]
    exact (List.perm_append_singleton _ _).append_right _
  have hgone : r.live.keys.Perm (handle :: (r.bury handle spawn corpseSecs).live.keys) :=
    (Table.erase_perm hlive).map Prod.fst
  refine ((hdead.map Remains.handle).append_left _).trans ?_
  exact List.perm_middle.trans (hgone.symm.append_right _)

/-- What is cleared are the remains that are gone, and the others stay. -/
theorem clearRemains_eq (r : Registry) (gone : Remains → Bool) :
    (r.clearRemains gone).1 = (r.remains.filter gone).length ∧
      (r.clearRemains gone).2.remains = r.remains.filter (fun x => !gone x) ∧
      (r.clearRemains gone).2.host
        = (r.remains.filter gone).foldl (fun h x => h.destroy x.handle) r.host := by
  have hcleared :
      r.points.values.flatMap (fun p => p.remains.filter gone) = r.remains.filter gone :=
    List.filter_flatMap.symm
  refine ⟨congrArg List.length hcleared, ?_, ?_⟩
  · rw [remains, remains, List.filter_flatMap]
    show (r.points.map (fun _ p => p.clear gone)).values.flatMap _ = _
    rw [Table.values_map, List.flatMap_map]
    rfl
  · rw [← hcleared]
    rfl

theorem wards_clear (r : Registry) (gone : Remains → Bool) :
    ((r.remains.filter gone).map (·.handle) ++ (r.clearRemains gone).2.wards).Perm r.wards := by
  have hall : (r.remains.filter gone ++ r.remains.filter (fun x => !gone x)).Perm r.remains :=
    List.filter_append_perm gone r.remains
  rw [wards, (r.clearRemains_eq gone).2.1, wards]
  refine List.perm_append_comm_assoc _ _ _ |>.trans ?_
  rw [← List.map_append]
  exact (hall.map _).append_left _

/-! ## Each change -/

/-- An entity that only leaves its point would be let go. -/
theorem Retains.false_of_left {handle : EntityHandle} {spawn : LiveSpawn} (h : Retains r s)
    (hr : r.Sound) (hhoused : r.host.Houses r.wards) (hlive : r.live.get? handle = some spawn)
    (hgone : s.live = r.live.erase handle) (hpoints : r.points.Alike (·.remains) s.points)
    (hhost : s.host = r.host) : False := by
  obtain ⟨p, hp, -, hheld⟩ := hr.tracking.tracked hlive
  obtain ⟨q, -, hq, -⟩ := hr.candidate_of_held hp hheld
  rcases h handle spawn hlive (Option.isSome_iff_exists.mpr ⟨p, hp⟩)
    (Forest.contains_iff.mpr ⟨q, hq⟩) with hstays | ⟨x, hx, hdead⟩ | hdestroyed
  · rw [hgone, Table.contains, Table.get?_erase_self] at hstays
    cases hstays
  · rw [remains_of_alike hpoints] at hx
    exact ne_of_wards_nodup hhoused.nodup hlive hx hdead
  · rw [hhost, hhoused.contains (mem_wards_of_live hlive)] at hdestroyed
    cases hdestroyed

/-- The entity of a point is a live one, so there is one to be destroyed. -/
theorem houses_destroyAt (hr : r.Sound) (hhoused : r.host.Houses r.wards) {p : SpawnPoint}
    (hp : r.points.get? p.id = some p) :
    (r.destroyAt p).host.Houses (r.destroyAt p).wards ∧
      (r.destroyAt p).host.destroyed = r.host.destroyed + p.entity.isSome.toNat := by
  rcases r.destroyAt_cases p with ⟨hentity, h⟩ | ⟨handle, hentity, h⟩
  · rw [h, hentity]
    exact ⟨hhoused, rfl⟩
  · obtain ⟨spawn, hlive, -⟩ := hr.tracking.placed hp hentity
    have hwards : r.wards.Perm (handle :: (r.destroyAt p).wards) := by
      rw [h]
      exact wards_erase hlive rfl (Table.alike_modify (fun _ _ => rfl))
    rw [hentity, h]
    rw [h] at hwards
    exact (hhoused.of_perm hwards.symm).destroy

theorem Tended.houses (h : Tended may r s) (hr : r.Sound) (hhoused : r.host.Houses r.wards) :
    s.host.Houses s.wards := by
  obtain ⟨change, hretains⟩ := h
  cases change with
  | draw random => exact hhoused
  | schedule timers => exact hhoused
  | host change => exact hhoused.apply change
  | activate pool active => exact hhoused
  | patch scope patch h =>
      rcases applyPatch?_cases h with ⟨_, rfl⟩ | ⟨_, _, _, -, -, rfl⟩ | ⟨point, rfl⟩
      · exact hhoused
      · exact hhoused
      · exact houses_of_alike hhoused rfl rfl
          (Table.alike_modify (fun _ _ => by cases patch <;> rfl))
  | reserve hcandidate hpoint hfree hmay =>
      exact houses_of_alike hhoused rfl rfl (Table.alike_modify (fun _ _ => rfl))
  | materialize point h =>
      rcases materialize?_cases h with rfl | ⟨p, request, handle, host, -, -, -, hmade, rfl⟩
      · exact hhoused
      · have hnew : r.live.get? handle = none := by
          rw [(instantiate?_eq_some hmade).1]
          exact hr.tracking.get?_issued
        exact (hhoused.instantiate? hmade).of_perm
          (wards_insert hnew rfl (Table.alike_modify (fun _ _ => rfl)))
  | withdraw hpoint hheld hentity =>
      exact houses_of_alike hhoused rfl rfl (Table.alike_modify (fun _ _ => rfl))
  | @vacate p held hpoint hheld =>
      rw [vacate_eq r hheld]
      obtain ⟨hdestroyed, -⟩ := houses_destroyAt hr hhoused hpoint
      exact houses_of_alike hdestroyed rfl rfl (Table.alike_modify (fun _ _ => rfl))
  | bury hlive hpoint corpseSecs => exact hhoused.of_perm (wards_bury hlive hpoint corpseSecs)
  | unlink hlive =>
      exact (hretains.false_of_left hr hhoused hlive rfl
        (Table.alike_modify (fun _ _ => rfl)) rfl).elim
  | @unload handle spawn hlive =>
      have hgone : r.wards.Perm (handle :: (r.unlink handle spawn).wards) :=
        wards_erase hlive rfl (Table.alike_modify (fun _ _ => rfl))
      exact (hhoused.of_perm hgone.symm).destroy.1
  | @depart handle spawn p hlive hpoint =>
      have hdetach : r.points.Alike (·.remains) (r.points.modify spawn.point (·.detach)) :=
        Table.alike_modify (fun _ _ => rfl)
      exact (hretains.false_of_left hr hhoused hlive rfl
        (hdetach.trans (Table.alike_modify (fun _ _ => rfl))) rfl).elim
  | forget hlive hlost => exact (hretains.false_of_left hr hhoused hlive rfl (.refl _ _) rfl).elim
  | clear gone =>
      have hcleared := (hhoused.of_perm (r.wards_clear gone)).destroyAll
      rw [(r.clearRemains_eq gone).2.2]
      exact hcleared.1

theorem Fresh.wards (hr : r.Fresh) : r.wards = [] := by
  have hnone : r.remains = [] := by
    rw [remains, List.flatMap_eq_nil_iff]
    intro p hp
    obtain ⟨x, hx⟩ := Table.mem_values.mp hp
    exact (hr.vacant hx).2.2
  rw [Registry.wards, hr.live, hnone]
  rfl

/-! ## Whatever is reported -/

/-- No two entities that a registry sees to have the same handle, and the host gave out all of
them. -/
structure Distinct (r : Registry) : Prop where
  nodup : r.wards.Nodup
  issued_lt : ∀ handle ∈ r.wards, handle.serial < r.host.handles.issued

theorem Distinct.of_subperm (hr : r.Distinct) (hwards : s.wards.Subperm r.wards)
    (hhandles : s.host.handles = r.host.handles) : s.Distinct := by
  refine ⟨?_, fun handle hmem => hhandles ▸ hr.issued_lt handle (hwards.subset hmem)⟩
  obtain ⟨l, hperm, hsub⟩ := hwards
  exact hperm.nodup_iff.mp (hr.nodup.sublist hsub)

theorem Distinct.of_alike (hr : r.Distinct) (hlive : s.live = r.live)
    (hpoints : r.points.Alike (·.remains) s.points) (hhandles : s.host.handles = r.host.handles) :
    s.Distinct :=
  hr.of_subperm (by rw [wards_of_alike hlive hpoints]) hhandles

/-- An entity is seen to no longer. -/
theorem Distinct.of_erase (hr : r.Distinct) {handle : EntityHandle} {spawn : LiveSpawn}
    (hlive : r.live.get? handle = some spawn) (hgone : s.live = r.live.erase handle)
    (hpoints : r.points.Alike (·.remains) s.points) (hhandles : s.host.handles = r.host.handles) :
    s.Distinct := by
  refine hr.of_subperm ?_ hhandles
  exact (List.sublist_cons_self _ _).subperm.trans (wards_erase hlive hgone hpoints).symm.subperm

/-- The next handle is a new one. -/
theorem Distinct.of_new (hr : r.Distinct)
    (hnew : (⟨r.host.handles.issued⟩ : EntityHandle) ∉ r.wards)
    (hwards : s.wards.Perm (⟨r.host.handles.issued⟩ :: r.wards))
    (hissued : s.host.handles.issued = r.host.handles.issued + 1) : s.Distinct := by
  refine ⟨hwards.nodup_iff.mpr (List.nodup_cons.mpr ⟨hnew, hr.nodup⟩), fun handle hmem => ?_⟩
  rw [hissued]
  rcases List.mem_cons.mp (hwards.mem_iff.mp hmem) with rfl | hmem
  · exact Nat.lt_succ_self _
  · exact Nat.lt_succ_of_lt (hr.issued_lt handle hmem)

theorem Change.distinct (h : Change may r s)
    (hr : r.Sound) (hdistinct : r.Distinct) : s.Distinct := by
  cases h with
  | draw random => exact hdistinct.of_alike rfl (.refl _ _) rfl
  | schedule timers => exact hdistinct.of_alike rfl (.refl _ _) rfl
  | host change => exact hdistinct.of_alike rfl (.refl _ _) (hostChange_issued _ change)
  | activate pool active => exact hdistinct.of_alike rfl (.refl _ _) rfl
  | patch scope patch h =>
      rcases applyPatch?_cases h with ⟨_, rfl⟩ | ⟨_, _, _, -, -, rfl⟩ | ⟨_, rfl⟩
      · exact hdistinct.of_alike rfl (.refl _ _) rfl
      · exact hdistinct.of_alike rfl (.refl _ _) rfl
      · exact hdistinct.of_alike rfl (Table.alike_modify (fun _ _ => by cases patch <;> rfl)) rfl
  | reserve hcandidate hpoint hfree hmay =>
      exact hdistinct.of_alike rfl (Table.alike_modify (fun _ _ => rfl)) rfl
  | materialize point h =>
      rcases materialize?_cases h with rfl | ⟨_, request, handle, host, -, -, -, hmade, rfl⟩
      · exact hdistinct
      · obtain ⟨rfl, hissued⟩ := instantiate?_eq_some hmade
        have hnew : (⟨r.host.handles.issued⟩ : EntityHandle) ∉ r.wards := fun hmem =>
          Nat.lt_irrefl _ (hdistinct.issued_lt _ hmem)
        exact hdistinct.of_new hnew (wards_insert hr.tracking.get?_issued rfl
          (Table.alike_modify (fun _ _ => rfl))) hissued
  | withdraw hpoint hheld hentity =>
      exact hdistinct.of_alike rfl (Table.alike_modify (fun _ _ => rfl)) rfl
  | @vacate p held hpoint hheld =>
      rw [vacate_eq r hheld]
      have hdestroyed : (r.destroyAt p).Distinct := by
        rcases r.destroyAt_cases p with ⟨-, h⟩ | ⟨handle, hentity, h⟩
        · rw [h]
          exact hdistinct
        · obtain ⟨spawn, hlive, -⟩ := hr.tracking.placed hpoint hentity
          rw [h]
          exact hdistinct.of_erase hlive rfl (Table.alike_modify (fun _ _ => rfl))
            (destroy_issued r.host handle)
      exact hdestroyed.of_alike rfl (Table.alike_modify (fun _ _ => rfl)) rfl
  | bury hlive hpoint corpseSecs =>
      exact hdistinct.of_subperm (wards_bury hlive hpoint corpseSecs).subperm rfl
  | unlink hlive => exact hdistinct.of_erase hlive rfl (Table.alike_modify (fun _ _ => rfl)) rfl
  | unload hlive =>
      exact hdistinct.of_erase hlive rfl (Table.alike_modify (fun _ _ => rfl))
        (destroy_issued r.host _)
  | @depart handle spawn p hlive hpoint =>
      have hleft : (r.unlink handle spawn).Distinct :=
        hdistinct.of_erase hlive rfl (Table.alike_modify (fun _ _ => rfl)) rfl
      exact hleft.of_alike rfl (Table.alike_modify (fun _ _ => rfl)) rfl
  | forget hlive hlost => exact hdistinct.of_erase hlive rfl (.refl _ _) rfl
  | clear gone =>
      refine hdistinct.of_subperm ?_ (r.clearRemains_handles gone)
      exact (List.sublist_append_right _ _).subperm.trans (r.wards_clear gone).subperm

theorem Reachable.distinct {rows : PoolRows} {allowed : Operation → Prop}
    (hr : Reachable rows allowed r) : r.Distinct := by
  refine hr.keep_change (fun hfresh => ?_) (fun _ hsound hr hchange => hchange.distinct hsound hr)
  have hnone := hfresh.wards
  exact ⟨hnone ▸ .nil, by simp [hnone]⟩

/-! ## Runs -/

/-- A registry that keeps its entities and is sound otherwise. -/
structure Custody (r : Registry) : Prop extends Sound r where
  houses : r.host.Houses r.wards

theorem TendedSteps.custody (h : TendedSteps may r s) (hr : r.Custody) : s.Custody :=
  h.keep (fun tended hr => ⟨tended.change.sound hr.toSound, tended.houses hr.toSound hr.houses⟩) hr

theorem Custody.performAll (hr : r.Custody) {ops : List Operation}
    (hops : ∀ op ∈ ops, op.isDespawn = false) : (ops.foldl perform r).Custody :=
  List.foldlRecOn ops perform (motive := Custody) hr (fun _ hs op hop =>
    (perform_tended hs.toPlanned (hops op hop)).custody hs)

theorem houses_hostChanges (before : List HostChange) :
    (before.foldl HostChange.apply .fresh).Houses [] :=
  List.foldlRecOn before HostChange.apply (motive := fun h => h.Houses []) Host.houses_fresh
    (fun _ hh change _ => hh.apply change)

/-- A loaded registry has no entities, and its host has none either. -/
theorem load_custody {map : MapId} {rows : PoolRows} {before : List HostChange}
    {config : RegistryConfig} {r : Registry}
    (h : load map rows (before.foldl HostChange.apply .fresh) config = .ok r) : r.Custody := by
  have hfresh := (load_fresh h).fresh
  refine ⟨hfresh.sound, ?_⟩
  rw [load_host h, hfresh.wards]
  exact houses_hostChanges before

/-- The ledger of entities. A registry that was loaded over a fresh host, and to which no entity was
reported gone, accounts for its host: the entities of the host are the live ones and the remains,
each of them once, and every handle given out belongs to one of them or was destroyed. Any further
operation is a run of changes before each of which this holds as well, so that there is an entity to
be destroyed wherever one is: at a point that is freed with its entity, for a live entity that is
unloaded, and for all remains that are cleared. -/
theorem entities_accounted {map : MapId} {rows : PoolRows} {before : List HostChange}
    {config : RegistryConfig} {r : Registry} {ops : List Operation}
    (hload : load map rows (before.foldl HostChange.apply .fresh) config = .ok r)
    (hops : ∀ op ∈ ops, op.isDespawn = false) :
    (ops.foldl perform r).wards.Nodup ∧
    (∀ handle, (ops.foldl perform r).host.entities.contains handle = true ↔
      handle ∈ (ops.foldl perform r).wards) ∧
    (ops.foldl perform r).host.destroyed + (ops.foldl perform r).host.entities.size
      = (ops.foldl perform r).host.handles.issued ∧
    ∀ op, op.isDespawn = false →
      TendedSteps (MayReserve op) (ops.foldl perform r) ((ops.foldl perform r).perform op) ∧
      ∀ s, TendedSteps (MayReserve op) (ops.foldl perform r) s →
        (∀ p, s.points.get? p.id = some p →
          (s.destroyAt p).host.destroyed = s.host.destroyed + p.entity.isSome.toNat) ∧
        (∀ handle spawn, s.live.get? handle = some spawn →
          (s.host.destroy handle).destroyed = s.host.destroyed + 1) ∧
        ∀ gone, (s.clearRemains gone).2.host.destroyed
          = s.host.destroyed + (s.clearRemains gone).1 := by
  have hcustody := (load_custody hload).performAll hops
  have hhouses := hcustody.houses
  refine ⟨hhouses.nodup, fun handle => ?_, ?_, fun op hop =>
    ⟨perform_tended hcustody.toPlanned hop, fun s hsteps => ?_⟩⟩
  · rw [hhouses.perm.mem_iff, Table.mem_keys]
    rfl
  · rw [← hhouses.ledger, hhouses.perm.length_eq, Table.keys, List.length_map]
    rfl
  · have hs := hsteps.custody hcustody
    refine ⟨fun p hp => (houses_destroyAt hs.toSound hs.houses hp).2, ?_, ?_⟩
    · intro handle spawn hlive
      have hwards : s.wards.Perm (handle :: (s.unlink handle spawn).wards) :=
        wards_erase hlive rfl (Table.alike_modify (fun _ _ => rfl))
      exact (hs.houses.of_perm hwards.symm).destroy.2
    · intro gone
      obtain ⟨hcount, -, hhost⟩ := s.clearRemains_eq gone
      rw [hcount, hhost]
      exact (hs.houses.of_perm (s.wards_clear gone)).destroyAll.2

/-- A day in the small map: two entities are spawned, one of them dies and has a successor, and its
remains are cleared in time. -/
def campDay : List Operation :=
  [.spawnPool ⟨1⟩ 0, .handleDeath ⟨0⟩ false, .host (.advance 1000000), .expireRemains, .respawnDue]

/-- Of three handles given out in a day, one is the one of an entity that was destroyed. -/
theorem entities_accounted_camp :
    (campDay.foldl perform camp).host.handles.issued = 3 ∧
      (campDay.foldl perform camp).host.destroyed = 1 ∧
      (campDay.foldl perform camp).host.destroyed + (campDay.foldl perform camp).host.entities.size
        = (campDay.foldl perform camp).host.handles.issued := by
  refine ⟨by decide +kernel, by decide +kernel, ?_⟩
  have hcamp : load default campRows ([].foldl HostChange.apply .fresh) default = .ok camp := rfl
  exact (entities_accounted hcamp (by decide)).2.2.1

end Registry

end SpawnForest
