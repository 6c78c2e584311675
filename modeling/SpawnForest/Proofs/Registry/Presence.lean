import SpawnForest.Proofs.Registry.Custody
import SpawnForest.Proofs.Registry.Sparing

/-!
# Entities that are still there

Whatever is reported, and whatever its host had to begin with, a registry sees
to entities that the host has (`Reachable.present`): an entity leaves the host
only when the registry destroys it, and no two entities share a handle. So
clearing remains destroys each of them, once, and no other entity
(`Reachable.clearRemains_destroys`).

The ledger of `Custody` is sharper, since it accounts for every entity of the
host, but it holds only until somebody reports that an entity has left.
-/

namespace SpawnForest

namespace Host

theorem get?_destroy (h : Host) (handle other : EntityHandle) :
    (h.destroy handle).entities.get? other =
      if other = handle then none else h.entities.get? other := by
  by_cases hself : other = handle
  · subst hself
    rw [if_pos rfl]
    exact Option.not_isSome_iff_eq_none.mp (Bool.eq_false_iff.mp (h.contains_destroy_self other))
  · rw [if_neg hself, (h.sameBut_destroy handle).entities other hself]

theorem get?_destroyAll (h : Host) (gone : List EntityHandle) (other : EntityHandle) :
    (gone.foldl destroy h).entities.get? other =
      if other ∈ gone then none else h.entities.get? other := by
  induction gone generalizing h with
  | nil => simp
  | cons handle gone ih =>
      rw [List.foldl_cons, ih, get?_destroy]
      by_cases hlater : other ∈ gone <;> by_cases hself : other = handle <;> simp [hlater, hself]

theorem entities_instantiate? {h h' : Host} {request : SpawnRequest} {handle : EntityHandle}
    (hmade : h.instantiate? request = some (handle, h')) :
    h'.entities = h.entities.insert handle request ∧ h'.destroyed = h.destroyed := by
  unfold instantiate? at hmade
  split at hmade
  · cases hmade
  · obtain ⟨rfl, rfl⟩ := Prod.mk.inj (Option.some.inj hmade)
    exact ⟨rfl, rfl⟩

/-- Entities that are there and have different handles are destroyed one by one. -/
theorem destroyed_destroyAll (h : Host) {gone : List EntityHandle} (hdistinct : gone.Nodup)
    (hthere : ∀ handle ∈ gone, h.entities.contains handle = true) :
    (gone.foldl destroy h).destroyed = h.destroyed + gone.length := by
  induction gone generalizing h with
  | nil => rfl
  | cons handle gone ih =>
      obtain ⟨hnew, hrest⟩ := List.nodup_cons.mp hdistinct
      have hcount : (h.destroy handle).destroyed = h.destroyed + 1 := by
        rw [destroy, if_pos (hthere handle List.mem_cons_self)]
      have hstill : ∀ other ∈ gone, (h.destroy handle).entities.contains other = true := by
        intro other hother
        have hne : other ≠ handle := fun same => hnew (same ▸ hother)
        rw [Table.contains, get?_destroy, if_neg hne]
        exact hthere other (List.mem_cons_of_mem _ hother)
      rw [List.foldl_cons, ih _ hrest hstill, hcount, List.length_cons]
      omega

/-- Destroying entities is all that happens to a host that destroys some. -/
theorem destroyAll_eq (h : Host) (gone : List EntityHandle) :
    gone.foldl destroy h = { h with
      entities := (gone.foldl destroy h).entities
      destroyed := (gone.foldl destroy h).destroyed } := by
  induction gone generalizing h with
  | nil => rfl
  | cons handle gone ih =>
      have hfirst : h.destroy handle = { h with
          entities := (h.destroy handle).entities, destroyed := (h.destroy handle).destroyed } := by
        unfold destroy
        split <;> rfl
      rw [List.foldl_cons]
      refine (ih _).trans ?_
      generalize (gone.foldl destroy (h.destroy handle)).entities = entities
      generalize (gone.foldl destroy (h.destroy handle)).destroyed = destroyed
      rw [hfirst]

end Host

namespace Registry

variable {may : Registry → PoolId → PointId → Prop} {rows : PoolRows}
  {allowed : Operation → Prop} {r s : Registry}

/-! ## Entities on points -/

/-- The entities of different points are different. -/
theorem Sound.entities_nodup (hr : r.Sound) (keep : SpawnPoint → Bool) :
    ((r.points.values.filter keep).filterMap (·.entity)).Nodup := by
  have hids : r.points.values.Pairwise (fun p q => p.id ≠ q.id) :=
    List.pairwise_map.mp hr.ids_nodup
  refine List.pairwise_filterMap.mpr ((hids.filter _).imp_of_mem ?_)
  rintro p q hp hq hne handle hhandle _ hother rfl
  obtain ⟨spawn, hlive, hpoint⟩ :=
    hr.tracking.placed (hr.get_of_mem (List.mem_filter.mp hp).1) hhandle
  exact hne (hpoint.symm.trans
    (hr.tracking.point_eq hlive (hr.get_of_mem (List.mem_filter.mp hq).1) hother))

theorem Sound.live_of_entities (hr : r.Sound) {keep : SpawnPoint → Bool} {handle : EntityHandle}
    (h : handle ∈ (r.points.values.filter keep).filterMap (·.entity)) :
    ∃ spawn, r.live.get? handle = some spawn := by
  obtain ⟨p, hp, hentity⟩ := List.mem_filterMap.mp h
  obtain ⟨spawn, hlive, -⟩ := hr.tracking.placed (hr.get_of_mem (List.mem_filter.mp hp).1) hentity
  exact ⟨spawn, hlive⟩

/-! ## Entities of the host -/

/-- The host has every entity that a registry sees to. -/
def Present (r : Registry) : Prop :=
  ∀ handle ∈ r.wards, r.host.entities.contains handle = true

/-- Some entities are seen to no longer, and the host has lost none but these. -/
theorem Present.of_gone (hp : r.Present) (hr : r.Distinct) {gone : List EntityHandle}
    (hwards : r.wards.Perm (gone ++ s.wards)) (hhost : r.host.SameBut (· ∈ gone) s.host) :
    s.Present := by
  intro handle hmem
  have hapart := (List.nodup_append.mp (hwards.nodup_iff.mp hr.nodup)).2.2
  have hkept : handle ∉ gone := fun hgone => hapart handle hgone handle hmem rfl
  rw [Table.contains, hhost.entities handle hkept]
  exact hp handle (hwards.mem_iff.mpr (List.mem_append_right _ hmem))

theorem Present.of_alike (hp : r.Present) (hlive : s.live = r.live)
    (hpoints : r.points.Alike (·.remains) s.points)
    (hentities : s.host.entities = r.host.entities) : s.Present := by
  intro handle hmem
  rw [hentities]
  exact hp handle (wards_of_alike hlive hpoints ▸ hmem)

/-- A live entity is seen to no longer, whether or not it is destroyed. -/
theorem Present.of_erase (hp : r.Present) (hr : r.Distinct) {handle : EntityHandle}
    {spawn : LiveSpawn} (hlive : r.live.get? handle = some spawn)
    (hgone : s.live = r.live.erase handle) (hpoints : r.points.Alike (·.remains) s.points)
    (hhost : r.host.SameBut (· = handle) s.host) : s.Present := by
  have hwards : r.wards.Perm ([handle] ++ s.wards) := wards_erase hlive hgone hpoints
  refine hp.of_gone hr hwards ⟨hhost.bare, fun other hother => ?_⟩
  exact hhost.entities other (fun same => hother (List.mem_singleton.mpr same))

theorem Present.vacate (hp : r.Present) (hsound : r.Sound) (hr : r.Distinct) {p : SpawnPoint}
    {held : Reservation} (hpoint : r.points.get? p.id = some p)
    (hheld : p.reservation = some held) : (r.vacate p).Present := by
  rw [vacate_eq r hheld]
  have hdestroyed : (r.destroyAt p).Present := by
    rcases r.destroyAt_cases p with ⟨-, h⟩ | ⟨handle, hentity, h⟩
    · rw [h]
      exact hp
    · obtain ⟨spawn, hlive, -⟩ := hsound.tracking.placed hpoint hentity
      rw [h]
      exact hp.of_erase hr hlive rfl (Table.alike_modify (fun _ _ => rfl))
        (r.host.sameBut_destroy handle)
  exact hdestroyed.of_alike rfl (Table.alike_modify (fun _ _ => rfl)) rfl

theorem Present.materialize (hp : r.Present) (hsound : r.Sound) {point : PointId}
    (h : r.materialize? point = some s) : s.Present := by
  rcases materialize?_cases h with rfl | ⟨_, request, handle, host, -, -, -, hmade, rfl⟩
  · exact hp
  · have hnew : r.live.get? handle = none := by
      rw [(instantiate?_eq_some hmade).1]
      exact hsound.tracking.get?_issued
    have hpoints : r.points.Alike (·.remains) (r.points.modify point (·.attach handle)) :=
      Table.alike_modify (fun _ _ => rfl)
    intro other hmem
    show (host.entities.get? other).isSome = true
    rw [(Host.entities_instantiate? hmade).1]
    by_cases hother : other = handle
    · rw [hother, Table.get?_insert_self]
      rfl
    · rw [Table.get?_insert_of_ne _ _ hother]
      rcases List.mem_cons.mp ((wards_insert hnew rfl hpoints).mem_iff.mp hmem) with rfl | hold
      · exact absurd rfl hother
      · exact hp other hold

theorem Change.present (h : Change may r s) (hsound : r.Sound) (hr : r.Distinct)
    (hp : r.Present) : s.Present := by
  cases h with
  | draw random => exact hp
  | schedule timers => exact hp
  | host change => exact hp.of_alike rfl (.refl _ _) (by cases change <;> rfl)
  | activate pool active => exact hp
  | patch scope patch h =>
      rcases applyPatch?_cases h with ⟨_, rfl⟩ | ⟨_, _, _, -, -, rfl⟩ | ⟨_, rfl⟩
      · exact hp
      · exact hp
      · exact hp.of_alike rfl (Table.alike_modify (fun _ _ => by cases patch <;> rfl)) rfl
  | reserve hcandidate hpoint hfree hmay =>
      exact hp.of_alike rfl (Table.alike_modify (fun _ _ => rfl)) rfl
  | materialize point h => exact hp.materialize hsound h
  | withdraw hpoint hheld hentity =>
      exact hp.of_alike rfl (Table.alike_modify (fun _ _ => rfl)) rfl
  | vacate hpoint hheld => exact hp.vacate hsound hr hpoint hheld
  | bury hlive hpoint corpseSecs =>
      have hwards : r.wards.Perm ([] ++ (r.bury _ _ corpseSecs).wards) :=
        (wards_bury hlive hpoint corpseSecs).symm
      exact hp.of_gone hr hwards ⟨rfl, fun _ _ => rfl⟩
  | unlink hlive =>
      exact hp.of_erase hr hlive rfl (Table.alike_modify (fun _ _ => rfl)) ⟨rfl, fun _ _ => rfl⟩
  | unload hlive =>
      exact hp.of_erase hr hlive rfl (Table.alike_modify (fun _ _ => rfl))
        (r.host.sameBut_destroy _)
  | @depart handle spawn p hlive hpoint =>
      have hleft : (r.unlink handle spawn).Present :=
        hp.of_erase hr hlive rfl (Table.alike_modify (fun _ _ => rfl)) ⟨rfl, fun _ _ => rfl⟩
      exact hleft.of_alike rfl (Table.alike_modify (fun _ _ => rfl)) rfl
  | forget hlive hlost => exact hp.of_erase hr hlive rfl (.refl _ _) ⟨rfl, fun _ _ => rfl⟩
  | clear gone =>
      refine hp.of_gone hr (r.wards_clear gone).symm ?_
      have hhost := r.host.sameBut_destroyAll (r.remains.filter gone)
      rw [← (r.clearRemains_eq gone).2.2] at hhost
      refine ⟨hhost.bare, fun handle hkept => hhost.entities handle ?_⟩
      exact fun hgone => hkept (List.mem_map.mpr hgone)

theorem Reachable.present (hr : Reachable rows allowed r) : r.Present := by
  have hboth : r.Distinct ∧ r.Present := by
    refine hr.keep_change (P := fun r => r.Distinct ∧ r.Present) (fun hfresh => ?_)
      (fun _ hsound hboth hchange => ?_)
    · have hnone := hfresh.wards
      exact ⟨⟨hnone ▸ .nil, by simp [hnone]⟩, by simp [Present, hnone]⟩
    · exact ⟨hchange.distinct hsound hboth.1, hchange.present hsound hboth.1 hboth.2⟩
  exact hboth.2

/-- Remains that are cleared are destroyed, each of them once, and no other entity is. -/
theorem Reachable.clearRemains_destroys (hr : Reachable rows allowed r) (gone : Remains → Bool) :
    (∀ x ∈ r.remains, gone x = true → r.host.entities.contains x.handle = true ∧
      (r.clearRemains gone).2.host.entities.contains x.handle = false) ∧
    (∀ handle, (∀ x ∈ r.remains, gone x = true → x.handle ≠ handle) →
      (r.clearRemains gone).2.host.entities.get? handle = r.host.entities.get? handle) ∧
    (r.clearRemains gone).2.host.destroyed = r.host.destroyed + (r.clearRemains gone).1 := by
  obtain ⟨hcount, -, hcleared⟩ := r.clearRemains_eq gone
  have hhost : (r.clearRemains gone).2.host =
      ((r.remains.filter gone).map (·.handle)).foldl Host.destroy r.host := by
    rw [List.foldl_map]
    exact hcleared
  have hthere : ∀ x ∈ r.remains, r.host.entities.contains x.handle = true := fun x hx =>
    hr.present _ (mem_wards_of_remains hx)
  have hdistinct : ((r.remains.filter gone).map (·.handle)).Nodup :=
    (List.nodup_append.mp hr.distinct.nodup).2.1.sublist (List.filter_sublist.map _)
  refine ⟨fun x hx hgone => ⟨hthere x hx, ?_⟩, fun handle hkept => ?_, ?_⟩
  · rw [Table.contains, hhost, Host.get?_destroyAll,
      if_pos (List.mem_map_of_mem (List.mem_filter.mpr ⟨hx, hgone⟩))]
    rfl
  · rw [hhost, Host.get?_destroyAll, if_neg]
    intro hmem
    obtain ⟨x, hx, hsame⟩ := List.mem_map.mp hmem
    exact hkept x (List.mem_filter.mp hx).1 (List.mem_filter.mp hx).2 hsame
  · have hgone : ∀ handle ∈ (r.remains.filter gone).map (·.handle),
        r.host.entities.contains handle = true := by
      intro handle hmem
      obtain ⟨x, hx, rfl⟩ := List.mem_map.mp hmem
      exact hthere x (List.mem_filter.mp hx).1
    rw [hhost, hcount, Host.destroyed_destroyAll _ hdistinct hgone, List.length_map]

end Registry

end SpawnForest
