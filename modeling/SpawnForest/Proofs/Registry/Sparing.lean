import SpawnForest.Proofs.Registry.Custody
import SpawnForest.Proofs.Registry.Roots
import SpawnForest.Proofs.Registry.Supply
import SpawnForest.Proofs.Registry.TimerWrites

/-!
# What changes spare

Some pools of a registry are taken for home, whole hierarchies of them, and the
others are away. `Spares` says of two registries that they differ in nothing
that belongs to a pool away from home: such pools are the same, they hold the
same points with the same entities, their remains, live entities and timers are
the same, and no free point of theirs has been taken. What belongs to no pool
at all is the same as well, but for the random source and the handles.

A change is confined to the home pools if all of them that it names are home,
and then it spares the others (`Confined`). Since the tables are shared, this
rests on what a sound registry knows about them: the entity of a point was
spawned for what the point is reserved for, a new handle is not in use, and a
timer names the root of its pool. `Parted` collects it, and every confined
change keeps it.
-/

namespace SpawnForest

/-! ## Home and away -/

/-- Hierarchies are home or away as a whole. -/
def Forest.Unsplit (f : Forest) (home : PoolId → Bool) : Prop :=
  ∀ a b, b ∈ f.subtree a → home b = home a

/-- Gains and losses of home pools are not counted away from home. -/
theorem Forest.Unsplit.get?_adjust {f : Forest} {home : PoolId → Bool} (h : f.Unsplit home)
    (hf : f.WellLinked) {pool id : PoolId} (hpool : home pool = true) (hid : home id = false)
    (delta : Int) : (f.adjust pool delta false).get? id = f.get? id := by
  cases hknown : f.contains pool with
  | false => rw [adjust, hknown, if_neg Bool.false_ne_true]
  | true =>
      refine hf.get?_adjust_of_not_below hknown (fun hbelow => ?_) delta
      rw [h id pool hbelow, hid] at hpool
      cases hpool

/-- What a point shows to pools away from home: a reservation for one of them with its entity, and
their remains. -/
def SpawnPoint.away (home : PoolId → Bool) (p : SpawnPoint) : SpawnPoint :=
  let held := p.reservation.filter (fun held => !home held.pool)
  { p with
    reservation := held
    entity := held.bind (fun _ => p.entity)
    remains := p.remains.filter (fun x => !home x.pool) }

/-- Remains of home pools are not missed away from home. -/
theorem SpawnPoint.away_clear {home : PoolId → Bool} {gone : Remains → Bool}
    (hgone : ∀ x, gone x = true → home x.pool = true) (p : SpawnPoint) :
    (p.clear gone).away home = p.away home := by
  have hkept : ∀ x ∈ p.remains, (!home x.pool && !gone x) = !home x.pool := by
    intro x _
    cases hgoes : gone x with
    | false => simp
    | true => simp [hgone x hgoes]
  rw [away, clear, List.filter_filter, List.filter_congr hkept]
  rfl

/-- The scans of a schedule, without its timers. -/
def Schedule.scans (s : Schedule) : Schedule :=
  { s with creatures := .empty, gameObjects := .empty }

theorem Schedule.scans_setIndex (s : Schedule) (kind : SpawnKind) (x : TimerIndex) :
    (s.setIndex kind x).scans = s.scans := by
  cases kind <;> rfl

/-- A host without its entities and all that counts them. -/
def Host.bare (h : Host) : Host := { h with handles := ⟨0⟩, entities := .empty, destroyed := 0 }

/-- Two hosts differ in some entities and in counts only. -/
structure Host.SameBut (touched : EntityHandle → Prop) (h h' : Host) : Prop where
  bare : h'.bare = h.bare
  entities : ∀ handle, ¬touched handle → h'.entities.get? handle = h.entities.get? handle

theorem Host.sameBut_instantiate? {h h' : Host} {request : SpawnRequest} {handle : EntityHandle}
    (hmade : h.instantiate? request = some (handle, h')) : h.SameBut (· = handle) h' := by
  unfold Host.instantiate? at hmade
  split at hmade
  · cases hmade
  · obtain ⟨rfl, rfl⟩ := Prod.mk.inj (Option.some.inj hmade)
    exact ⟨rfl, fun _ hne => Table.get?_insert_of_ne _ _ hne⟩

theorem Host.sameBut_destroy (h : Host) (handle : EntityHandle) :
    h.SameBut (· = handle) (h.destroy handle) := by
  unfold Host.destroy
  split
  · exact ⟨rfl, fun _ hne => Table.get?_erase_of_ne _ hne⟩
  · exact ⟨rfl, fun _ _ => rfl⟩

theorem Host.sameBut_destroyAll (h : Host) (gone : List Remains) :
    h.SameBut (fun handle => ∃ x ∈ gone, x.handle = handle)
      (gone.foldl (fun h x => h.destroy x.handle) h) := by
  refine List.foldlRecOn gone _ (motive := fun h' =>
    h.SameBut (fun handle => ∃ x ∈ gone, x.handle = handle) h') ⟨rfl, fun _ _ => rfl⟩ ?_
  intro h' hsame x hx
  have hdestroyed := h'.sameBut_destroy x.handle
  refine ⟨hdestroyed.bare.trans hsame.bare, fun handle hnone => ?_⟩
  rw [hdestroyed.entities handle (fun same => hnone ⟨x, hx, same.symm⟩),
    hsame.entities handle hnone]

namespace Registry

variable {home : PoolId → Bool} {r s t : Registry}

/-- What belongs to no pool: how the map is set up, the clock and the refusals of the host, and the
times of the last scans. -/
def setting (r : Registry) : Registry :=
  { r with
    host := r.host.bare
    random := .ofSeed 0
    forest := .empty
    points := .empty
    timers := r.timers.scans
    live := .empty }

/-- The live entities of the pools away from home. -/
def liveAway (home : PoolId → Bool) (r : Registry) : Table EntityHandle LiveSpawn :=
  r.live.filter (fun _ spawn => !home spawn.pool)

/-- The registry sees to an entity of one of some pools, alive or dead. -/
def Tends (r : Registry) (mine : PoolId → Bool) (handle : EntityHandle) : Prop :=
  (∃ spawn, r.live.get? handle = some spawn ∧ mine spawn.pool = true) ∨
    ∃ x ∈ r.remains, x.handle = handle ∧ mine x.pool = true

theorem Tends.mem_wards {mine : PoolId → Bool} {handle : EntityHandle} (h : r.Tends mine handle) :
    handle ∈ r.wards := by
  rcases h with ⟨spawn, hlive, -⟩ | ⟨x, hx, rfl, -⟩
  · exact mem_wards_of_live hlive
  · exact mem_wards_of_remains hx

/-- An entity of a pool away from home is not one of a home pool as well. -/
theorem Distinct.not_tends (hr : r.Distinct) {handle : EntityHandle}
    (h : r.Tends (fun id => !home id) handle) : ¬r.Tends home handle := by
  have hdead : (r.remains.map (·.handle)).Nodup := (List.nodup_append.mp hr.nodup).2.1
  intro hhome
  rcases h with ⟨spawn, hlive, haway⟩ | ⟨x, hx, rfl, haway⟩
  · rcases hhome with ⟨known, hknown, hmine⟩ | ⟨y, hy, hself, -⟩
    · obtain rfl := Option.some.inj (hlive.symm.trans hknown)
      simp [hmine] at haway
    · exact ne_of_wards_nodup hr.nodup hlive hy hself
  · rcases hhome with ⟨known, hknown, -⟩ | ⟨y, hy, hself, hmine⟩
    · exact ne_of_wards_nodup hr.nodup hknown hx rfl
    · obtain rfl := List.inj_on_of_nodup_map hdead hy hx hself
      simp [hmine] at haway

/-- From `r` to `s` nothing has changed that belongs to a pool away from home. -/
structure Spares (home : PoolId → Bool) (r s : Registry) : Prop where
  setting : s.setting = r.setting
  /-- The pools themselves, their counts and switches included. -/
  pools : ∀ id, home id = false → s.forest.get? id = r.forest.get? id
  /-- Their reservations, the entities on these, and their remains. -/
  points : r.points.Alike (·.away home) s.points
  free : ∀ id, home id = false → ∀ x ∈ r.forest.assigned id, freeAt r.points x = true →
    freeAt s.points x = true
  live : s.liveAway home = r.liveAway home
  timers : ∀ kind key, home key.1 = false → s.timers.get? kind key = r.timers.get? kind key
  issued : r.host.handles.issued ≤ s.host.handles.issued
  /-- The home pools come by new entities only. -/
  tends : ∀ handle, s.Tends home handle →
    r.Tends home handle ∨ r.host.handles.issued ≤ handle.serial
  /-- Of the entities that the host had, it has all that are not those of the home pools. -/
  entities : ∀ handle, handle.serial < r.host.handles.issued → ¬r.Tends home handle →
    s.host.entities.get? handle = r.host.entities.get? handle

theorem Tends.of_subset {mine : PoolId → Bool} {handle : EntityHandle} (h : s.Tends mine handle)
    (hlive : ∀ spawn, s.live.get? handle = some spawn → r.live.get? handle = some spawn)
    (hremains : ∀ x ∈ s.remains, x ∈ r.remains) : r.Tends mine handle := by
  rcases h with ⟨spawn, hspawn, hmine⟩ | ⟨x, hx, hmine⟩
  · exact .inl ⟨spawn, hlive spawn hspawn, hmine⟩
  · exact .inr ⟨x, hremains x hx, hmine⟩

theorem Tends.of_alike {mine : PoolId → Bool} {handle : EntityHandle} (h : s.Tends mine handle)
    (hlive : ∀ spawn, s.live.get? handle = some spawn → r.live.get? handle = some spawn)
    (hpoints : r.points.Alike (·.remains) s.points) : r.Tends mine handle := by
  refine h.of_subset hlive (fun x hx => ?_)
  rwa [← remains_of_alike hpoints]

namespace Spares

theorem refl (home : PoolId → Bool) (r : Registry) : Spares home r r where
  setting := rfl
  pools _ _ := rfl
  points := .refl _ _
  free _ _ _ _ hfree := hfree
  live := rfl
  timers _ _ _ := rfl
  issued := Nat.le_refl _
  tends _ h := .inl h
  entities _ _ _ := rfl

theorem trans (hrs : Spares home r s) (hst : Spares home s t) : Spares home r t where
  setting := hst.setting.trans hrs.setting
  pools id hid := (hst.pools id hid).trans (hrs.pools id hid)
  points := hrs.points.trans hst.points
  free id hid x hx hfree := by
    have hsame : s.forest.assigned id = r.forest.assigned id := by
      rw [Forest.assigned, Forest.assigned, hrs.pools id hid]
    exact hst.free id hid x (hsame ▸ hx) (hrs.free id hid x hx hfree)
  live := hst.live.trans hrs.live
  timers kind key hkey := (hst.timers kind key hkey).trans (hrs.timers kind key hkey)
  issued := Nat.le_trans hrs.issued hst.issued
  tends handle h := by
    rcases hst.tends handle h with h | hnew
    · exact hrs.tends handle h
    · exact .inr (Nat.le_trans hrs.issued hnew)
  entities handle hold hnone := by
    have hstill : ¬s.Tends home handle := fun h => by
      rcases hrs.tends handle h with h | hnew
      · exact hnone h
      · exact Nat.not_lt.mpr hnew hold
    rw [hst.entities handle (Nat.lt_of_lt_of_le hold hrs.issued) hstill,
      hrs.entities handle hold hnone]

end Spares

/-! ## Registries with parted hierarchies -/

/-- A sound registry whose hierarchies are home or away as a whole, and whose timers are genuine. -/
structure Parted (home : PoolId → Bool) (r : Registry) : Prop extends Sound r where
  rooted : r.forest.Rooted
  coherent : r.timers.Coherent
  genuine : ∀ {kind key t}, r.timers.get? kind key = some t → r.Genuine t
  unsplit : r.forest.Unsplit home

/-- The entity of a point was spawned for what the point is reserved for. -/
theorem Parted.spawned_at (hr : r.Parted home) {x : PointId} {p : SpawnPoint}
    {handle : EntityHandle} {held : Reservation} (hp : r.points.get? x = some p)
    (hentity : p.entity = some handle) (hheld : p.reservation = some held) :
    ∃ spawn, r.live.get? handle = some spawn ∧ spawn.point = x ∧ spawn.pool = held.pool := by
  obtain ⟨spawn, hlive, rfl⟩ := hr.tracking.placed hp hentity
  obtain ⟨q, hq, -, hsame⟩ := hr.tracking.tracked hlive
  obtain rfl := Option.some.inj (hp.symm.trans hq)
  obtain rfl := Option.some.inj (hheld.symm.trans hsame)
  exact ⟨spawn, hlive, rfl, rfl⟩

/-- After a death there are the remains that were there before, and those of the dead. -/
theorem mem_remains_bury {handle : EntityHandle} {spawn : LiveSpawn} {corpseSecs : Nat}
    {x : Remains} (hx : x ∈ (r.bury handle spawn corpseSecs).remains) :
    x ∈ r.remains ∨ x = ⟨handle, spawn.pool, r.now.plus corpseSecs⟩ := by
  obtain ⟨id, q, hq, hx⟩ := mem_remains.mp hx
  rcases Table.get?_modify_cases hq with ⟨rfl, p, hp, rfl⟩ | ⟨-, hq⟩
  · rcases List.mem_append.mp hx with hx | hx
    · exact .inl (mem_remains.mpr ⟨_, p, hp, hx⟩)
    · exact .inr (List.mem_singleton.mp hx)
  · exact .inl (mem_remains.mpr ⟨id, q, hq, hx⟩)

/-- The reservation of the point of a live entity. -/
theorem Parted.away_of_live (hr : r.Parted home) {handle : EntityHandle} {spawn : LiveSpawn}
    (hlive : r.live.get? handle = some spawn) (hhome : home spawn.pool = true) {p : SpawnPoint}
    (hp : r.points.get? spawn.point = some p) :
    p.reservation.filter (fun held => !home held.pool) = none := by
  obtain ⟨q, hq, -, hheld⟩ := hr.tracking.tracked hlive
  obtain rfl := Option.some.inj (hp.symm.trans hq)
  simp [hheld, LiveSpawn.reservation, hhome]

theorem liveAway_erase {handle : EntityHandle} {spawn : LiveSpawn}
    (hlive : r.live.get? handle = some spawn) (hhome : home spawn.pool = true)
    (hs : s.live = r.live.erase handle) : s.liveAway home = r.liveAway home := by
  refine Table.ext_get? (fun other => ?_)
  rw [liveAway, liveAway, hs, Table.get?_filter, Table.get?_filter]
  by_cases hself : other = handle
  · rw [hself, hlive, Table.get?_erase_self]
    simp [Option.filter_some, hhome]
  · rw [Table.get?_erase_of_ne _ hself]

theorem liveAway_insert {handle : EntityHandle} {spawn : LiveSpawn}
    (hnew : r.live.get? handle = none) (hhome : home spawn.pool = true)
    (hs : s.live = r.live.insert handle spawn) : s.liveAway home = r.liveAway home := by
  refine Table.ext_get? (fun other => ?_)
  rw [liveAway, liveAway, hs, Table.get?_filter, Table.get?_filter]
  by_cases hself : other = handle
  · rw [hself, hnew, Table.get?_insert_self]
    simp [Option.filter_some, hhome]
  · rw [Table.get?_insert_of_ne _ _ hself]

namespace Spares

/-! ## Each change -/

theorem draw (r : Registry) (g : Pcg) : Spares home r { r with random := g } :=
  { refl home r with }

theorem schedule {timers : Schedule} (hscans : timers.scans = r.timers.scans)
    (htimers : ∀ kind key, home key.1 = false → timers.get? kind key = r.timers.get? kind key) :
    Spares home r { r with timers := timers } :=
  { refl home r with
    setting := by
      rw [Registry.setting, Registry.setting, ← hscans]
    timers := htimers }

theorem activate {pool : PoolId} (hpool : home pool = true) (change : Pool → Pool) :
    Spares home r { r with forest := r.forest.modify pool change } :=
  { refl home r with
    pools := by
      intro id hid
      have hne : id ≠ pool := by
        rintro rfl
        rw [hid] at hpool
        cases hpool
      exact Table.get?_modify_of_ne hne }

/-- A home pool takes a point or gives it back, and is counted. -/
theorem rereserve (hlinked : r.forest.WellLinked) (hunsplit : r.forest.Unsplit home) {x : PointId}
    {change : SpawnPoint → SpawnPoint} {pool : PoolId} (hpool : home pool = true) (delta : Int)
    (haway : ∀ p, r.points.get? x = some p → (change p).away home = p.away home)
    (hremains : ∀ p, (change p).remains = p.remains)
    (hfree : ∀ id, home id = false → x ∈ r.forest.assigned id →
      ∀ p, p.reservation = none → (change p).reservation = none) :
    Spares home r { r.modifyPoint x change with forest := r.forest.adjust pool delta false } :=
  { refl home r with
    pools := fun _ hid => hunsplit.get?_adjust hlinked hpool hid delta
    points := Table.alike_modify haway
    free := fun id hid _ hy hbefore => freeAt_modify (fun same => hfree id hid (same ▸ hy)) hbefore
    tends := fun _ h => .inl (h.of_alike (fun _ hlive => hlive)
      (Table.alike_modify (fun p _ => hremains p))) }

theorem reserve (hr : r.Parted home) {x : PointId} {p : SpawnPoint} {held : Reservation}
    (hp : r.points.get? x = some p) (hfree : p.reservation = none)
    (hhome : home held.pool = true) (hours : ∀ id, home id = false → x ∉ r.forest.assigned id) :
    Spares home r (r.reserve x held) := by
  refine rereserve hr.linked hr.unsplit hhome 1 (fun q hq => ?_) (fun _ => rfl)
    (fun id hid hx => absurd hx (hours id hid))
  obtain rfl := Option.some.inj (hp.symm.trans hq)
  simp [SpawnPoint.away, SpawnPoint.reserve, hfree, hhome]

theorem release (hlinked : r.forest.WellLinked) (hunsplit : r.forest.Unsplit home) {x : PointId}
    {p : SpawnPoint} {held : Reservation} (hp : r.points.get? x = some p)
    (hheld : p.reservation = some held) (hhome : home held.pool = true) :
    Spares home r (r.release x held.pool) := by
  refine rereserve hlinked hunsplit hhome (-1) (fun q hq => ?_) (fun _ => rfl)
    (fun _ _ _ _ _ => rfl)
  obtain rfl := Option.some.inj (hp.symm.trans hq)
  simp [SpawnPoint.away, SpawnPoint.release, hheld, Option.filter_some, hhome]

/-- A new entity has a handle of its own, and it belongs to the pool that its point is reserved
for. -/
theorem materialize (hr : r.Parted home) {x : PointId} {p : SpawnPoint} {held : Reservation}
    (hp : r.points.get? x = some p) (hheld : p.reservation = some held)
    (hhome : home held.pool = true) (h : r.materialize? x = some s) : Spares home r s := by
  rcases materialize?_cases h with rfl | ⟨q, request, handle, host, hq, -, hrequest, hmade, rfl⟩
  · exact refl home s
  obtain rfl := Option.some.inj (hp.symm.trans hq)
  obtain ⟨_, _, hsame, -, -, -⟩ := request?_eq_some hrequest
  obtain rfl := Option.some.inj (hheld.symm.trans hsame)
  obtain ⟨rfl, hissued⟩ := instantiate?_eq_some hmade
  have hhost := Host.sameBut_instantiate? hmade
  exact { refl home r with
    setting := by
      rw [Registry.setting, Registry.setting, ← hhost.bare]
    points := Table.alike_modify (fun q hq => by
      obtain rfl := Option.some.inj (hp.symm.trans hq)
      simp [SpawnPoint.away, SpawnPoint.attach, hheld, Option.filter_some, hhome])
    free := fun _ _ _ _ hfree => freeAt_modify (fun _ _ h => h) hfree
    live := liveAway_insert hr.tracking.get?_issued hhome rfl
    issued := Nat.le_of_lt (hissued ▸ Nat.lt_succ_self _)
    tends := fun other h => by
      by_cases hself : other = ⟨r.host.handles.issued⟩
      · exact .inr (hself ▸ Nat.le_refl _)
      · refine .inl (h.of_alike (fun spawn hspawn => ?_) (Table.alike_modify (fun _ _ => rfl)))
        rwa [← Table.get?_insert_of_ne r.live _ hself]
    entities := fun other hold _ => hhost.entities other (fun same => by
      rw [same] at hold
      exact Nat.lt_irrefl _ hold) }

theorem unlink (hr : r.Parted home) {handle : EntityHandle} {spawn : LiveSpawn}
    (hlive : r.live.get? handle = some spawn) (hhome : home spawn.pool = true) :
    Spares home r (r.unlink handle spawn) :=
  { refl home r with
    points := Table.alike_modify (fun p hp => by
      simp [SpawnPoint.away, SpawnPoint.detach, hr.away_of_live hlive hhome hp])
    free := fun _ _ _ _ hfree => freeAt_modify (fun _ _ h => h) hfree
    live := liveAway_erase hlive hhome rfl
    tends := fun other h => .inl (h.of_alike
      (fun _ hother => (Table.get?_erase_cases hother).2) (Table.alike_modify (fun _ _ => rfl))) }

/-- An entity leaves its point and is destroyed. -/
theorem unload (hr : r.Parted home) {handle : EntityHandle} {spawn : LiveSpawn}
    (hlive : r.live.get? handle = some spawn) (hhome : home spawn.pool = true) :
    Spares home r { r.unlink handle spawn with host := r.host.destroy handle } := by
  have hhost := r.host.sameBut_destroy handle
  exact { unlink hr hlive hhome with
    setting := by
      rw [Registry.setting, Registry.setting, ← hhost.bare]
      rfl
    issued := Nat.le_of_eq (congrArg HandleSource.issued (destroy_issued r.host handle)).symm
    entities := fun other _ hnone => hhost.entities other (fun same =>
      hnone (.inl ⟨spawn, same ▸ hlive, hhome⟩)) }

theorem vacate (hr : r.Parted home) {p : SpawnPoint} {held : Reservation}
    (hp : r.points.get? p.id = some p) (hheld : p.reservation = some held)
    (hhome : home held.pool = true) : Spares home r (r.vacate p) := by
  have hdestroyed : Spares home r (r.destroyAt p) := by
    rcases r.destroyAt_cases p with ⟨-, h⟩ | ⟨handle, hentity, h⟩
    · rw [h]
      exact refl home r
    · obtain ⟨spawn, hlive, hpoint, hpool⟩ := hr.spawned_at hp hentity hheld
      have hunload := unload hr hlive (hpool ▸ hhome)
      rw [h, ← hpoint]
      exact hunload
  obtain ⟨q, hq, hsame⟩ := (alike_reservation_destroyAt r p).find hp
  have hforest := destroyAt_forest r p
  rw [vacate_eq r hheld]
  exact hdestroyed.trans (release (hforest ▸ hr.linked) (hforest ▸ hr.unsplit) hq
    (hsame.trans hheld) hhome)

/-- An entity leaves its point, which becomes free. -/
theorem depart (hr : r.Parted home) {handle : EntityHandle} {spawn : LiveSpawn}
    (hlive : r.live.get? handle = some spawn) (hhome : home spawn.pool = true) :
    Spares home r ((r.unlink handle spawn).release spawn.point spawn.pool) := by
  obtain ⟨p, hp, -, hheld⟩ := hr.tracking.tracked hlive
  have hdetached : (r.unlink handle spawn).points.get? spawn.point = some p.detach :=
    Table.get?_modify_self hp
  have hlinked : (r.unlink handle spawn).forest.WellLinked := hr.linked
  exact (unlink hr hlive hhome).trans (release hlinked hr.unsplit hdetached hheld hhome)

theorem bury (hr : r.Parted home) {handle : EntityHandle} {spawn : LiveSpawn}
    (hlive : r.live.get? handle = some spawn) (hhome : home spawn.pool = true) (corpseSecs : Nat) :
    Spares home r (r.bury handle spawn corpseSecs) :=
  { refl home r with
    pools := fun _ hid => hr.unsplit.get?_adjust hr.linked hhome hid (-1)
    points := Table.alike_modify (fun p hp => by
      simp [SpawnPoint.away, SpawnPoint.release, SpawnPoint.retire, SpawnPoint.detach,
        hr.away_of_live hlive hhome hp, hhome])
    free := fun _ _ _ _ hfree => freeAt_modify (fun _ _ _ => rfl) hfree
    live := liveAway_erase hlive hhome rfl
    tends := fun other h => .inl (by
      rcases h with ⟨known, hknown, hmine⟩ | ⟨x, hx, hself, hmine⟩
      · exact .inl ⟨known, (Table.get?_erase_cases hknown).2, hmine⟩
      · rcases mem_remains_bury hx with hx | rfl
        · exact .inr ⟨x, hx, hself, hmine⟩
        · exact .inl ⟨spawn, hself ▸ hlive, hhome⟩) }

/-- Remains of home pools are cleared. -/
theorem clear (r : Registry) {gone : Remains → Bool}
    (hgone : ∀ x, gone x = true → home x.pool = true) : Spares home r (r.clearRemains gone).2 := by
  obtain ⟨-, hremains, hhost⟩ := r.clearRemains_eq gone
  have hsame := r.host.sameBut_destroyAll (r.remains.filter gone)
  have hheld : r.points.Alike (·.reservation) (r.clearRemains gone).2.points :=
    Table.alike_map (fun _ _ _ => rfl)
  rw [← hhost] at hsame
  exact { refl home r with
    setting := by
      rw [Registry.setting, Registry.setting, ← hsame.bare]
      rfl
    points := Table.alike_map (fun _ p _ => SpawnPoint.away_clear hgone p)
    free := fun _ _ y _ hfree => (freeAt_congr (hheld y)).symm.trans hfree
    issued := Nat.le_of_eq (congrArg HandleSource.issued (r.clearRemains_handles gone)).symm
    tends := fun _ h => .inl (h.of_subset (fun _ hlive => hlive) (fun x hx => by
      rw [hremains] at hx
      exact (List.mem_filter.mp hx).1))
    entities := fun handle _ hnone => hsame.entities handle (fun ⟨x, hx, hself⟩ => by
      obtain ⟨hx, hgoes⟩ := List.mem_filter.mp hx
      exact hnone (.inr ⟨x, hx, hself, hgone x hgoes⟩)) }

end Spares

/-! ## Confined changes -/

/-- A change that spares the pools away from home. -/
structure Confined (home : PoolId → Bool) (r s : Registry) : Prop where
  change : Change (fun _ _ _ => True) r s
  writes : Schedule.Writes r.Genuine r.timers s.timers
  spares : Spares home r s

theorem Confined.parted (h : Confined home r s) (hr : r.Parted home) : s.Parted home := by
  have hplan := h.change.samePlan
  refine ⟨h.change.sound hr.toSound, ?_, h.writes.coherent hr.coherent, fun ht => ?_, ?_⟩
  · exact hr.rooted.of_alike (hplan.forest.through (fun p => (p.links, p.root)))
  · rcases h.writes.get?_cases hr.coherent ht with ht | ht
    · exact hplan.genuine (hr.genuine ht)
    · exact hplan.genuine ht
  · intro a b hbelow
    rw [← hplan.subtree] at hbelow
    exact hr.unsplit a b hbelow

/-- Any number of confined changes in a row. -/
abbrev ConfinedSteps (home : PoolId → Bool) : Registry → Registry → Prop :=
  Relation.ReflTransGen (Confined home)

theorem ConfinedSteps.parted (h : ConfinedSteps home r s) (hr : r.Parted home) : s.Parted home := by
  induction h with
  | refl => exact hr
  | tail _ hstep ih => exact hstep.parted ih

/-- What each change spares is spared by any number of them. -/
theorem ConfinedSteps.spares (h : ConfinedSteps home r s) : Spares home r s := by
  induction h with
  | refl => exact .refl home r
  | tail _ hstep ih => exact ih.trans hstep.spares

namespace Confined

theorem draw (r : Registry) (g : Pcg) : Confined home r { r with random := g } :=
  ⟨.draw r g, .refl, .draw r g⟩

/-- Timers of home pools come or go. -/
theorem schedule {timers : Schedule} (hwrites : Schedule.Writes r.Genuine r.timers timers)
    (hscans : timers.scans = r.timers.scans)
    (htimers : ∀ kind key, home key.1 = false → timers.get? kind key = r.timers.get? kind key) :
    Confined home r { r with timers := timers } :=
  ⟨.schedule r timers, hwrites, .schedule hscans htimers⟩

theorem activate {pool : PoolId} (hpool : home pool = true) (active : Bool) :
    Confined home r
      { r with forest := r.forest.modify pool (fun p => { p with active := active }) } :=
  ⟨.activate r pool active, .refl, .activate hpool _⟩

theorem reserve (hr : r.Parted home) {kind : SpawnKind} {pool : PoolId} {entry : UInt32}
    {x : PointId} {p : SpawnPoint} (hcandidate : r.hasCandidate kind pool entry = true)
    (hp : r.points.get? x = some p) (hfree : p.reservation = none) (hpool : home pool = true)
    (hours : ∀ id, home id = false → x ∉ r.forest.assigned id) :
    Confined home r (r.reserve x ⟨pool, entry, kind⟩) :=
  ⟨.reserve hcandidate hp hfree trivial, .refl, .reserve hr hp hfree hpool hours⟩

theorem materialize (hr : r.Parted home) {x : PointId} {p : SpawnPoint} {held : Reservation}
    (hp : r.points.get? x = some p) (hheld : p.reservation = some held)
    (hhome : home held.pool = true) (h : r.materialize? x = some s) : Confined home r s := by
  refine ⟨.materialize x h, ?_, .materialize hr hp hheld hhome h⟩
  rw [(materialize?_keeps h).2.2.2]

theorem withdraw (hr : r.Parted home) {x : PointId} {p : SpawnPoint} {held : Reservation}
    (hp : r.points.get? x = some p) (hheld : p.reservation = some held)
    (hentity : p.entity = none) (hhome : home held.pool = true) :
    Confined home r (r.release x held.pool) :=
  ⟨.withdraw hp hheld hentity, .refl, .release hr.linked hr.unsplit hp hheld hhome⟩

theorem vacate (hr : r.Parted home) {p : SpawnPoint} {held : Reservation}
    (hp : r.points.get? p.id = some p) (hheld : p.reservation = some held)
    (hhome : home held.pool = true) : Confined home r (r.vacate p) := by
  refine ⟨.vacate hp hheld, ?_, .vacate hr hp hheld hhome⟩
  rw [vacate_timers]

theorem bury (hr : r.Parted home) {handle : EntityHandle} {spawn : LiveSpawn} {p : SpawnPoint}
    (hlive : r.live.get? handle = some spawn) (hp : r.points.get? spawn.point = some p)
    (hhome : home spawn.pool = true) (corpseSecs : Nat) :
    Confined home r (r.bury handle spawn corpseSecs) :=
  ⟨.bury hlive hp corpseSecs, .refl, .bury hr hlive hhome corpseSecs⟩

theorem unlink (hr : r.Parted home) {handle : EntityHandle} {spawn : LiveSpawn}
    (hlive : r.live.get? handle = some spawn) (hhome : home spawn.pool = true) :
    Confined home r (r.unlink handle spawn) :=
  ⟨.unlink hlive, .refl, .unlink hr hlive hhome⟩

theorem depart (hr : r.Parted home) {handle : EntityHandle} {spawn : LiveSpawn} {p : SpawnPoint}
    (hlive : r.live.get? handle = some spawn) (hp : r.points.get? spawn.point = some p)
    (hhome : home spawn.pool = true) :
    Confined home r ((r.unlink handle spawn).release spawn.point spawn.pool) :=
  ⟨.depart hlive hp, .refl, .depart hr hlive hhome⟩

theorem clear (r : Registry) {gone : Remains → Bool}
    (hgone : ∀ x, gone x = true → home x.pool = true) : Confined home r (r.clearRemains gone).2 :=
  ⟨.clear r gone, .refl, .clear r hgone⟩

end Confined

end Registry

end SpawnForest
