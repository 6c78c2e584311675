import SpawnForest.Proofs.Registry.Respawning
import SpawnForest.Proofs.World.Restoring

/-!
# What a tick does

A tick runs the timers that are due in the active zones, unless a zone was
scanned too recently, and destroys the remains whose time has run out. Which
zones it may scan depends on everything that happened before: `Grants` is told
from the events alone, by the rule that a zone is granted a scan if it never had
one or had its last one long enough ago. The registry remembers just that
(`Recalls`), so what a tick runs can be told from the events and the clock
(`ticks_on_time`).

Zones are scanned one after the other, and a fault leaves out those that come
later, so a tick that breaks off has been granted some scans too (`scanned`).
-/

namespace SpawnForest.MapInstance

/-! ## Scans that are granted -/

/-- When each zone was last granted a scan. -/
abbrev Grants := ZoneId → Option Timestamp

/-- A zone asks for a scan. -/
def Grants.ask (recheckSecs : UInt64) (now : Timestamp) (g : Grants) (zone : ZoneId) : Grants :=
  if Schedule.mayScan recheckSecs (g zone) now then
    fun other => if other = zone then some now else g other
  else g

/-- The zones that ask for a scan when some zones are respawned in order. -/
def scanned : List ZoneId → Registry → List ZoneId
  | [], _ => []
  | zone :: rest, r =>
    zone :: match Registry.exec (Registry.respawnZone zone) r with
      | (.ok _, s) => scanned rest s
      | (.error _, _) => []

/-- The zones that ask for a scan in an event. -/
def scans (i : MapInstance) : Event → List ZoneId
  | .tick => scanned i.activeZones.keys i.registry
  | .activateZone zone => [zone]
  | .operation (.respawnZone zone) => [zone]
  | _ => []

/-- When each zone was last granted a scan, after some events. -/
def grantsAfter (recheckSecs : UInt64) : Grants → MapInstance → List Event → Grants
  | g, _, [] => g
  | g, i, e :: events =>
    grantsAfter recheckSecs ((i.scans e).foldl (Grants.ask recheckSecs i.registry.now) g)
      (i.after e) events

variable {α : Type} {i j : MapInstance} {recheckSecs : UInt64} {g : Grants} {r s : Registry}
  {rows : PoolRows} {n : Nat}

/-- A registry remembers the scans that were granted, and how long to wait for the next ones. -/
structure Recalls (recheckSecs : UInt64) (g : Grants) (r : Registry) : Prop where
  interval : r.timers.recheckSecs = recheckSecs
  last : ∀ zone, r.timers.zoneScans.get? zone = g zone

namespace Recalls

theorem of_scannedAlike (h : Recalls recheckSecs g r) (hscans : r.timers.ScannedAlike s.timers) :
    Recalls recheckSecs g s where
  interval := hscans.recheckSecs.trans h.interval
  last zone := hscans.zoneScans ▸ h.last zone

theorem perform (h : Recalls recheckSecs g r) (hr : r.Planned) (op : Operation)
    (hop : op.scansZone = false) : Recalls recheckSecs g (r.perform op) :=
  h.of_scannedAlike (Registry.perform_scans hr hop)

theorem respawnZone (h : Recalls recheckSecs g r) (hr : r.Planned) (zone : ZoneId) :
    Recalls recheckSecs (g.ask recheckSecs r.now zone) (r.perform (.respawnZone zone)) := by
  obtain ⟨hscans, hrecheck⟩ := r.timers.scanZone_scans zone r.now
  have hleft := Registry.scans_respawnZone hr zone
  refine ⟨hleft.recheckSecs.trans (hrecheck.trans h.interval), fun other => ?_⟩
  rw [hleft.zoneScans, hscans, Grants.ask, h.interval, h.last]
  split
  · by_cases hself : other = zone
    · rw [hself, Table.get?_insert_self]
      exact (if_pos rfl).symm
    · rw [Table.get?_insert_of_ne _ _ hself, h.last]
      exact (if_neg hself).symm
  · exact h.last other

theorem respawnZones (h : Recalls recheckSecs g r)
    (hr : Registry.Reachable rows (fun _ => True) r) (zones : List ZoneId) :
    Recalls recheckSecs ((scanned zones r).foldl (Grants.ask recheckSecs r.now) g)
      (Registry.exec (MapInstance.respawnZones zones) r).2 := by
  induction zones generalizing r g with
  | nil => exact h
  | cons zone zones ih =>
      have hplanned := hr.sound.toPlanned
      have hfirst := h.respawnZone hplanned zone
      have hnow := (Registry.populates_respawnZone hplanned zone).now
      have hnext := hr.step (.respawnZone zone) trivial
      have hleft : r.perform (.respawnZone zone) =
          (Registry.exec (Registry.respawnZone zone) r).2 := rfl
      rw [hleft] at hfirst hnow hnext
      unfold MapInstance.respawnZones
      rw [Registry.exec_bind, scanned, List.foldl_cons]
      cases hran : Registry.exec (Registry.respawnZone zone) r with
      | mk answer s =>
          rw [hran] at hfirst hnow hnext
          cases answer with
          | error fault => exact hfirst
          | ok n =>
              dsimp only at hfirst hnow hnext ⊢
              rw [Registry.exec_bind_return, ← hnow]
              rw [← hnow] at hfirst
              exact ih hfirst hnext

end Recalls

/-! ## Running on the registry -/

theorem exec_onRegistry (action : Action α) (i : MapInstance) :
    exec (onRegistry action) i =
      ((Registry.exec action i.registry).1,
        { i with registry := (Registry.exec action i.registry).2 }) := by
  unfold onRegistry
  rw [exec_bind]
  show exec _ i = _
  unfold Registry.exec
  cases action.run.run i.registry with
  | mk answer r => cases answer <;> rfl

/-- A tick breaks off with a zone, or it goes on to the remains and counts itself. -/
theorem exec_tick (i : MapInstance) :
    exec tick i =
      match Registry.exec (respawnZones i.activeZones.keys) i.registry with
      | (.ok n, s) => (.ok ⟨i.ticks + 1, n, s.expireRemains.1⟩,
          { i with registry := s.expireRemains.2, ticks := i.ticks + 1 })
      | (.error fault, s) => (.error fault, { i with registry := s }) := by
  unfold tick
  rw [exec_bind]
  show exec _ i = _
  rw [exec_bind, exec_onRegistry]
  cases Registry.exec (respawnZones i.activeZones.keys) i.registry with
  | mk answer s => cases answer <;> rfl

theorem registry_after_gridLoaded (i : MapInstance) (grid : GridId) :
    (i.after (.gridLoaded grid)).registry =
      (i.registry.perform (.onGridLoaded grid)).perform (.respawnGrid grid) := by
  rw [after, gridLoaded, exec_bind]
  show (exec _ { i with registry := (i.registry.onGridLoaded grid).2 }).2.registry = _
  rw [exec_bind, exec_onRegistry]
  dsimp only [Registry.perform]
  cases (Registry.exec (Registry.respawnGrid grid) (i.registry.onGridLoaded grid).2).1 <;> rfl

/-! ## What an instance remembers -/

theorem Recalls.restoreOne (h : Recalls recheckSecs g i.registry) (hr : i.registry.Planned)
    (t : StoredTimer) : Recalls recheckSecs g (TimerSnapshot.restoreOne i t).2.registry := by
  unfold TimerSnapshot.restoreOne
  split
  · have hrestored := h.perform hr (.restoreTimer t.pool t.point t.due) rfl
    rw [Registry.perform] at hrestored
    cases hran : i.registry.restoreTimer t.pool t.point t.due with
    | error e => exact h
    | ok restored =>
        rw [hran] at hrestored
        exact hrestored
  · exact h

/-- An instance that is in the middle of a run: what it remembers is what happened. -/
structure Running (plan : MapPlan) (g : Grants) (i : MapInstance) : Prop where
  reachable : Reachable plan i
  recalls : Recalls plan.config.registry.recheckSecs g i.registry

theorem Running.planned {plan : MapPlan} (h : Running plan g i) : i.registry.Planned :=
  h.reachable.registry.sound.toPlanned

theorem Running.recalls_tick {plan : MapPlan} (h : Running plan g i) :
    Recalls plan.config.registry.recheckSecs
      ((scanned i.activeZones.keys i.registry).foldl
        (Grants.ask plan.config.registry.recheckSecs i.registry.now) g)
      (exec tick i).2.registry := by
  have hzones := h.recalls.respawnZones h.reachable.registry i.activeZones.keys
  rw [exec_tick]
  cases hran : Registry.exec (respawnZones i.activeZones.keys) i.registry with
  | mk answer s =>
      rw [hran] at hzones
      cases answer with
      | error fault => exact hzones
      | ok n => exact hzones.of_scannedAlike (.refl _)

theorem Running.recalls_restore {plan : MapPlan} (h : Running plan g i)
    (snapshot : TimerSnapshot) : Recalls plan.config.registry.recheckSecs g
      (i.after (.restore snapshot)).registry := by
  rw [MapInstance.after]
  cases hverified : snapshot.verify with
  | error e =>
      rw [TimerSnapshot.restore, hverified]
      exact h.recalls
  | ok _ =>
      rw [TimerSnapshot.restore, hverified]
      refine (List.foldlRecOn snapshot.content.timers _
        (motive := fun acc : Nat × MapInstance => Follows i acc.2 ∧
          Recalls plan.config.registry.recheckSecs g acc.2.registry) ?_ ?_).2
      · exact ⟨.refl i, h.recalls⟩
      · rintro acc ⟨hfollows, hrecalls⟩ t -
        obtain ⟨ops, hops⟩ := hfollows.registry
        have hreachable := hops ▸ Registry.Reachable.run h.reachable.registry ops
        exact ⟨hfollows.trans (follows_restoreOne acc.2 t),
          hrecalls.restoreOne hreachable.sound.toPlanned t⟩

/-- What is remembered after an event are the scans that were granted until then. -/
theorem Running.after {plan : MapPlan} (h : Running plan g i) (e : Event) :
    Running plan
      ((i.scans e).foldl (Grants.ask plan.config.registry.recheckSecs i.registry.now) g)
      (i.after e) := by
  have hr := h.planned
  refine ⟨h.reachable.step e, ?_⟩
  cases e with
  | operation op =>
      cases hop : op.scansZone with
      | true =>
          cases op with
          | respawnZone zone => exact h.recalls.respawnZone hr zone
          | _ => cases hop
      | false =>
          have hnone : i.scans (.operation op) = [] := by
            cases op with
            | respawnZone zone => cases hop
            | _ => rfl
          rw [hnone]
          exact h.recalls.perform hr op hop
  | activateZone zone =>
      rw [MapInstance.after, activateZone, exec_bind]
      show Recalls _ _ (exec (onRegistry (Registry.respawnZone zone)) _).2.registry
      rw [exec_onRegistry]
      exact h.recalls.respawnZone hr zone
  | deactivateZone zone => exact h.recalls
  | gridLoaded grid =>
      rw [registry_after_gridLoaded]
      have hloaded := h.reachable.registry.step (.onGridLoaded grid) trivial
      exact (h.recalls.perform hr (.onGridLoaded grid) rfl).perform hloaded.sound.toPlanned
        (.respawnGrid grid) rfl
  | gridUnloaded grid =>
      exact h.recalls.perform hr (.onGridUnloaded grid) rfl
  | tick => exact h.recalls_tick
  | restore snapshot => exact h.recalls_restore snapshot

theorem Running.run {plan : MapPlan} (h : Running plan g i) (events : List Event) :
    Running plan (grantsAfter plan.config.registry.recheckSecs g i events)
      (events.foldl MapInstance.after i) := by
  induction events generalizing g i with
  | nil => exact h
  | cons e events ih => exact ih (h.after e)

theorem running_load {plan : MapPlan} {host : Host} (h : load plan host = .ok (.ok i)) :
    Running plan (fun _ => none) i := by
  have htimers := TimerSnapshot.timers_of_load h
  exact ⟨.loaded h, by rw [htimers]; rfl, fun zone => by rw [htimers]; rfl⟩

/-! ## The zones of a tick -/

/-- What the respawn of some zones comes to. -/
structure Respawned (zones : List ZoneId) (n : Nat) (r s : Registry) : Prop where
  populates : Registry.Populates r s
  reserves : ReservesNew n r.points s.points
  size_le : n + s.timers.size ≤ r.timers.size
  drops : r.timers.Drops s.timers
    (fun t => zones.contains t.zone && (r.grantsScan t.zone && t.isDue r.now))

/-- A zone and then other ones. What goes with the others goes by their own scans, on which the
first zone has no influence. -/
theorem Respawned.cons {zone : ZoneId} {zones : List ZoneId} {m : Nat} (hnew : zone ∉ zones)
    (hr : Registry.Reachable rows (fun _ => True) r)
    (hfirst : Registry.exec (Registry.respawnZone zone) r = (.ok m, s)) {t : Registry}
    (hrest : Respawned zones n s t) : Respawned (zone :: zones) (m + n) r t := by
  have hplanned := hr.sound.toPlanned
  have hleft : r.perform (.respawnZone zone) = s := congrArg Prod.snd hfirst
  have hpopulates := hleft ▸ Registry.populates_respawnZone hplanned zone
  obtain ⟨hreserves, hle⟩ := Registry.exec_respawnZone_counted hplanned hfirst
  have hdrops := (Registry.exec_respawnZone_drops hr hfirst).trans hrest.drops
  refine ⟨hpopulates.trans hrest.populates, hreserves.trans hrest.reserves, ?_, ?_⟩
  · have := hrest.size_le
    omega
  · have hgone : (fun t : Timer => (t.zone == zone && (r.grantsScan zone && t.isDue r.now)) ||
          (zones.contains t.zone && (s.grantsScan t.zone && t.isDue s.now))) =
        fun t => (zone :: zones).contains t.zone && (r.grantsScan t.zone && t.isDue r.now) := by
      funext t
      rw [hpopulates.now, List.contains_cons]
      by_cases hself : t.zone = zone
      · have hlater : zones.contains zone = false :=
          Bool.eq_false_iff.mpr (fun h => hnew (List.contains_iff_mem.mp h))
        rw [hself, hlater, beq_self_eq_true, Bool.false_and, Bool.or_false, Bool.true_or]
      · have hscan : s.grantsScan t.zone = r.grantsScan t.zone :=
          hleft ▸ Registry.grantsScan_respawnZone hplanned hself
        rw [hscan, beq_eq_false_iff_ne.mpr hself, Bool.false_and, Bool.false_or, Bool.false_or]
    exact hgone ▸ hdrops

theorem exec_respawnZones_respawned {zones : List ZoneId} (hzones : zones.Nodup)
    (hr : Registry.Reachable rows (fun _ => True) r)
    (h : Registry.exec (respawnZones zones) r = (.ok n, s)) :
    Registry.Reachable rows (fun _ => True) s ∧ Respawned zones n r s := by
  induction zones generalizing r n with
  | nil =>
      obtain ⟨rfl, rfl⟩ := Registry.answer_inj h
      exact ⟨hr, .refl r, .of_alike (.refl _ _), Nat.le_of_eq (Nat.zero_add _),
        Schedule.drops_of_same (fun _ _ => rfl) (fun _ => rfl)⟩
  | cons zone zones ih =>
      obtain ⟨hnew, hzones⟩ := List.nodup_cons.mp hzones
      unfold respawnZones at h
      obtain ⟨m, t, hfirst, h⟩ := Registry.exec_bind_eq_ok h
      obtain ⟨k, u, hrest, h⟩ := Registry.exec_bind_eq_ok h
      obtain ⟨rfl, rfl⟩ := Registry.answer_inj h
      have hleft : r.perform (.respawnZone zone) = t := congrArg Prod.snd hfirst
      obtain ⟨hlast, hothers⟩ := ih hzones (hleft ▸ hr.step (.respawnZone zone) trivial) hrest
      exact ⟨hlast, .cons hnew hr hfirst hothers⟩

/-! ## Ticks -/

/-- Whether a tick is to run a timer: it is due, its zone is active, and its zone is granted a scan,
given when each zone was last granted one. -/
def isRun (i : MapInstance) (recheckSecs : UInt64) (g : Grants) (t : Timer) : Bool :=
  i.activeZones.contains t.zone &&
    (Schedule.mayScan recheckSecs (g t.zone) i.registry.now && t.isDue i.registry.now)

/-- Whether the time of some remains has run out. -/
def isOver (i : MapInstance) (x : Remains) : Bool := decide (x.expires ≤ i.registry.now)

/-- What a tick leaves and answers if it runs just some timers. -/
structure Ticked (runs : Timer → Bool) (i j : MapInstance) (summary : TickSummary) : Prop where
  /-- The timers that are run are gone, and all others are kept. -/
  timers : j.registry.timers.all = i.registry.timers.all.filter (fun t => !runs t)
  /-- What is reserved stays reserved. -/
  kept : ∀ {x p held}, i.registry.points.get? x = some p → p.reservation = some held →
    ∃ q, j.registry.points.get? x = some q ∧ q.reservation = some held
  respawned : summary.respawned = (i.registry.points.keys.filter (fun x =>
    freeAt i.registry.points x && !freeAt j.registry.points x)).length
  respawned_le : summary.respawned ≤ i.registry.timers.all.countP runs
  expired : summary.expired = i.registry.remains.countP i.isOver
  remains : j.registry.remains = i.registry.remains.filter (fun x => !i.isOver x)
  /-- The entities whose time has run out were there, and are destroyed. -/
  destroyed : ∀ x ∈ i.registry.remains, i.isOver x = true →
    i.registry.host.entities.contains x.handle = true ∧
      j.registry.host.entities.contains x.handle = false
  /-- No other entity is destroyed. -/
  spared : ∀ handle, i.registry.host.entities.contains handle = true →
    (∀ x ∈ i.registry.remains, i.isOver x = true → x.handle ≠ handle) →
      j.registry.host.entities.contains handle = true
  destroyed_count :
    j.registry.host.destroyed = i.registry.host.destroyed + summary.expired
  tick : j.ticks = i.ticks + 1 ∧ summary.tick = j.ticks

/-- What the zones of a tick drop are the timers that it is to run. -/
theorem Running.isRun_eq {plan : MapPlan} (h : Running plan g i) (t : Timer) :
    (i.activeZones.keys.contains t.zone &&
        (i.registry.grantsScan t.zone && t.isDue i.registry.now)) =
      i.isRun plan.config.registry.recheckSecs g t := by
  have hactive : i.activeZones.keys.contains t.zone = i.activeZones.contains t.zone := by
    rw [Bool.eq_iff_iff, List.contains_iff_mem, Table.mem_keys]
    rfl
  rw [isRun, hactive, Registry.grantsScan, h.recalls.interval, h.recalls.last]

/-- The zones are respawned, and then the remains whose time has run out are destroyed. -/
theorem Running.ticked_of_respawned {plan : MapPlan} (h : Running plan g i)
    (hs : Registry.Reachable rows (fun _ => True) s)
    (hzones : Respawned i.activeZones.keys n i.registry s) :
    Ticked (i.isRun plan.config.registry.recheckSecs g) i
      { i with registry := s.expireRemains.2, ticks := i.ticks + 1 }
      ⟨i.ticks + 1, n, s.expireRemains.1⟩ := by
  have hpopulates := hzones.populates
  have htimers : s.timers.all = i.registry.timers.all.filter
      (fun t => !i.isRun plan.config.registry.recheckSecs g t) :=
    hzones.drops.all_eq.trans (List.filter_congr (fun t _ => by rw [h.isRun_eq t]))
  have hover : (fun x : Remains => decide (x.expires ≤ s.now)) = i.isOver := by
    rw [hpopulates.now]
    rfl
  have hexpire : s.expireRemains = s.clearRemains i.isOver := by
    rw [Registry.expireRemains, hover]
  have hpoints : s.points.Alike (·.reservation) (s.clearRemains i.isOver).2.points :=
    Table.alike_map (fun _ _ _ => rfl)
  obtain ⟨hcount, hremains, -⟩ := s.clearRemains_eq i.isOver
  obtain ⟨hdestroyed, hspared, hdestroys⟩ := hs.clearRemains_destroys i.isOver
  rw [hpopulates.remains] at hcount hremains hdestroyed hspared
  rw [hexpire]
  refine ⟨htimers, ?kept, ?respawned, ?respawned_le, ?expired, hremains, ?destroyed, ?spared,
    ?count, rfl, rfl⟩
  case kept =>
    intro x p held hp hheld
    obtain ⟨q, hq, hheld⟩ := hzones.reserves.kept hp hheld
    obtain ⟨q', hq', hsame⟩ := hpoints.find hq
    exact ⟨q', hq', hsame.trans hheld⟩
  case respawned =>
    rw [← hzones.reserves.length_reserved hpopulates.plan.points.keys.symm]
    refine congrArg List.length (List.filter_congr (fun x _ => ?_))
    rw [freeAt_congr (hpoints x)]
  case respawned_le =>
    have hle := hzones.size_le
    have hsplit := (List.filter_append_perm (i.isRun plan.config.registry.recheckSecs g)
      i.registry.timers.all).length_eq
    rw [List.length_append, ← htimers, Schedule.length_all, Schedule.length_all,
      ← List.countP_eq_length_filter] at hsplit
    show n ≤ _
    omega
  case expired => rw [hcount, List.countP_eq_length_filter]
  case destroyed =>
    intro x hx hgone
    exact ⟨h.reachable.registry.present _ (List.mem_append_right _ (List.mem_map_of_mem hx)),
      (hdestroyed x hx hgone).2⟩
  case spared =>
    intro handle hthere hkept
    rw [Table.contains, hspared handle hkept]
    exact hpopulates.entities hthere
  case count => rw [hdestroys, hpopulates.destroyed]

/-- A tick that goes through, in the middle of a run. -/
theorem Running.ticked {plan : MapPlan} (h : Running plan g i) {summary : TickSummary}
    (htick : exec tick i = (.ok summary, j)) :
    Ticked (i.isRun plan.config.registry.recheckSecs g) i j summary := by
  have hr := h.reachable.registry
  rw [exec_tick] at htick
  cases hran : Registry.exec (respawnZones i.activeZones.keys) i.registry with
  | mk answer s =>
      rw [hran] at htick
      cases answer with
      | error fault => cases (Prod.mk.inj htick).1
      | ok n =>
          obtain ⟨rfl, rfl⟩ := Registry.answer_inj htick
          obtain ⟨hs, hrespawned⟩ := exec_respawnZones_respawned i.activeZones.keys_nodup hr hran
          exact h.ticked_of_respawned hs hrespawned

/-- Timers fire for active zones only, and never early. However an instance was loaded and whatever
has happened to it, a tick that goes through runs just the timers that are due in active zones
which are granted a scan, as told from the events so far. It answers with the number of points that
came to be reserved, no more than timers were run, and with the number of remains whose time had run
out, just which were destroyed. -/
theorem ticks_on_time {plan : MapPlan} {host : Host} (hload : load plan host = .ok (.ok i))
    (events : List Event) {summary : TickSummary}
    (htick : exec tick (events.foldl after i) = (.ok summary, j)) :
    Ticked ((events.foldl after i).isRun plan.config.registry.recheckSecs
        (grantsAfter plan.config.registry.recheckSecs (fun _ => none) i events))
      (events.foldl after i) j summary :=
  ((running_load hload).run events).ticked htick

/-- The zone of the small map is active before one of its entities dies, and is still active much
later. -/
def campVigil : List Event :=
  [.operation (.spawnPool ⟨1⟩ 2), .activateZone ⟨36⟩, .operation (.handleDeath ⟨0⟩ false),
    .operation (.host (.advance 100000))]

/-- The timer of the dead entity is run, another entity takes its place, and its remains go. -/
theorem ticks_on_time_camp :
    ∃ j, exec tick (campVigil.foldl after TimerSnapshot.campInstance) = (.ok ⟨1, 1, 1⟩, j) ∧
      Ticked ((campVigil.foldl after TimerSnapshot.campInstance).isRun
          TimerSnapshot.campPlan.config.registry.recheckSecs
          (grantsAfter TimerSnapshot.campPlan.config.registry.recheckSecs (fun _ => none)
            TimerSnapshot.campInstance campVigil))
        (campVigil.foldl after TimerSnapshot.campInstance) j ⟨1, 1, 1⟩ := by
  have hload : MapInstance.load TimerSnapshot.campPlan .fresh =
      .ok (.ok TimerSnapshot.campInstance) := rfl
  have hanswer : (exec tick (campVigil.foldl after TimerSnapshot.campInstance)).1 =
      .ok ⟨1, 1, 1⟩ := by decide +kernel
  cases htick : exec tick (campVigil.foldl after TimerSnapshot.campInstance) with
  | mk answer j =>
      rw [htick] at hanswer
      obtain rfl : answer = .ok ⟨1, 1, 1⟩ := hanswer
      exact ⟨j, rfl, ticks_on_time hload campVigil htick⟩

end SpawnForest.MapInstance
