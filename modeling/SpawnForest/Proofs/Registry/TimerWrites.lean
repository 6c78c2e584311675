import SpawnForest.Proofs.Registry.Soundness
import SpawnForest.Proofs.Timer.Selection

/-!
# Writing timers

Few operations write timers, and what each of them writes is said here, the
fault cases included. Spawning writes none; a replacement takes out the timer
that it is made for, if it succeeds (`exec_expedite`); a run of timers takes
them out one by one and gets through a prefix of them, and through all of them
if nothing breaks it off (`exec_runTimers`).

A timer is genuine if it says what its pool and its point say. Only genuine
timers are stored (`perform_writes`), and a plan that stays the same leaves
them genuine, so that in a reachable registry every pending timer is
(`Reachable.genuine`), and its indexes are coherent (`Reachable.coherent`).
-/

namespace SpawnForest

/-! ## Writes -/

/-- One write to a schedule, where timers are stored only if they are genuine. -/
inductive Schedule.Write (genuine : Timer → Prop) : Schedule → Schedule → Prop
  | erase (s : Schedule) (kind : SpawnKind) (key : TimerKey) : Write genuine s (s.erase kind key)
  | remove (s : Schedule) (f : TimerFilter) : Write genuine s (s.remove f)
  | add (s : Schedule) {t : Timer} (h : genuine t) : Write genuine s (s.add t false)
  | scan (s : Schedule) (zoneScans : Table ZoneId Timestamp) (gridScans : Table GridId Timestamp) :
      Write genuine s { s with zoneScans := zoneScans, gridScans := gridScans }

namespace Schedule

abbrev Writes (genuine : Timer → Prop) : Schedule → Schedule → Prop :=
  Relation.ReflTransGen (Write genuine)

variable {genuine : Timer → Prop} {s s' : Schedule}

theorem Write.coherent (h : Write genuine s s') (hs : s.Coherent) : s'.Coherent := by
  cases h with
  | erase kind key => exact hs.erase kind key
  | remove f => exact hs.remove f
  | add h => exact hs.add _ false
  | scan zoneScans gridScans => exact hs.of_indexes (fun kind => by cases kind <;> rfl)

theorem Writes.coherent (h : Writes genuine s s') (hs : s.Coherent) : s'.Coherent := by
  induction h with
  | refl => exact hs
  | tail _ hwrite ih => exact hwrite.coherent ih

/-- A timer after a write was there before, or it is genuine. -/
theorem Write.get?_cases (h : Write genuine s s') (hs : s.Coherent) {kind : SpawnKind}
    {key : TimerKey} {t : Timer} (ht : s'.get? kind key = some t) :
    s.get? kind key = some t ∨ genuine t := by
  cases h with
  | erase other k =>
      rw [get?_erase] at ht
      split at ht
      · cases ht
      · exact .inl ht
  | remove f =>
      rw [get?_remove hs] at ht
      exact .inl (Option.filter_eq_some_iff.mp ht).1
  | add h =>
      rw [get?_add] at ht
      split at ht
      · cases ht
        exact .inr h
      · exact .inl ht
  | scan zoneScans gridScans =>
      cases kind <;> exact .inl ht

theorem Writes.get?_cases (h : Writes genuine s s') (hs : s.Coherent) {kind : SpawnKind}
    {key : TimerKey} {t : Timer} (ht : s'.get? kind key = some t) :
    s.get? kind key = some t ∨ genuine t := by
  induction h with
  | refl => exact .inl ht
  | tail hwrites hwrite ih =>
      rcases hwrite.get?_cases (Writes.coherent hwrites hs) ht with ht | ht
      · exact ih ht
      · exact .inr ht

theorem writes_foldl_erase (s : Schedule) (l : List Timer) :
    Writes genuine s (l.foldl (fun s t => s.erase t.kind t.key) s) :=
  List.foldlRecOn l _ .refl (fun _ h t _ => h.tail (.erase _ t.kind t.key))

theorem writes_foldl_remove (s : Schedule) (pools : List PoolId) :
    Writes genuine s (pools.foldl (fun s id => s.remove (.ofPool id)) s) :=
  List.foldlRecOn pools _ .refl (fun _ h _ _ => h.tail (.remove _ _))

/-- Taking out what is not there changes nothing. -/
theorem erase_of_get?_eq_none {kind : SpawnKind} {key : TimerKey} (h : s.get? kind key = none) :
    s.erase kind key = s := by
  have hindex : (s.index kind).erase key = s.index kind := by
    unfold TimerIndex.erase
    rw [show (s.index kind).timers.get? key = none from h]
  rw [erase, hindex]
  cases kind <;> rfl

theorem get?_foldl_erase (s : Schedule) (l : List Timer) (kind : SpawnKind) (key : TimerKey) :
    (l.foldl (fun s t => s.erase t.kind t.key) s).get? kind key =
      if ∃ t ∈ l, t.kind = kind ∧ t.key = key then none else s.get? kind key := by
  induction l generalizing s with
  | nil => simp
  | cons t l ih =>
      rw [List.foldl_cons, ih, get?_erase]
      by_cases hl : ∃ u ∈ l, u.kind = kind ∧ u.key = key
      · have hcons : ∃ u ∈ t :: l, u.kind = kind ∧ u.key = key := by
          obtain ⟨u, hu, h⟩ := hl
          exact ⟨u, List.mem_cons_of_mem _ hu, h⟩
        rw [if_pos hl, if_pos hcons]
      · by_cases ht : t.kind = kind ∧ t.key = key
        · simp [ht]
        · have hne : ¬(kind = t.kind ∧ key = t.key) := fun h => ht ⟨h.1.symm, h.2.symm⟩
          simp [hl, ht, hne]

/-- Taking out just the timers that are pending and are to go drops them. -/
theorem drops_foldl_erase (hs : s.Coherent) {l : List Timer} {gone : Timer → Bool}
    (hl : ∀ t, t ∈ l ↔ s.get? t.kind t.key = some t ∧ gone t = true) :
    s.Drops (l.foldl (fun s t => s.erase t.kind t.key) s) gone := by
  intro kind key
  rw [get?_foldl_erase]
  cases ht : s.get? kind key with
  | none => simp
  | some t =>
      obtain ⟨rfl, rfl⟩ := hs.keyed ht
      have hgoes : (∃ u ∈ l, u.kind = t.kind ∧ u.key = t.key) ↔ gone t = true := by
        constructor
        · rintro ⟨u, hu, hkind, hkey⟩
          obtain ⟨hget, hgone⟩ := (hl u).mp hu
          rw [hkind, hkey, ht] at hget
          cases hget
          exact hgone
        · exact fun hgone => ⟨t, (hl t).mpr ⟨ht, hgone⟩, rfl, rfl⟩
      by_cases hgone : gone t = true
      · simp [hgoes.mpr hgone, hgone, Option.filter_some]
      · simp [mt hgoes.mp hgone, hgone, Option.filter_some]

end Schedule

/-- Whether an operation has nothing to do with timers. -/
def Operation.sparesTimers : Operation → Bool
  | respawnPool _ | reseedPool _ | setActive _ false => false
  | clearRespawns _ | restoreTimer .. => false
  | respawnDue | respawnGrid _ | respawnZone _ => false
  | handleDeath .. | handleDespawn _ false => false
  | _ => true

namespace Registry

variable {may : Registry → PoolId → PointId → Prop} {r s : Registry} {pool : PoolId}

/-! ## Who writes no timers -/

/-- A change that leaves the timers alone. -/
def Untimed (may : Registry → PoolId → PointId → Prop) (r s : Registry) : Prop :=
  Change may r s ∧ s.timers = r.timers

/-- Spawning writes no timers. -/
theorem spawns_untimed (may : Registry → PoolId → PointId → Prop) : Spawns may (Untimed may) where
  samePlan h := h.1.samePlan
  draw r random := ⟨.draw r random, rfl⟩
  reserve hcandidate hpoint hfree hmay := ⟨.reserve hcandidate hpoint hfree hmay, rfl⟩
  materialize h := ⟨.materialize _ h, (materialize?_keeps h).2.2.2⟩
  withdraw hpoint hheld hentity := ⟨.withdraw hpoint hheld hentity, rfl⟩

theorem timers_of_untimed (h : Relation.ReflTransGen (Untimed may) r s) : s.timers = r.timers := by
  induction h with
  | refl => rfl
  | tail _ hstep ih => exact hstep.2.trans ih

theorem spawnPool_timers (hr : r.Planned) (pool : PoolId) (count : Nat) :
    (exec (spawnPool pool count) r).2.timers = r.timers :=
  timers_of_untimed (spawnPool_steps_any (spawns_untimed _) hr pool count)

theorem spawnSingle_timers (hr : r.Planned) (pool : PoolId) (mode : Mode) :
    (exec (spawnSingle pool mode) r).2.timers = r.timers :=
  timers_of_untimed (spawnSingle_steps (spawns_untimed _) hr pool mode (fun _ _ _ _ _ h => h))

theorem spawnAll_timers (hr : r.Planned) : (exec spawnAll r).2.timers = r.timers :=
  timers_of_untimed (spawnAll_steps (spawns_untimed _) hr)

theorem spawnAt_timers (r : Registry) (kind : SpawnKind) (pool : PoolId) (entry : UInt32)
    (point : PointId) : (exec (spawnAt kind pool entry point) r).2.timers = r.timers :=
  timers_of_untimed (spawnAt_steps (spawns_untimed (fun _ _ _ => True)) trivial)

theorem spawnPending?_timers {point : PointId} (h : r.spawnPending? point = some s) :
    s.timers = r.timers :=
  timers_of_untimed (spawnPending?_steps (spawns_untimed AnyPopulated) h)

theorem spawnPendingAll_timers (r : Registry) (points : List PointId) :
    (r.spawnPendingAll points).2.timers = r.timers :=
  timers_of_untimed (spawnPendingAll_steps (spawns_untimed AnyPopulated) points)

theorem destroyAt_timers (r : Registry) (p : SpawnPoint) : (r.destroyAt p).timers = r.timers := by
  rcases r.destroyAt_cases p with ⟨-, h⟩ | ⟨handle, -, h⟩ <;> rw [h]
  rfl

theorem vacate_timers (r : Registry) (p : SpawnPoint) : (r.vacate p).timers = r.timers := by
  unfold vacate
  split
  · exact r.destroyAt_timers p
  · exact r.destroyAt_timers p

theorem despawnPool_timers (r : Registry) (pool : PoolId) (corpses : Bool) :
    (r.despawnPool pool corpses).2.timers = r.timers := by
  have hvacated : ∀ l : List SpawnPoint, (l.foldl vacate r).timers = r.timers := fun l =>
    List.foldlRecOn l vacate (motive := fun s => s.timers = r.timers) rfl
      (fun s hs p _ => (s.vacate_timers p).trans hs)
  unfold despawnPool
  cases corpses with
  | false => exact hvacated _
  | true => exact hvacated _

theorem unloadAll_timers (r : Registry) (handles : List EntityHandle) :
    (r.unloadAll handles).2.timers = r.timers := by
  unfold unloadAll
  refine List.foldlRecOn handles _
    (motive := fun acc : Nat × Registry => acc.2.timers = r.timers) rfl ?_
  intro acc hacc handle _
  obtain ⟨n, s⟩ := acc
  dsimp only
  split
  · exact hacc
  · exact hacc

theorem applyPatch?_timers {scope : PatchScope} {patch : Patch}
    (h : r.applyPatch? scope patch = some s) : s.timers = r.timers := by
  rcases applyPatch?_cases h with ⟨_, rfl⟩ | ⟨_, _, _, -, -, rfl⟩ | ⟨_, rfl⟩ <;> rfl

/-! ## Who writes timers -/

/-- A replacement leaves the timers as they are, or it succeeds and takes out its timer. -/
theorem exec_expedite (hr : r.Planned) (kind : SpawnKind) (pool : PoolId) (point : PointId) :
    (exec (expedite kind pool point) r).2.timers = r.timers ∨
    ∃ root t s, r.forest.rootOf? pool = some root ∧
      r.replacementTimer? kind root pool point = some t ∧
      exec (spawnPool root 1) r = (.ok 1, s) ∧
      exec (expedite kind pool point) r =
        (.ok true, { s with timers := r.timers.erase t.kind t.key }) := by
  rcases exec_expedite_tries r kind pool point with h | ⟨root, t, hroot, -, htimer, h⟩
  · rw [h]
    exact .inl rfl
  · have hkept := spawnPool_timers hr root 1
    rw [h, exec_bind]
    cases hran : exec (spawnPool root 1) r with
    | mk answer s =>
        rw [hran] at hkept
        cases answer with
        | error fault => exact .inl hkept
        | ok n =>
            dsimp only
            by_cases hone : n = 1
            · subst hone
              refine .inr ⟨root, t, s, hroot, htimer, hran, ?_⟩
              rw [if_pos rfl, exec_modify_bind, ← hkept]
              rfl
            · rw [if_neg hone]
              exact .inl hkept

/-- A run of timers takes them out in order. Unless it breaks off, none is left. -/
theorem exec_runTimers (hr : r.Planned) (l : List Timer) :
    ∃ done, (exec (runTimers l) r).2.timers =
        done.foldl (fun s t => s.erase t.kind t.key) r.timers ∧
      ((exec (runTimers l) r).1.isOk = true → done = l) := by
  induction l generalizing r with
  | nil => exact ⟨[], rfl, fun _ => rfl⟩
  | cons t l ih =>
      unfold runTimers
      rw [exec_get_bind]
      cases ht : r.timers.get? t.kind t.key with
      | none =>
          obtain ⟨done, htimers, hall⟩ := ih hr
          refine ⟨t :: done, ?_, fun h => by rw [hall h]⟩
          rw [List.foldl_cons, Schedule.erase_of_get?_eq_none ht]
          exact htimers
      | some u =>
          dsimp only
          rw [exec_set_bind, exec_bind]
          generalize hs : { r with timers := r.timers.erase t.kind t.key } = s
          have herased : s.timers = r.timers.erase t.kind t.key := by rw [← hs]
          have hplanned : s.Planned := by
            rw [← hs]
            exact hr.of_eq rfl rfl
          have hsteps : Steps AnyPopulated s (exec (spawnPool t.root 1) s).2 :=
            spawnPool_steps_any admits_change.toSpawns hplanned t.root 1
          have hkept := spawnPool_timers hplanned t.root 1
          cases hran : exec (spawnPool t.root 1) s with
          | mk answer s' =>
              rw [hran] at hkept hsteps
              dsimp only at hkept
              cases answer with
              | error fault => exact ⟨[t], hkept.trans herased, fun h => by cases h⟩
              | ok n =>
                  obtain ⟨done, htimers, hall⟩ := ih (hsteps.samePlan.planned hplanned)
                  refine ⟨t :: done, ?_, ?_⟩
                  · dsimp only
                    rw [exec_bind_return, htimers, hkept, herased]
                    rfl
                  · intro hok
                    dsimp only at hok
                    rw [exec_bind_return, isOk_map] at hok
                    rw [hall hok]

/-- A timer stored for a dead entity may go again with a replacement. -/
theorem expedite_writes (hr : r.Planned) {genuine : Timer → Prop} {before : Schedule}
    (h : Schedule.Writes genuine before r.timers) (kind : SpawnKind) (pool : PoolId)
    (point : PointId) :
    Schedule.Writes genuine before (exec (expedite kind pool point) r).2.timers := by
  rcases exec_expedite hr kind pool point with hsame | ⟨root, t, s, -, -, -, hran⟩
  · rw [hsame]
    exact h
  · rw [hran]
    exact h.tail (.erase _ _ _)

theorem runTimers_writes (hr : r.Planned) {genuine : Timer → Prop} {before : Schedule}
    (h : Schedule.Writes genuine before r.timers) (l : List Timer) :
    Schedule.Writes genuine before (exec (runTimers l) r).2.timers := by
  obtain ⟨done, hran, -⟩ := exec_runTimers hr l
  rw [hran]
  exact h.trans (Schedule.writes_foldl_erase _ done)

theorem scanZone_writes {genuine : Timer → Prop} (s : Schedule) (zone : ZoneId) (now : Timestamp) :
    Schedule.Writes genuine s (s.scanZone zone now).2 := by
  unfold Schedule.scanZone
  split
  · exact .single (.scan s _ s.gridScans)
  · exact .refl

theorem scanGrid_writes {genuine : Timer → Prop} (s : Schedule) (grid : GridId) (now : Timestamp) :
    Schedule.Writes genuine s (s.scanGrid grid now).2 := by
  unfold Schedule.scanGrid
  split
  · exact .single (.scan s s.zoneScans _)
  · exact .refl

theorem dropTimers_writes {genuine : Timer → Prop} (r : Registry) (pool : PoolId) :
    Schedule.Writes genuine r.timers (r.dropTimers pool).timers :=
  Schedule.writes_foldl_remove _ _

theorem SamePlan.subtree (h : SamePlan r s) (pool : PoolId) :
    r.forest.subtree pool = s.forest.subtree pool := by
  have hlinks : Forest.Alike Pool.links r.forest s.forest := h.forest.through Pool.links
  exact hlinks.subtree pool

/-- What belongs to the timers of a subtree goes by the links and the timers alone. -/
theorem dropTimers_timers (hsubtree : s.forest.subtree pool = r.forest.subtree pool)
    (htimers : s.timers = r.timers) : (s.dropTimers pool).timers = (r.dropTimers pool).timers := by
  unfold dropTimers
  rw [hsubtree, htimers]

theorem respawnPool_timers (hr : r.Planned) (pool : PoolId) :
    (exec (respawnPool pool) r).2.timers = (r.dropTimers pool).timers := by
  unfold respawnPool
  rw [exec_modify_bind]
  have hplanned : (r.dropTimers pool).Planned := hr.of_eq rfl rfl
  exact spawnPool_timers hplanned pool 0

theorem reseedPool_timers (hr : r.Planned) (pool : PoolId) :
    (exec (reseedPool pool) r).2.timers = (r.dropTimers pool).timers := by
  have hsteps : TendedSteps AnyPopulated r (r.despawnPool pool false).2 :=
    despawnPool_steps admits_tended hr pool false
  unfold reseedPool
  rw [exec_modify_bind, respawnPool_timers (hsteps.samePlan.planned hr)]
  exact dropTimers_timers (hsteps.samePlan.subtree pool).symm (r.despawnPool_timers pool false)

/-- Switching a pool off drops the timers of its subtree, of which an unknown pool has none. -/
theorem setActive_timers (hr : r.Planned) (pool : PoolId) (active : Bool) :
    (exec (setActive pool active) r).2.timers =
      if active then r.timers else (r.dropTimers pool).timers := by
  unfold setActive
  rw [exec_get_bind]
  by_cases hunknown : (!r.forest.contains pool) = true
  · have hnone : r.forest.subtree pool = [] :=
      Forest.subtree_of_unknown (by simpa using hunknown)
    unfold dropTimers
    rw [if_pos hunknown, hnone]
    cases active <;> rfl
  · rw [if_neg hunknown, exec_modify_bind]
    generalize hs : { r with
      forest := r.forest.modify pool (fun p => { p with active := active }) } = s
    have htimers : s.timers = r.timers := by rw [← hs]
    have hplan : SamePlan r s := by
      rw [← hs]
      exact ⟨Forest.alike_modify (fun _ _ => rfl), .refl _ _⟩
    have hplanned := hplan.planned hr
    have hsubtree := (hplan.subtree pool).symm
    cases active with
    | true =>
        simp only [if_true]
        rw [exec_bind_return (spawnPool pool 0) some]
        exact (spawnPool_timers hplanned pool 0).trans htimers
    | false =>
        simp only [Bool.false_eq_true, if_false]
        rw [exec_get_bind, exec_set_bind]
        exact (despawnPool_timers _ pool false).trans (dropTimers_timers hsubtree htimers)

/-! ## Operations without timers -/

/-- What has nothing to do with timers leaves them as they are. -/
theorem perform_timers (hr : r.Planned) {op : Operation} (h : op.sparesTimers = true) :
    (r.perform op).timers = r.timers := by
  cases op with
  | spawnPool pool count => exact spawnPool_timers hr pool count
  | spawnSingle pool mode => exact spawnSingle_timers hr pool mode
  | spawnAll => exact spawnAll_timers hr
  | spawnAt kind pool entry point => exact r.spawnAt_timers kind pool entry point
  | despawnPool pool corpses => exact r.despawnPool_timers pool corpses
  | setActive pool active =>
      cases active with
      | true => exact setActive_timers hr pool true
      | false => cases h
  | applyPatch scope patch =>
      rw [perform]
      cases hpatched : r.applyPatch? scope patch with
      | none => rfl
      | some s => exact applyPatch?_timers hpatched
  | handleDespawn handle bulk =>
      cases bulk with
      | false => cases h
      | true =>
          rw [perform]
          rcases exec_handleDespawn r handle true with ⟨-, h⟩ | ⟨spawn, -, h | ⟨p, hbulk, -, -⟩⟩
          · rw [h]
          · rw [h]
            rfl
          · cases hbulk
  | spawnPending point =>
      rw [perform]
      cases hspawned : r.spawnPending? point with
      | none => rfl
      | some s => exact spawnPending?_timers hspawned
  | onGridLoaded grid => exact r.spawnPendingAll_timers _
  | onGridUnloaded grid => exact r.unloadAll_timers _
  | expireRemains => rfl
  | host change => rfl
  | _ => cases h

/-! ## Genuine timers -/

/-- The timer of a pool and a point, as they are now. -/
def timerAt (q : Pool) (p : SpawnPoint) (pool : PoolId) (point : PointId) (due : Timestamp) :
    Timer :=
  ⟨q.kind, pool, q.root, point, due, due, p.grid, p.zone⟩

/-- A timer says what its pool and its point say, and is due when it was from the start. -/
def Genuine (r : Registry) (t : Timer) : Prop :=
  ∃ q p, r.forest.get? t.pool = some q ∧ r.points.get? t.point = some p ∧
    t = timerAt q p t.pool t.point t.due

theorem SamePlan.genuine (h : SamePlan r s) {t : Timer} (ht : r.Genuine t) : s.Genuine t := by
  obtain ⟨q, p, hq, hp, hsame⟩ := ht
  obtain ⟨q', hq', hpool⟩ := h.forest.find hq
  obtain ⟨p', hp', hpoint⟩ := h.points.find hp
  refine ⟨q', p', hq', hp', hsame.trans ?_⟩
  have hkind : q'.kind = q.kind := (congrArg Pool.kind hpool :)
  have hroot : q'.root = q.root := (congrArg Pool.root hpool :)
  have hgrid : p'.grid = p.grid := (congrArg SpawnPoint.grid hpoint :)
  have hzone : p'.zone = p.zone := (congrArg SpawnPoint.zone hpoint :)
  rw [timerAt, timerAt, hkind, hroot, hgrid, hzone]

/-- An entity is of the kind of its pool, and so is its timer. -/
theorem Sound.genuine_deathTimer (hr : r.Sound) {handle : EntityHandle} {spawn : LiveSpawn}
    (hlive : r.live.get? handle = some spawn) {p : SpawnPoint} {q : Pool}
    (hp : r.points.get? spawn.point = some p) (hq : r.forest.get? spawn.pool = some q)
    (due : Timestamp) : r.Genuine (deathTimer spawn p q due) := by
  obtain ⟨p', hp', -, hheld⟩ := hr.tracking.tracked hlive
  obtain ⟨pool, c, hpool, -, hcandidate, hkind⟩ := hr.leaf_of_held hp' hheld
  have hsame : spawn.kind = q.kind := by
    obtain rfl := Option.some.inj (hq.symm.trans hpool)
    rw [← hr.kind_of_candidate hpool (List.mem_of_find?_eq_some hcandidate), hkind]
    rfl
  refine ⟨q, p, hq, hp, ?_⟩
  rw [deathTimer, timerAt, hsame]

/-- Clearing removes what a proper filter selects. -/
theorem clearRespawns_cases (r : Registry) (filter : TimerFilter) :
    (filter.given = 1 ∧ r.clearRespawns filter =
      .ok (r.timers.selected filter, { r with timers := r.timers.remove filter })) ∨
    (filter.given ≠ 1 ∧ r.clearRespawns filter = .error (.ambiguousFilter filter.given)) := by
  unfold clearRespawns Schedule.take
  by_cases hgiven : filter.given = 1
  · exact .inl ⟨hgiven, by simp [hgiven]⟩
  · exact .inr ⟨hgiven, by simp [hgiven]⟩

/-- A timer is put back as its pool and its point would have it. -/
theorem restoreTimer_cases (r : Registry) (pool : PoolId) (point : PointId) (due : Timestamp) :
    (∃ q p, r.forest.get? pool = some q ∧ r.points.get? point = some p ∧
      r.restoreTimer pool point due =
        .ok (r.timers.accepts (timerAt q p pool point due) false,
          { r with timers := r.timers.add (timerAt q p pool point due) false })) ∨
    ∃ e, r.restoreTimer pool point due = .error e := by
  unfold restoreTimer
  cases hq : r.forest.get? pool with
  | none => exact .inr ⟨_, rfl⟩
  | some q =>
      cases hp : r.points.get? point with
      | none => exact .inr ⟨_, rfl⟩
      | some p => exact .inl ⟨q, p, rfl, rfl, rfl⟩

/-! ## What operations write -/

theorem handleDeath_writes (hr : r.Sound) (handle : EntityHandle) (looted : Bool) :
    Schedule.Writes r.Genuine r.timers (r.perform (.handleDeath handle looted)).timers := by
  rw [perform]
  rcases exec_handleDeath r handle looted with
    ⟨-, h⟩ | ⟨spawn, -, -, h⟩ | ⟨spawn, p, q, corpseSecs, g, due, hlive, hpoint, hpool, h⟩
  · rw [h]
  · rw [h]
  · rw [h]
    exact expedite_writes (hr.buried hlive hpoint corpseSecs g _)
      (.single (.add _ (hr.genuine_deathTimer hlive hpoint hpool due))) _ _ _

theorem handleDespawn_writes (hr : r.Planned) (handle : EntityHandle) (bulk : Bool) :
    Schedule.Writes r.Genuine r.timers (r.perform (.handleDespawn handle bulk)).timers := by
  rw [perform]
  rcases exec_handleDespawn r handle bulk with ⟨-, h⟩ | ⟨spawn, hlive, h | ⟨p, -, hpoint, h⟩⟩
  · rw [h]
  · rw [h]
    exact .refl
  · rw [h]
    exact expedite_writes (hr.departed hlive hpoint) .refl _ _ _

/-- Whatever a registry is asked for, it stores genuine timers only. -/
theorem perform_writes (hr : r.Sound) (op : Operation) :
    Schedule.Writes r.Genuine r.timers (r.perform op).timers := by
  have hplanned := hr.toPlanned
  cases hspared : op.sparesTimers with
  | true =>
      rw [perform_timers hplanned hspared]
  | false =>
      cases op with
      | respawnPool pool =>
          rw [perform, respawnPool_timers hplanned]
          exact r.dropTimers_writes pool
      | reseedPool pool =>
          rw [perform, reseedPool_timers hplanned]
          exact r.dropTimers_writes pool
      | setActive pool active =>
          rw [perform, setActive_timers hplanned]
          cases active with
          | true => exact .refl
          | false => exact r.dropTimers_writes pool
      | clearRespawns filter =>
          rw [perform]
          rcases clearRespawns_cases r filter with ⟨-, h⟩ | ⟨-, h⟩
          · rw [h]
            exact .single (.remove _ filter)
          · rw [h]
      | restoreTimer pool point due =>
          rw [perform]
          rcases restoreTimer_cases r pool point due with ⟨q, p, hq, hp, h⟩ | ⟨e, h⟩
          · rw [h]
            exact .single (.add _ ⟨q, p, hq, hp, rfl⟩)
          · rw [h]
      | respawnDue => exact runTimers_writes hplanned .refl _
      | respawnGrid grid =>
          have hscanned := hplanned.timed (r.timers.scanGrid grid r.now).2
          exact runTimers_writes hscanned (scanGrid_writes r.timers grid r.now) _
      | respawnZone zone =>
          have hscanned := hplanned.timed (r.timers.scanZone zone r.now).2
          exact runTimers_writes hscanned (scanZone_writes r.timers zone r.now) _
      | handleDeath handle looted => exact handleDeath_writes hr handle looted
      | handleDespawn handle bulk => exact handleDespawn_writes hplanned handle bulk
      | _ => cases hspared

/-! ## Reachable registries -/

theorem Reachable.coherent {rows : PoolRows} {allowed : Operation → Prop}
    (h : Reachable rows allowed r) : r.timers.Coherent := by
  induction h with
  | loaded h =>
      rw [load_timers h]
      exact Schedule.coherent_empty _
  | step hr op _ ih => exact (perform_writes hr.sound op).coherent ih

/-- Every pending timer says what its pool and its point say. -/
theorem Reachable.genuine {rows : PoolRows} {allowed : Operation → Prop}
    (h : Reachable rows allowed r) {kind : SpawnKind} {key : TimerKey} {t : Timer}
    (ht : r.timers.get? kind key = some t) : r.Genuine t := by
  induction h with
  | loaded h =>
      rw [load_timers h] at ht
      cases kind <;> cases ht
  | step hr op _ ih =>
      have hplan := (perform_steps hr.sound.toPlanned op).samePlan
      rcases (perform_writes hr.sound op).get?_cases hr.coherent ht with ht | ht
      · exact hplan.genuine (ih ht)
      · exact hplan.genuine ht

end Registry

end SpawnForest
