import SpawnForest.Proofs.Registry.Roots
import SpawnForest.Proofs.Registry.TimerWrites

/-!
# Why a timer goes

A pending timer changes for a cause that the operation names, and for no other
one: it is due and is run, its pool is respawned, emptied or switched off, it is
cleared, or a replacement uses it up. `TimersAfter` says for each operation
which timers are gone after it and that all others are still there, and
`Reachable.timersAfter` that this is what happens, in every reachable registry
and for every operation that no fault breaks off.

The one cause that can be missed is a replacement: it happens inside a reported
death or despawn, and it takes out a timer only after it has reserved another
point for the root. `Replaces` says which timer that is.
-/

namespace SpawnForest

/-- Every key but the touched ones keeps its timer. -/
def Schedule.SameBut (touched : SpawnKind → TimerKey → Prop) (s s' : Schedule) : Prop :=
  ∀ kind key, ¬touched kind key → s'.get? kind key = s.get? kind key

/-- Every key keeps its timer. -/
def Schedule.Same (s s' : Schedule) : Prop := ∀ kind key, s'.get? kind key = s.get? kind key

theorem Schedule.same_of_eq {s s' : Schedule} (h : s' = s) : s.Same s' :=
  fun _ _ => h ▸ rfl

namespace Registry

variable {r s : Registry}

/-- Whether an operation goes through, with no fault to break it off. -/
def completes (r : Registry) : Operation → Bool
  | .spawnPool pool count => (exec (spawnPool pool count) r).1.isOk
  | .spawnSingle pool mode => (exec (spawnSingle pool mode) r).1.isOk
  | .spawnAll => (exec spawnAll r).1.isOk
  | .spawnAt kind pool entry point => (exec (spawnAt kind pool entry point) r).1.isOk
  | .respawnPool pool => (exec (respawnPool pool) r).1.isOk
  | .reseedPool pool => (exec (reseedPool pool) r).1.isOk
  | .setActive pool active => (exec (setActive pool active) r).1.isOk
  | .respawnDue => (exec respawnDue r).1.isOk
  | .respawnGrid grid => (exec (respawnGrid grid) r).1.isOk
  | .respawnZone zone => (exec (respawnZone zone) r).1.isOk
  | .handleDeath handle looted => (exec (handleDeath handle looted) r).1.isOk
  | .handleDespawn handle bulk => (exec (handleDespawn handle bulk) r).1.isOk
  | _ => true

/-- One free point comes to be reserved for one of some pools, and no other reservation changes. -/
def ReservesOne (pools : List PoolId) (points points' : Table PointId SpawnPoint) : Prop :=
  ∃ x p held, held.pool ∈ pools ∧ points.get? x = some p ∧ p.reservation = none ∧
    (points.modify x (·.reserve held)).Alike (·.reservation) points'

/-- The despawn of an entity that was spawned from `root` is made up for at once: the point of the
entity became free, one point was reserved below the root, and the timer `t` is used up for it. It
is the timer of the entity's own pool and point, and if there is none the first one of the root. -/
structure Replaces (r : Registry) (spawn : LiveSpawn) (root : PoolId) (t : Timer) (s : Registry) :
    Prop where
  root_eq : r.forest.rootOf? spawn.pool = some root
  reserved : ReservesOne (r.forest.subtree root) (r.points.modify spawn.point (·.release)) s.points
  pending : r.timers.get? t.kind t.key = some t
  gone : s.timers.get? t.kind t.key = none
  others : r.timers.SameBut (fun kind key => kind = t.kind ∧ key = t.key) s.timers
  own : ∀ u, r.timers.get? spawn.kind (spawn.pool, spawn.point) = some u → t = u
  earliest : r.timers.get? spawn.kind (spawn.pool, spawn.point) = none →
    t.root = root ∧
      ∀ kind key u, r.timers.get? kind key = some u → u.root = root → t.Precedes u

/-- What an operation does to the pending timers, from the registry before it to the one after
it. -/
def TimersAfter (r s : Registry) : Operation → Prop
  | .respawnDue => r.timers.Drops s.timers (fun t => t.isDue r.now)
  | .respawnZone zone =>
    if Schedule.mayScan r.timers.recheckSecs (r.timers.zoneScans.get? zone) r.now then
      r.timers.Drops s.timers (fun t => t.zone == zone && t.isDue r.now)
    else r.timers.Same s.timers
  | .respawnGrid grid =>
    if Schedule.mayScan r.timers.recheckSecs (r.timers.gridScans.get? grid) r.now then
      r.timers.Drops s.timers (fun t => t.grid == grid && t.isDue r.now)
    else r.timers.Same s.timers
  | .respawnPool pool | .reseedPool pool | .setActive pool false =>
    r.timers.Drops s.timers (fun t => (r.forest.subtree pool).contains t.pool)
  | .clearRespawns filter =>
    match r.clearRespawns filter with
    | .ok _ => r.timers.Drops s.timers filter.selects
    | .error _ => r.timers.Same s.timers
  | .handleDeath handle _ =>
    r.timers.SameBut (fun kind key => ∃ spawn, r.live.get? handle = some spawn ∧
      kind = spawn.kind ∧ key = (spawn.pool, spawn.point)) s.timers
  | .handleDespawn handle false =>
    r.timers.Same s.timers ∨
      ∃ spawn root t, r.live.get? handle = some spawn ∧ Replaces r spawn root t s
  | .restoreTimer pool point due =>
    match r.restoreTimer pool point due with
    | .ok _ => ∃ q p, r.forest.get? pool = some q ∧ r.points.get? point = some p ∧
      r.timers.SameBut (fun kind key => kind = q.kind ∧ key = (pool, point)) s.timers
    | .error _ => r.timers.Same s.timers
  | _ => r.timers.Same s.timers

/-! ## Runs of timers -/

/-- A run of just the pending timers that are to go drops them, if it goes through. What a scan
writes before the run is no timer. -/
theorem drops_runTimers (hplanned : r.Planned) (hr : r.timers.Coherent) {timers : Schedule}
    (hindex : ∀ kind, timers.index kind = r.timers.index kind) {l : List Timer}
    {gone : Timer → Bool} (hl : ∀ t, t ∈ l ↔ r.timers.get? t.kind t.key = some t ∧ gone t = true)
    (hok : (exec (runTimers l) { r with timers := timers }).1.isOk = true) :
    r.timers.Drops (exec (runTimers l) { r with timers := timers }).2.timers gone := by
  have hget : ∀ kind key, timers.get? kind key = r.timers.get? kind key := by
    intro kind key
    rw [Schedule.get?, hindex, Schedule.get?]
  have hscanned := hplanned.timed timers
  obtain ⟨done, htimers, hall⟩ := exec_runTimers hscanned l
  rw [htimers, hall hok]
  intro kind key
  rw [← hget]
  refine Schedule.drops_foldl_erase (hr.of_indexes hindex) ?_ kind key
  intro t
  rw [hl, hget]

theorem timersAfter_respawnDue (hplanned : r.Planned) (hr : r.timers.Coherent)
    (hok : r.completes .respawnDue = true) :
    r.TimersAfter (r.perform .respawnDue) .respawnDue :=
  drops_runTimers hplanned hr (fun _ => rfl) (fun _ => hr.mem_due) hok

theorem timersAfter_respawnZone (hplanned : r.Planned) (hr : r.timers.Coherent) (zone : ZoneId)
    (hok : r.completes (.respawnZone zone) = true) :
    r.TimersAfter (r.perform (.respawnZone zone)) (.respawnZone zone) := by
  unfold TimersAfter
  rw [completes] at hok
  rw [perform]
  unfold respawnZone at hok ⊢
  simp only [exec_get_bind, exec_set_bind, Schedule.scanZone] at hok ⊢
  by_cases hgranted :
      Schedule.mayScan r.timers.recheckSecs (r.timers.zoneScans.get? zone) r.now = true
  · simp only [hgranted, if_true, Option.getD_some] at hok ⊢
    refine drops_runTimers hplanned hr (fun kind => by cases kind <;> rfl) ?_ hok
    intro t
    rw [List.mem_mergeSort, List.mem_filter, hr.mem_inZone]
    simp [and_assoc]
  · simp only [hgranted]
    exact Schedule.same_of_eq rfl

theorem timersAfter_respawnGrid (hplanned : r.Planned) (hr : r.timers.Coherent) (grid : GridId)
    (hok : r.completes (.respawnGrid grid) = true) :
    r.TimersAfter (r.perform (.respawnGrid grid)) (.respawnGrid grid) := by
  unfold TimersAfter
  rw [completes] at hok
  rw [perform]
  unfold respawnGrid at hok ⊢
  simp only [exec_get_bind, exec_set_bind, Schedule.scanGrid] at hok ⊢
  by_cases hgranted :
      Schedule.mayScan r.timers.recheckSecs (r.timers.gridScans.get? grid) r.now = true
  · simp only [hgranted, if_true, Option.getD_some] at hok ⊢
    refine drops_runTimers hplanned hr (fun kind => by cases kind <;> rfl) ?_ hok
    intro t
    rw [List.mem_mergeSort, List.mem_filter, hr.mem_inGrid]
    simp [and_assoc]
  · simp only [hgranted]
    exact Schedule.same_of_eq rfl

/-! ## Timers of a subtree -/

theorem drops_dropTimers (hr : r.timers.Coherent) (pool : PoolId) :
    r.timers.Drops (r.dropTimers pool).timers
      (fun t => (r.forest.subtree pool).contains t.pool) :=
  Schedule.drops_foldl_remove hr _

/-! ## Replacements -/

/-- A free point that is reserved and released is free again. -/
theorem alike_release_reserve {points : Table PointId SpawnPoint} {x : PointId} {p : SpawnPoint}
    (hp : points.get? x = some p) (hfree : p.reservation = none) (held : Reservation) :
    points.Alike (·.reservation) ((points.modify x (·.reserve held)).modify x (·.release)) := by
  intro y
  by_cases hy : y = x
  · subst hy
    rw [Table.get?_modify_self (Table.get?_modify_self hp), hp]
    exact congrArg some hfree
  · rw [Table.get?_modify_of_ne hy, Table.get?_modify_of_ne hy]

/-- One spawn reserves one free point below its pool, if it succeeds, and else none. -/
theorem exec_spawnSingle_reserves (hr : r.Planned) {pool : PoolId} {mode : Mode} {spawned : Bool}
    (hran : exec (spawnSingle pool mode) r = (.ok spawned, s)) :
    if spawned then ReservesOne (r.forest.subtree pool) r.points s.points
    else r.points.Alike (·.reservation) s.points := by
  obtain ⟨g, h⟩ := exec_spawnSingle hr.linked hr.named pool mode
  rcases h with ⟨-, h⟩ | ⟨-, h⟩ | ⟨leaf, q, c, x, hdescent, -, -, -, h⟩
  · obtain ⟨rfl, rfl⟩ := answer_inj (h.symm.trans hran)
    exact .refl _ _
  · cases (Prod.mk.inj (h.symm.trans hran)).1
  · have hbelow := hdescent.mem_subtree hr.linked
    rcases exec_spawnAt { r with random := g } q.kind leaf c.entry x with
      ⟨-, h'⟩ | ⟨_, _, -, -, h'⟩ | ⟨p, -, hp, hfree, h' | ⟨made, hmade, h'⟩ | ⟨-, h'⟩⟩
    · obtain ⟨rfl, rfl⟩ := answer_inj ((h.trans h').symm.trans hran)
      exact .refl _ _
    · cases (Prod.mk.inj ((h.trans h').symm.trans hran)).1
    · obtain ⟨rfl, rfl⟩ := answer_inj ((h.trans h').symm.trans hran)
      exact ⟨x, p, _, hbelow, hp, hfree, .refl _ _⟩
    · obtain ⟨rfl, rfl⟩ := answer_inj ((h.trans h').symm.trans hran)
      exact ⟨x, p, _, hbelow, hp, hfree, (materialize?_keeps hmade).2.1⟩
    · -- what was reserved is taken back
      obtain ⟨rfl, rfl⟩ := answer_inj ((h.trans h').symm.trans hran)
      exact alike_release_reserve hp hfree _

theorem ReservesOne.of_alike {pools : List PoolId} {points before after : Table PointId SpawnPoint}
    (h : ReservesOne pools before after) (halike : points.Alike (·.reservation) before) :
    ReservesOne pools points after := by
  obtain ⟨x, p, held, hbelow, hp, hfree, hafter⟩ := h
  obtain ⟨q, hq, hsame⟩ := halike.symm.find hp
  have hreserved := halike.modify (f := (·.reserve held)) (g := (·.reserve held)) x
    (fun _ _ _ => rfl)
  exact ⟨x, q, held, hbelow, hq, hsame.trans hfree, hreserved.trans hafter⟩

/-- One entity is asked for, and one is spawned: at the minimum, or else at the maximum. -/
theorem exec_spawnPool_eq_one {pool : PoolId} (h : exec (spawnPool pool 1) r = (.ok 1, s)) :
    exec (spawnSingle pool .minimum) r = (.ok true, s) ∨
    ∃ t, exec (spawnSingle pool .minimum) r = (.ok false, t) ∧
      exec (spawnSingle pool .maximum) t = (.ok true, s) := by
  rcases exec_spawnPool r pool 1 with hclosed | ⟨-, hfilled⟩
  · cases (Prod.mk.inj (hclosed.symm.trans h)).1
  · rw [hfilled, if_neg Nat.one_ne_zero, fill_minimum] at h
    obtain ⟨spawned, t, hfirst, h⟩ := exec_bind_eq_ok h
    cases spawned with
    | true =>
        obtain ⟨-, rfl⟩ := Prod.mk.inj h
        exact .inl hfirst
    | false =>
        obtain ⟨again, u, hsecond, h⟩ := exec_bind_eq_ok h
        cases again with
        | true =>
            obtain ⟨-, rfl⟩ := Prod.mk.inj h
            exact .inr ⟨t, hfirst, hsecond⟩
        | false => cases (Prod.mk.inj h).1

theorem exec_spawnPool_reserves (hr : r.Planned) {pool : PoolId}
    (hran : exec (spawnPool pool 1) r = (.ok 1, s)) :
    ReservesOne (r.forest.subtree pool) r.points s.points := by
  rcases exec_spawnPool_eq_one hran with h | ⟨t, hfirst, hsecond⟩
  · exact exec_spawnSingle_reserves hr h
  · -- the spawn at the minimum has reserved nothing, the one at the maximum has
    have hsteps : TendedSteps (Chosen pool) r (exec (spawnSingle pool .minimum) r).2 :=
      spawnSingle_steps admits_tended.toSpawns hr pool .minimum (fun _ _ _ _ _ h => h)
    rw [hfirst] at hsteps
    have hplan := hsteps.samePlan
    have hagain : ReservesOne (t.forest.subtree pool) t.points s.points :=
      exec_spawnSingle_reserves (hplan.planned hr) hsecond
    rw [hplan.subtree]
    exact hagain.of_alike (exec_spawnSingle_reserves hr hfirst)

/-- The timer that a replacement is made for: that of the point itself, or the first of the root. -/
theorem replacementTimer?_eq_some (hr : r.timers.Coherent) {kind : SpawnKind} {root pool : PoolId}
    {point : PointId} {t : Timer} (h : r.replacementTimer? kind root pool point = some t) :
    r.timers.get? t.kind t.key = some t ∧
      (∀ u, r.timers.get? kind (pool, point) = some u → t = u) ∧
      (r.timers.get? kind (pool, point) = none → t.root = root ∧
        ∀ kind key u, r.timers.get? kind key = some u → u.root = root → t.Precedes u) := by
  unfold replacementTimer? at h
  cases hown : r.timers.get? kind (pool, point) with
  | some u =>
      rw [hown] at h
      obtain rfl := Option.some.inj h
      obtain ⟨hkind, hkey⟩ := hr.keyed hown
      exact ⟨by rwa [hkind, hkey], fun _ hsame => Option.some.inj hsame, nofun⟩
  | none =>
      rw [hown] at h
      obtain ⟨⟨hpending, hroot⟩, hfirst⟩ := hr.earliestForRoot? h
      exact ⟨hpending, nofun, fun _ => ⟨hroot, hfirst⟩⟩

/-- A despawn that is made up for at once replaces the entity, and any other one leaves the timers
as they are. -/
theorem timersAfter_handleDespawn (hr : r.Sound) (hcoherent : r.timers.Coherent)
    (handle : EntityHandle) :
    r.TimersAfter (r.perform (.handleDespawn handle false)) (.handleDespawn handle false) := by
  unfold TimersAfter
  rw [perform]
  rcases exec_handleDespawn r handle false with ⟨-, h⟩ | ⟨spawn, hlive, h | ⟨p, -, hpoint, h⟩⟩
  · exact .inl (Schedule.same_of_eq (congrArg Registry.timers h))
  · exact .inl (Schedule.same_of_eq (congrArg Registry.timers h :))
  · rw [h]
    have hdepart : Change AnyPopulated r ((r.unlink handle spawn).release spawn.point spawn.pool) :=
      .depart hlive hpoint
    have hpoints : (r.points.modify spawn.point (·.release)).Alike (·.reservation)
        ((r.unlink handle spawn).release spawn.point spawn.pool).points := by
      have hdetach : r.points.Alike (·.reservation) (r.points.modify spawn.point (·.detach)) :=
        Table.alike_modify (fun _ _ => rfl)
      exact hdetach.modify spawn.point (fun _ _ _ => rfl)
    have hplan := hdepart.samePlan
    have hplanned := hplan.planned hr.toPlanned
    have htimers : ((r.unlink handle spawn).release spawn.point spawn.pool).timers = r.timers := rfl
    generalize (r.unlink handle spawn).release spawn.point spawn.pool = f at *
    rcases exec_expedite hplanned spawn.kind spawn.pool spawn.point with
      hsame | ⟨root, t, s, hroot, htimer, hspawned, hran⟩
    · exact .inl (Schedule.same_of_eq (hsame.trans htimers))
    · refine .inr ⟨spawn, root, t, hlive, ?_⟩
      obtain ⟨hpending, hown, hfirst⟩ := replacementTimer?_eq_some (htimers ▸ hcoherent) htimer
      have hreserved := exec_spawnPool_reserves hplanned hspawned
      rw [← hplan.subtree] at hreserved
      rw [hran]
      rw [htimers] at hpending hown hfirst ⊢
      refine ⟨hplan.rootOf? spawn.pool ▸ hroot, hreserved.of_alike hpoints, hpending, ?_, ?_, hown,
        hfirst⟩
      · simp [Schedule.get?_erase]
      · intro kind key huntouched
        exact (Schedule.get?_erase _ _ _ _ _).trans (if_neg huntouched)

/-- A death stores the timer of the entity, and a replacement may use up that timer and no other. -/
theorem timersAfter_handleDeath (hr : r.Planned) (hcoherent : r.timers.Coherent)
    (handle : EntityHandle) (looted : Bool) :
    r.TimersAfter (r.perform (.handleDeath handle looted)) (.handleDeath handle looted) := by
  unfold TimersAfter
  rw [perform]
  rcases exec_handleDeath r handle looted with
    ⟨-, h⟩ | ⟨spawn, -, -, h⟩ | ⟨spawn, p, q, corpseSecs, g, due, hlive, hpoint, hpool, h⟩
  · exact fun kind key _ => by rw [h]
  · exact fun kind key _ => by rw [h]
  · rw [h]
    generalize hburied : { r.bury handle spawn corpseSecs with
      random := g
      timers := r.timers.add (deathTimer spawn p q due) false } = f
    have htimers : f.timers = r.timers.add (deathTimer spawn p q due) false := by rw [← hburied]
    have hplanned : f.Planned := hburied ▸ hr.buried hlive hpoint corpseSecs g _
    have hstored : r.timers.SameBut (fun kind key => kind = spawn.kind ∧
        key = (spawn.pool, spawn.point)) f.timers := by
      intro kind key huntouched
      rw [htimers, Schedule.get?_add, if_neg (fun h => huntouched h.2)]
    intro kind key huntouched
    have hother : ¬(kind = spawn.kind ∧ key = (spawn.pool, spawn.point)) := fun h =>
      huntouched ⟨spawn, hlive, h⟩
    rcases exec_expedite hplanned spawn.kind spawn.pool spawn.point with
      hsame | ⟨root, t, s, -, htimer, -, hran⟩
    · rw [hsame]
      exact hstored kind key hother
    · -- the timer that is used up is the one just stored, or the one it had to give way to
      have hcoherent' : f.timers.Coherent := htimers ▸ hcoherent.add _ false
      obtain ⟨-, hown, -⟩ := replacementTimer?_eq_some hcoherent' htimer
      obtain ⟨u, hu⟩ := r.timers.exists_get?_add (deathTimer spawn p q due) false
      rw [← htimers] at hu
      obtain rfl := hown u hu
      obtain ⟨hkind, hkey⟩ := hcoherent'.keyed hu
      rw [hran]
      show (f.timers.erase t.kind t.key).get? kind key = _
      rw [Schedule.get?_erase, hkind, hkey]
      exact (if_neg hother).trans (hstored kind key hother)

/-! ## Every operation -/

theorem timersAfter_of_spared {op : Operation} (h : op.sparesTimers = true)
    (hsame : s.timers = r.timers) : r.TimersAfter s op := by
  have hkept := Schedule.same_of_eq hsame
  cases op with
  | setActive pool active =>
      cases active with
      | true => exact hkept
      | false => cases h
  | handleDespawn handle bulk =>
      cases bulk with
      | true => exact hkept
      | false => cases h
  | respawnPool | reseedPool | clearRespawns | restoreTimer => cases h
  | respawnDue | respawnGrid | respawnZone | handleDeath => cases h
  | _ => exact hkept

/-- Pending timers change for the cause that the operation names, and for no other one. -/
theorem Reachable.timersAfter {rows : PoolRows} (hr : Reachable rows (fun _ => True) r)
    (op : Operation) (hop : r.completes op = true) : r.TimersAfter (r.perform op) op := by
  have hcoherent := hr.coherent
  have hplanned := hr.sound.toPlanned
  cases hspared : op.sparesTimers with
  | true => exact timersAfter_of_spared hspared (perform_timers hplanned hspared)
  | false =>
      cases op with
      | respawnPool pool =>
          unfold TimersAfter
          rw [perform, respawnPool_timers hplanned]
          exact drops_dropTimers hcoherent pool
      | reseedPool pool =>
          unfold TimersAfter
          rw [perform, reseedPool_timers hplanned]
          exact drops_dropTimers hcoherent pool
      | setActive pool active =>
          cases active with
          | true => cases hspared
          | false =>
              unfold TimersAfter
              rw [perform, setActive_timers hplanned pool false]
              exact drops_dropTimers hcoherent pool
      | clearRespawns filter =>
          rcases clearRespawns_cases r filter with ⟨-, h⟩ | ⟨-, h⟩
          · simp only [TimersAfter, perform, h]
            exact Schedule.drops_remove hcoherent filter
          · simp only [TimersAfter, perform, h]
            exact Schedule.same_of_eq rfl
      | restoreTimer pool point due =>
          rcases restoreTimer_cases r pool point due with ⟨q, p, hq, hp, h⟩ | ⟨e, h⟩
          · simp only [TimersAfter, perform, h]
            refine ⟨q, p, hq, hp, fun kind key huntouched => ?_⟩
            rw [Schedule.get?_add, if_neg (fun h => huntouched h.2)]
          · simp only [TimersAfter, perform, h]
            exact Schedule.same_of_eq rfl
      | respawnDue => exact timersAfter_respawnDue hplanned hcoherent hop
      | respawnGrid grid => exact timersAfter_respawnGrid hplanned hcoherent grid hop
      | respawnZone zone => exact timersAfter_respawnZone hplanned hcoherent zone hop
      | handleDeath handle looted => exact timersAfter_handleDeath hplanned hcoherent handle looted
      | handleDespawn handle bulk =>
          cases bulk with
          | true => cases hspared
          | false => exact timersAfter_handleDespawn hr.sound hcoherent handle
      | _ => cases hspared

/-- An entity of the small map dies, and much later its timer is run: it is dropped because it is
due. -/
theorem timersAfter_camp :
    (((camp.perform (.spawnPool ⟨1⟩ 2)).perform (.handleDeath ⟨0⟩ false)).perform
        (.host (.advance 100000))).timers.size = 1 ∧
      (((camp.perform (.spawnPool ⟨1⟩ 2)).perform (.handleDeath ⟨0⟩ false)).perform
        (.host (.advance 100000))).TimersAfter
        ((((camp.perform (.spawnPool ⟨1⟩ 2)).perform (.handleDeath ⟨0⟩ false)).perform
          (.host (.advance 100000))).perform .respawnDue) .respawnDue := by
  have hlater : Reachable campRows (fun _ => True)
      (((camp.perform (.spawnPool ⟨1⟩ 2)).perform (.handleDeath ⟨0⟩ false)).perform
        (.host (.advance 100000))) :=
    (((reachable_camp _).step _ trivial).step _ trivial).step _ trivial
  exact ⟨by decide +kernel, Reachable.timersAfter hlater .respawnDue (by decide +kernel)⟩

end Registry

end SpawnForest
