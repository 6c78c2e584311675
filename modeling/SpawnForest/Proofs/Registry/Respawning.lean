import SpawnForest.Proofs.Registry.Presence
import SpawnForest.Proofs.Registry.Scanning
import SpawnForest.Proofs.Registry.TimerCauses
import SpawnForest.Proofs.Timer.Refilling

/-!
# What running timers comes to

A timer that is run is taken out, and then one entity is asked for below its
root, anywhere in the tree. So a run of timers is told by three things. It
leaves alone what spawning leaves alone: the plan, the clock, the remains and
whatever entities there are (`Populates`). It answers with the number of points
that it has reserved, and frees none (`ReservesNew`). And since each timer asks
for one entity, it reserves no more points than it takes out timers
(`exec_runTimers_counted`).

The zones of a tick are respawned one after the other. What goes with a zone is
what is due in it (`exec_respawnZone_drops`), and what is spawned for it has no
say in the scans of the next ones (`grantsScan_respawnZone`).
-/

namespace SpawnForest

namespace Schedule

variable {s s' s'' : Schedule} {gone gone' : Timer → Bool}

theorem Drops.trans (h : s.Drops s' gone) (h' : s'.Drops s'' gone') :
    s.Drops s'' (fun t => gone t || gone' t) := by
  intro kind key
  rw [h', h, Option.filter_filter]
  congr 1
  exact funext (fun t => (Bool.not_or (gone t) (gone' t)).symm)

/-- What is dropped is missing from the list of all timers, and nothing else is. -/
theorem Drops.all_eq (h : s.Drops s' gone) :
    s'.all = s.all.filter (fun t => !gone t) := by
  have hindex : ∀ kind, (s'.index kind).all = (s.index kind).all.filter (fun t => !gone t) := by
    intro kind
    have htimers : (s'.index kind).timers =
        (s.index kind).timers.filter (fun _ t => !gone t) := by
      refine Table.ext_get? (fun key => ?_)
      rw [Table.get?_filter]
      exact h kind key
    rw [TimerIndex.all, TimerIndex.all, htimers, Table.values, Table.values, List.filter_map]
    rfl
  rw [all, all, List.filter_append]
  exact congrArg₂ _ (hindex .creature) (hindex .gameObject)

theorem size_erase {kind : SpawnKind} {key : TimerKey} {t : Timer}
    (ht : s.get? kind key = some t) : (s.erase kind key).size + 1 = s.size := by
  have hindex : ((s.index kind).erase key).all.length + 1 = (s.index kind).all.length := by
    rw [TimerIndex.all, TimerIndex.all, TimerIndex.timers_erase]
    exact ((Table.erase_perm ht).map Prod.snd).length_eq.symm
  have hsplit := s.countP_setIndex kind ((s.index kind).erase key) (fun _ => true)
  simp only [List.countP_true] at hsplit
  rw [← length_all, ← length_all, erase]
  omega

end Schedule

/-! ## Counting free points -/

def freeCount (points : Table PointId SpawnPoint) : Nat := points.values.countP (·.isFree)

/-- So many free points come to be reserved, and every reservation stays. -/
structure ReservesNew (n : Nat) (points points' : Table PointId SpawnPoint) : Prop where
  kept : ∀ {x p held}, points.get? x = some p → p.reservation = some held →
    ∃ q, points'.get? x = some q ∧ q.reservation = some held
  count : freeCount points' + n = freeCount points

namespace ReservesNew

variable {m n : Nat} {points points' points'' : Table PointId SpawnPoint}

theorem of_alike (h : points.Alike (·.reservation) points') : ReservesNew 0 points points' where
  kept hp hheld := by
    obtain ⟨q, hq, hsame⟩ := h.find hp
    exact ⟨q, hq, hsame.trans hheld⟩
  count := (h.countP Option.isNone).symm

theorem trans (h : ReservesNew m points points') (h' : ReservesNew n points' points'') :
    ReservesNew (m + n) points points'' where
  kept hp hheld := by
    obtain ⟨q, hq, hheld⟩ := h.kept hp hheld
    exact h'.kept hq hheld
  count := by
    rw [← h.count, ← h'.count]
    omega

theorem of_reservesOne {pools : List PoolId} (h : Registry.ReservesOne pools points points') :
    ReservesNew 1 points points' := by
  obtain ⟨x, p, held, -, hp, hfree, halike⟩ := h
  refine ⟨fun {y q other} hq hheld => ?_, ?_⟩
  · have hne : y ≠ x := by
      rintro rfl
      obtain rfl := Option.some.inj (hp.symm.trans hq)
      rw [hfree] at hheld
      cases hheld
    obtain ⟨q', hq', hsame⟩ := halike.find ((Table.get?_modify_of_ne hne).trans hq)
    exact ⟨q', hq', hsame.trans hheld⟩
  · have hmodify := Table.countP_modify hp (·.reserve held) (·.isFree)
    have hafter := halike.countP Option.isNone
    have hbefore : p.isFree = true := by rw [SpawnPoint.isFree, hfree]; rfl
    rw [hbefore] at hmodify
    exact (congrArg (· + 1) hafter.symm).trans hmodify

theorem freeCount_eq (points : Table PointId SpawnPoint) :
    freeCount points = points.keys.countP (freeAt points) := by
  rw [freeCount, Table.values, Table.keys, List.countP_map, List.countP_map]
  refine List.countP_congr (fun e he => ?_)
  rw [Function.comp, Function.comp, freeAt, Table.mem_entries.mp he]

/-- The number is that of the points that were free and are not any more. -/
theorem length_reserved (h : ReservesNew n points points') (hkeys : points'.keys = points.keys) :
    (points.keys.filter (fun x => freeAt points x && !freeAt points' x)).length = n := by
  have hstill : ∀ x ∈ points.keys, freeAt points' x = true → freeAt points x = true := by
    intro x hx hfree
    obtain ⟨p, hp⟩ := Option.isSome_iff_exists.mp (Table.mem_keys.mp hx)
    obtain ⟨q, hq, hnone⟩ := freeAt_iff.mp hfree
    cases hheld : p.reservation with
    | none => exact freeAt_iff.mpr ⟨p, hp, hheld⟩
    | some held =>
        obtain ⟨q', hq', hheld'⟩ := h.kept hp hheld
        obtain rfl := Option.some.inj (hq.symm.trans hq')
        rw [hnone] at hheld'
        cases hheld'
  have hcount := h.count
  rw [freeCount_eq, freeCount_eq, hkeys,
    points.keys.countP_eq_countP_filter_add (freeAt points) (freeAt points'), List.countP_filter,
    List.countP_filter] at hcount
  have hfree : points.keys.countP (fun x => freeAt points x && freeAt points' x) =
      points.keys.countP (freeAt points') := by
    refine List.countP_congr (fun x hx => ?_)
    rw [Bool.and_eq_true]
    exact ⟨And.right, fun hfree => ⟨hstill x hx hfree, hfree⟩⟩
  rw [← List.countP_eq_length_filter]
  omega

end ReservesNew

namespace Registry

variable {may : Registry → PoolId → PointId → Prop} {rows : PoolRows}
  {r s t : Registry} {pool : PoolId} {n : Nat}

/-! ## What spawning leaves alone -/

/-- A registry that was populated: its plan, its clock and its remains are the same, and its host
has destroyed and lost no entity. -/
structure Populates (r s : Registry) : Prop where
  plan : SamePlan r s
  now : s.now = r.now
  remains : s.remains = r.remains
  destroyed : s.host.destroyed = r.host.destroyed
  entities : ∀ {handle}, r.host.entities.contains handle = true →
    s.host.entities.contains handle = true

namespace Populates

theorem refl (r : Registry) : Populates r r := ⟨.refl r, rfl, rfl, rfl, id⟩

theorem trans (hrs : Populates r s) (hst : Populates s t) : Populates r t :=
  ⟨hrs.plan.trans hst.plan, hst.now.trans hrs.now, hst.remains.trans hrs.remains,
    hst.destroyed.trans hrs.destroyed, fun h => hst.entities (hrs.entities h)⟩

theorem of_steps (h : Relation.ReflTransGen Populates r s) : Populates r s := by
  induction h with
  | refl => exact .refl r
  | tail _ hstep ih => exact ih.trans hstep

theorem of_timers (r : Registry) (timers : Schedule) : Populates r { r with timers := timers } :=
  ⟨⟨.refl _ _, .refl _ _⟩, rfl, rfl, rfl, id⟩

theorem materialize {point : PointId} (h : r.materialize? point = some s) : Populates r s := by
  have hplan : SamePlan r s := (Change.materialize point h : Change AnyPopulated r s).samePlan
  rcases materialize?_cases h with rfl | ⟨_, request, handle, host, -, -, -, hmade, rfl⟩
  · exact .refl _
  · obtain ⟨hentities, hdestroyed⟩ := Host.entities_instantiate? hmade
    have hnow : host.now = r.host.now :=
      (congrArg Host.now (Host.sameBut_instantiate? hmade).bare :)
    refine ⟨hplan, hnow, remains_of_alike (Table.alike_modify (fun _ _ => rfl)),
      hdestroyed, fun hthere => ?_⟩
    show (host.entities.get? _).isSome = true
    rw [hentities, Table.get?_insert]
    split
    · rfl
    · exact hthere

end Populates

theorem spawns_populates (may : Registry → PoolId → PointId → Prop) : Spawns may Populates where
  samePlan h := h.plan
  draw _ _ := ⟨⟨.refl _ _, .refl _ _⟩, rfl, rfl, rfl, id⟩
  reserve hcandidate hpoint hfree hmay :=
    ⟨(Change.reserve hcandidate hpoint hfree hmay).samePlan, rfl,
      remains_of_alike (Table.alike_modify (fun _ _ => rfl)), rfl, id⟩
  materialize h := .materialize h
  withdraw hpoint hheld hentity :=
    ⟨(Change.withdraw hpoint hheld hentity : Change may _ _).samePlan, rfl,
      remains_of_alike (Table.alike_modify (fun _ _ => rfl)), rfl, id⟩

theorem populates_spawnPool (hr : r.Planned) (pool : PoolId) (count : Nat) :
    Populates r (exec (spawnPool pool count) r).2 :=
  .of_steps (spawnPool_steps_any (spawns_populates _) hr pool count)

theorem populates_runTimers (hr : r.Planned) (l : List Timer) :
    Populates r (exec (runTimers l) r).2 := by
  refine .of_steps ?_
  induction l generalizing r with
  | nil => exact .refl
  | cons t l ih =>
      unfold runTimers
      rw [exec_get_bind]
      split
      · exact ih hr
      · rw [exec_set_bind]
        have hplanned := hr.timed (r.timers.erase t.kind t.key)
        refine .head (.of_timers r (r.timers.erase t.kind t.key)) ?_
        exact spawnPool_bind_steps (spawns_populates _) hplanned _ 1
          (fun n s hs => steps_bind (ih hs) (fun _ _ _ => .refl))

theorem populates_respawnZone (hr : r.Planned) (zone : ZoneId) :
    Populates r (r.perform (.respawnZone zone)) := by
  have hscanned := hr.timed (r.timers.scanZone zone r.now).2
  exact (Populates.of_timers r _).trans (populates_runTimers hscanned _)

/-! ## Counted spawns -/

theorem exec_spawnSingle_counted (hr : r.Planned) {mode : Mode} {spawned : Bool}
    (h : exec (spawnSingle pool mode) r = (.ok spawned, s)) :
    s.Planned ∧ ReservesNew spawned.toNat r.points s.points := by
  have hsteps : Relation.ReflTransGen Populates r (exec (spawnSingle pool mode) r).2 :=
    spawnSingle_steps (spawns_populates (Chosen pool)) hr pool mode (fun _ _ _ _ _ h => h)
  rw [h] at hsteps
  refine ⟨(Populates.of_steps hsteps).plan.planned hr, ?_⟩
  have hreserves := exec_spawnSingle_reserves hr h
  cases spawned with
  | true => exact .of_reservesOne hreserves
  | false => exact .of_alike hreserves

theorem exec_spawnPool_counted (hr : r.Planned) (h : exec (spawnPool pool 1) r = (.ok n, s)) :
    ReservesNew n r.points s.points ∧ n ≤ 1 :=
  exec_spawnPool_ok (P := Planned) (R := fun n r s => ReservesNew n r.points s.points)
    (fun _ => .of_alike (.refl _ _)) ReservesNew.trans
    (fun hr h => exec_spawnSingle_counted hr h) hr h

/-- A run of timers answers with the number of points that it has reserved, and has taken out at
least as many timers. -/
theorem exec_runTimers_counted (hr : r.Planned) {l : List Timer}
    (h : exec (runTimers l) r = (.ok n, s)) :
    ReservesNew n r.points s.points ∧ n + s.timers.size ≤ r.timers.size := by
  induction l generalizing r n with
  | nil =>
      obtain ⟨rfl, rfl⟩ := answer_inj h
      exact ⟨.of_alike (.refl _ _), Nat.le_of_eq (Nat.zero_add _)⟩
  | cons t l ih =>
      unfold runTimers at h
      rw [exec_get_bind] at h
      cases ht : r.timers.get? t.kind t.key with
      | none =>
          simp only [ht] at h
          exact ih hr h
      | some u =>
          simp only [ht] at h
          rw [exec_set_bind] at h
          have hsize := Schedule.size_erase ht
          have hplanned := hr.timed (r.timers.erase t.kind t.key)
          obtain ⟨m, r', hspawned, h⟩ := exec_bind_eq_ok h
          obtain ⟨k, s', hrest, h⟩ := exec_bind_eq_ok h
          obtain ⟨rfl, rfl⟩ := answer_inj h
          obtain ⟨hone, hle⟩ := exec_spawnPool_counted hplanned hspawned
          have hkept := spawnPool_timers hplanned t.root 1
          have hpopulated := populates_spawnPool hplanned t.root 1
          rw [hspawned] at hkept hpopulated
          obtain ⟨hmore, hsizes⟩ := ih (hpopulated.plan.planned hplanned) hrest
          replace hkept : r'.timers = r.timers.erase t.kind t.key := hkept
          rw [hkept] at hsizes
          exact ⟨hone.trans hmore, by omega⟩

/-! ## One zone -/

/-- Whether a zone may be scanned now. -/
def grantsScan (r : Registry) (zone : ZoneId) : Bool :=
  Schedule.mayScan r.timers.recheckSecs (r.timers.zoneScans.get? zone) r.now

theorem exec_respawnZone_counted (hr : r.Planned) {zone : ZoneId}
    (h : exec (respawnZone zone) r = (.ok n, s)) :
    ReservesNew n r.points s.points ∧ n + s.timers.size ≤ r.timers.size := by
  have hscanned := hr.timed (r.timers.scanZone zone r.now).2
  have hsize : (r.timers.scanZone zone r.now).2.size = r.timers.size := by
    unfold Schedule.scanZone
    split <;> rfl
  obtain ⟨hreserves, hle⟩ := exec_runTimers_counted hscanned h
  exact ⟨hreserves, hsize ▸ hle⟩

/-- The timers that go with a zone are those of the zone that are due, if the scan is granted. -/
theorem exec_respawnZone_drops (hr : Reachable rows (fun _ => True) r) {zone : ZoneId}
    (h : exec (respawnZone zone) r = (.ok n, s)) :
    r.timers.Drops s.timers (fun t => t.zone == zone && (r.grantsScan zone && t.isDue r.now)) := by
  have hleft : r.perform (.respawnZone zone) = s := congrArg Prod.snd h
  have hok : r.completes (.respawnZone zone) = true := by rw [completes, h]; rfl
  have hafter := hr.timersAfter (.respawnZone zone) hok
  rw [hleft, TimersAfter] at hafter
  cases hgranted : r.grantsScan zone with
  | true =>
      rw [grantsScan] at hgranted
      rw [if_pos hgranted] at hafter
      exact hafter
  | false =>
      rw [grantsScan] at hgranted
      rw [if_neg (Bool.eq_false_iff.mp hgranted)] at hafter
      exact Schedule.drops_of_same hafter (fun t => by rw [Bool.false_and, Bool.and_false])

/-- A zone that is scanned has no say in the scans of other zones. -/
theorem grantsScan_respawnZone (hr : r.Planned) {zone other : ZoneId} (hne : other ≠ zone) :
    (r.perform (.respawnZone zone)).grantsScan other = r.grantsScan other := by
  obtain ⟨hscans, hrecheck⟩ := scans_respawnZone hr zone
  obtain ⟨hscans', hrecheck'⟩ := r.timers.scanZone_scans zone r.now
  rw [grantsScan, grantsScan, (populates_respawnZone hr zone).now, hrecheck, hrecheck', hscans,
    hscans']
  split
  · rw [Table.get?_insert_of_ne _ _ hne]
  · rfl

end Registry

end SpawnForest
