import SpawnForest.Proofs.Registry.TimerWrites
import SpawnForest.Proofs.Timer.Refilling
import SpawnForest.Proofs.World.Events
import SpawnForest.Proofs.World.Storing

/-!
# Timers that survive a restart

A snapshot keeps the pool, the point and the time of a timer. The rest of it is
what its pool and its point say, and these are the same in every instance of
the same rows, so putting a stored timer back gives the timer that was stored
(`restoreOne_stored`). No two timers of a schedule are kept in the same place,
so none of them is refused by an instance that has no timers yet, and that
instance ends up with the indexes of the one that was captured
(`restore_capture`).
-/

namespace SpawnForest.TimerSnapshot

variable {i j : MapInstance}

/-! ## What is stored -/

def stored (i : MapInstance) (t : Timer) : StoredTimer :=
  ⟨t.pool, t.point, i.registry.map, i.config.instanceId, t.due⟩

/-- A snapshot stores every timer, sorted by what is stored of it. -/
theorem capture_timers (i : MapInstance) : ∃ l : List Timer,
    l.Perm i.registry.timers.all ∧ (capture i).content.timers = l.map (stored i) := by
  have hsorted : (i.registry.timers.all.map (stored i)).mergeSort StoredTimer.sortsBefore =
      (i.registry.timers.all.mergeSort
        (fun t u => StoredTimer.sortsBefore (stored i t) (stored i u))).map (stored i) := by
    refine (List.map_mergeSort ?_).symm
    exact fun _ _ _ _ => rfl
  exact ⟨_, List.mergeSort_perm _ _, hsorted⟩

/-! ## Putting timers back -/

/-- An instance with other timers. -/
def withTimers (j : MapInstance) (s : Schedule) : MapInstance :=
  { j with registry := { j.registry with timers := s } }

/-- The timers of one instance belong to another one as well: it is a copy of the same map under
the same number, with the same pools and points. -/
structure Belong (i j : MapInstance) : Prop where
  plan : Registry.SamePlan i.registry j.registry
  map : j.registry.map = i.registry.map
  instanceId : j.config.instanceId = i.config.instanceId

/-- What is stored of a timer is enough to get it back. -/
theorem restoreOne_stored (h : Belong i j) {t : Timer} (ht : i.registry.Genuine t)
    (s : Schedule) :
    restoreOne (withTimers j s) (stored i t) =
      (s.accepts t false, withTimers j (s.add t false)) := by
  obtain ⟨q, p, hq, hp, hsame⟩ := h.plan.genuine ht
  have hfor : isFor (withTimers j s) (stored i t) = true := by
    simp [isFor, stored, withTimers, MapInstance.map, h.map, h.instanceId]
  have hrestored : (withTimers j s).registry.restoreTimer t.pool t.point t.due =
      .ok (s.accepts t false, (withTimers j (s.add t false)).registry) := by
    have hpool : (withTimers j s).registry.forest.get? t.pool = some q := hq
    have hpoint : (withTimers j s).registry.points.get? t.point = some p := hp
    unfold Registry.restoreTimer
    rw [hpool]
    dsimp only
    rw [hpoint]
    show Except.ok (s.accepts (Registry.timerAt q p t.pool t.point t.due) false,
      (withTimers j (s.add (Registry.timerAt q p t.pool t.point t.due) false)).registry) = _
    rw [← hsame]
  unfold restoreOne
  rw [if_pos hfor]
  unfold stored
  dsimp only
  rw [hrestored]
  rfl

/-- One timer more that is put back or passed over, with the number of those put back so far. -/
def restoreNext (acc : Nat × MapInstance) (t : StoredTimer) : Nat × MapInstance :=
  (acc.1 + (restoreOne acc.2 t).1.toNat, (restoreOne acc.2 t).2)

theorem restore_eq {s : TimerSnapshot} (h : s.verify = .ok ()) (i : MapInstance) :
    s.restore i = .ok (s.content.timers.foldl restoreNext (0, i)) := by
  unfold restore
  rw [h]
  rfl

/-- Timers that are new to an instance are all put back. -/
theorem foldl_restoreNext (h : Belong i j) {l : List Timer} {s : Schedule}
    (hl : ∀ t ∈ l, i.registry.Genuine t) (hnew : Schedule.NewTo l s) (n : Nat) :
    (l.map (stored i)).foldl restoreNext (n, withTimers j s) =
      (n + l.length, withTimers j (l.foldl (fun s t => s.add t false) s)) := by
  induction l generalizing s n with
  | nil => rfl
  | cons t l ih =>
      have hfirst : restoreNext (n, withTimers j s) (stored i t) =
          (n + 1, withTimers j (s.add t false)) := by
        rw [restoreNext, restoreOne_stored h (hl t List.mem_cons_self), hnew.head]
        rfl
      have hrest := ih (fun u hu => hl u (List.mem_cons_of_mem _ hu)) hnew.tail (n + 1)
      rw [List.map_cons, List.foldl_cons, List.foldl_cons, List.length_cons, hfirst, hrest,
        Nat.add_right_comm, Nat.add_assoc]

/-! ## Fresh instances -/

/-- A fresh instance has no timers, whether or not it was populated. -/
theorem timers_of_load {plan : MapPlan} {host : Host}
    (h : MapInstance.load plan host = .ok (.ok j)) :
    j.registry.timers = .empty plan.config.registry.recheckSecs := by
  obtain ⟨-, r, hr, hsame | hspawned⟩ := MapInstance.load_eq_ok h
  · rw [hsame, Registry.load_timers hr]
  · have hreachable : Registry.Reachable plan.rows (fun _ => True) r := .loaded hr
    rw [hspawned]
    exact (Registry.spawnAll_timers hreachable.sound.toPlanned).trans (Registry.load_timers hr)

/-- The timers of an instance belong to every copy of its map under its number. -/
theorem belong_of_reachable {plan fresh : MapPlan} (hi : MapInstance.Reachable plan i)
    (hj : MapInstance.Reachable fresh j) (hmap : fresh.map = plan.map)
    (hrows : fresh.rows = plan.rows)
    (hid : fresh.config.instanceId = plan.config.instanceId) : Belong i j := by
  obtain ⟨hiconfig, _, r, ops, hr, hi⟩ := hi.run
  obtain ⟨hjconfig, _, s, ops', hs, hj⟩ := hj.run
  rw [hmap, hrows] at hs
  have hrreach : Registry.Reachable plan.rows (fun _ => True) r := .loaded hr
  have hsreach : Registry.Reachable plan.rows (fun _ => True) s := .loaded hs
  obtain ⟨hiplan, himap⟩ := hrreach.sound.toPlanned.run ops
  obtain ⟨hjplan, hjmap⟩ := hsreach.sound.toPlanned.run ops'
  refine ⟨?_, ?_, ?_⟩
  · rw [hi, hj]
    exact (hiplan.symm.trans (.of_loads hr hs)).trans hjplan
  · rw [hi, hj, himap, hjmap, Registry.load_map hr, Registry.load_map hs]
  · rw [hiconfig, hjconfig, hid]

/-- A snapshot that is written, read and put back into a freshly loaded copy of the map restores
every timer, and the indexes of the copy are then those of the instance it was taken of. -/
theorem restore_capture {plan fresh : MapPlan} {host : Host} (hi : MapInstance.Reachable plan i)
    (hj : MapInstance.load fresh host = .ok (.ok j)) (hmap : fresh.map = plan.map)
    (hrows : fresh.rows = plan.rows)
    (hid : fresh.config.instanceId = plan.config.instanceId) :
    ofText (capture i).toText = .ok (capture i) ∧
      ∃ k, (capture i).restore j = .ok (i.registry.timers.size, k) ∧
        k.registry.timers.creatures = i.registry.timers.creatures ∧
        k.registry.timers.gameObjects = i.registry.timers.gameObjects := by
  have hverify : (capture i).verify = .ok () := verify_ofContent _
  refine ⟨ofText_toText hverify, ?_⟩
  obtain ⟨l, hl, htimers⟩ := capture_timers i
  have hbelong := belong_of_reachable hi (.loaded hj) hmap hrows hid
  have hcoherent := hi.registry.coherent
  have hgenuine : ∀ t ∈ l, i.registry.Genuine t := fun t ht =>
    hi.registry.genuine (hcoherent.mem_all.mp (hl.mem_iff.mp ht))
  have hnew : Schedule.NewTo l (.empty fresh.config.registry.recheckSecs) :=
    Schedule.newTo_empty ((hl.map Timer.slot).nodup_iff.mpr hcoherent.slots_nodup) _
  have hfresh : withTimers j (.empty fresh.config.registry.recheckSecs) = j := by
    rw [← timers_of_load hj]
    rfl
  have hrestored := foldl_restoreNext hbelong hgenuine hnew 0
  have hcount : l.length = i.registry.timers.size :=
    hl.length_eq.trans i.registry.timers.length_all
  rw [hfresh, ← htimers, Nat.zero_add, hcount] at hrestored
  refine ⟨_, (restore_eq hverify j).trans (congrArg Except.ok hrestored), ?_, ?_⟩
  · exact hcoherent.index_refill hl _ .creature
  · exact hcoherent.index_refill hl _ .gameObject

/-! ## A restart of the small map -/

/-- The small map, which nothing is spawned on when it is loaded. -/
def campPlan : MapPlan :=
  ⟨default, { (default : InstanceConfig) with spawnOnLoad := false }, Registry.campRows⟩

def campInstance : MapInstance := ⟨campPlan.config, Registry.camp, .empty, 0⟩

/-- The small map after two entities were spawned and died. -/
def campLosses : MapInstance :=
  ((campInstance.after (.operation (.spawnPool ⟨1⟩ 2))).after
    (.operation (.handleDeath ⟨0⟩ false))).after (.operation (.handleDeath ⟨1⟩ false))

/-- The timers of both entities are put back when the small map is loaded again. -/
theorem restore_capture_camp :
    campLosses.registry.timers.size = 2 ∧
      ofText (capture campLosses).toText = .ok (capture campLosses) ∧
      ∃ k, (capture campLosses).restore campInstance = .ok (campLosses.registry.timers.size, k) ∧
        k.registry.timers.creatures = campLosses.registry.timers.creatures ∧
        k.registry.timers.gameObjects = campLosses.registry.timers.gameObjects := by
  have hload : MapInstance.load campPlan .fresh = .ok (.ok campInstance) := rfl
  have hlosses : MapInstance.Reachable campPlan campLosses :=
    (((MapInstance.Reachable.loaded hload).step _).step _).step _
  exact ⟨by decide +kernel, restore_capture hlosses hload rfl rfl rfl⟩

end SpawnForest.TimerSnapshot
