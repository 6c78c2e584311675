import Mathlib.Order.Bounds.Basic
import SpawnForest.Proofs.Timer.Merging
import SpawnForest.Proofs.World.Restoring

/-!
# Snapshots of any origin

A snapshot may list one place several times, and it may list timers of other
instances and of pools and points that are gone. What is restored of it are the
timers that the rest stand for (`timer?`), merged into those of the instance in
the order of the list (`foldl_restoreNext_eq`).

A pool and a point are all that tells apart two genuine timers of one time
(`Genuine.eq_timerAt`). So each place ends up with the least time that it had or
was listed with (`Restored`), whatever the order, and nothing is left to do the
second time (`restore_keeps_least`).
-/

namespace SpawnForest

/-- A genuine timer is the one of its pool and its point at its time. -/
theorem Registry.Genuine.eq_timerAt {r : Registry} {t : Timer} (ht : r.Genuine t) {pool : PoolId}
    {point : PointId} {q : Pool} {p : SpawnPoint} (hq : r.forest.get? pool = some q)
    (hp : r.points.get? point = some p) (hkey : t.key = (pool, point)) :
    t = Registry.timerAt q p pool point t.due := by
  obtain ⟨q', p', hq', hp', hsame⟩ := ht
  obtain ⟨rfl, rfl⟩ := Prod.mk.inj hkey
  obtain rfl := Option.some.inj (hq.symm.trans hq')
  obtain rfl := Option.some.inj (hp.symm.trans hp')
  exact hsame

namespace TimerSnapshot

variable {i j : MapInstance} {s : TimerSnapshot} {sched : Schedule} {t : StoredTimer} {u : Timer}

/-! ## What stored timers stand for -/

/-- The timer that a stored one stands for, if it is for this instance and its pool and its point
are known there. -/
def timer? (i : MapInstance) (t : StoredTimer) : Option Timer :=
  if isFor i t then
    match i.registry.forest.get? t.pool, i.registry.points.get? t.point with
    | some q, some p => some (Registry.timerAt q p t.pool t.point t.due)
    | _, _ => none
  else none

theorem timer?_eq_some : timer? i t = some u ↔ isFor i t = true ∧
    ∃ q p, i.registry.forest.get? t.pool = some q ∧ i.registry.points.get? t.point = some p ∧
      u = Registry.timerAt q p t.pool t.point t.due := by
  unfold timer?
  by_cases hfor : isFor i t = true
  · cases hq : i.registry.forest.get? t.pool <;> cases hp : i.registry.points.get? t.point <;>
      simp [hfor, eq_comm]
  · simp [hfor]

theorem restoreOne_eq (i : MapInstance) (sched : Schedule) (t : StoredTimer) :
    restoreOne (withTimers i sched) t =
      match timer? i t with
      | none => (false, withTimers i sched)
      | some u => (sched.accepts u false, withTimers i (sched.add u false)) := by
  have hfor : isFor (withTimers i sched) t = isFor i t := rfl
  have hforest : (withTimers i sched).registry.forest = i.registry.forest := rfl
  have hpoints : (withTimers i sched).registry.points = i.registry.points := rfl
  unfold restoreOne timer? Registry.restoreTimer
  rw [hfor, hforest, hpoints]
  split
  · cases i.registry.forest.get? t.pool with
    | none => rfl
    | some q => cases i.registry.points.get? t.point <;> rfl
  · rfl

/-- A run through stored timers merges those that they stand for. -/
theorem foldl_restoreNext_eq (i : MapInstance) (l : List StoredTimer) (n : Nat)
    (sched : Schedule) : ∃ k, l.foldl restoreNext (n, withTimers i sched) =
      (n + k, withTimers i (sched.merge (l.filterMap (timer? i)))) := by
  induction l generalizing n sched with
  | nil => exact ⟨0, rfl⟩
  | cons t l ih =>
      rw [List.foldl_cons, restoreNext, restoreOne_eq]
      cases ht : timer? i t with
      | none =>
          rw [List.filterMap_cons_none ht]
          exact ih n sched
      | some u =>
          obtain ⟨k, hk⟩ := ih (n + (sched.accepts u false).toNat) (sched.add u false)
          rw [List.filterMap_cons_some ht]
          exact ⟨_, hk.trans (by rw [Nat.add_assoc]; rfl)⟩

/-- Timers that all come too late leave no trace. -/
theorem foldl_restoreNext_of_dueBy (i : MapInstance) (l : List StoredTimer) (n : Nat)
    (h : ∀ u ∈ l.filterMap (timer? i), sched.DueBy u.kind u.key u.due) :
    l.foldl restoreNext (n, withTimers i sched) = (n, withTimers i sched) := by
  refine List.foldlRecOn l restoreNext
    (motive := fun acc => acc = (n, withTimers i sched)) rfl ?_
  rintro acc rfl t ht
  rw [restoreNext, restoreOne_eq]
  cases htimer : timer? i t with
  | none => rfl
  | some u =>
      have hdue := h u (List.mem_filterMap.mpr ⟨t, ht, htimer⟩)
      have hrefused : sched.accepts u false = false := Schedule.accepts_eq_false_iff.mpr hdue
      show (n + (sched.accepts u false).toNat, withTimers i (sched.add u false)) = _
      rw [hrefused, Schedule.add_of_dueBy hdue]
      rfl

/-! ## What a place is listed with -/

/-- The time of the timer in a place, if there is one. -/
def pending (i : MapInstance) (kind : SpawnKind) (key : TimerKey) : Set Timestamp :=
  {due | ∃ t, i.registry.timers.get? kind key = some t ∧ t.due = due}

/-- The times that a snapshot lists for a pool and a point of an instance. -/
def listed (s : TimerSnapshot) (i : MapInstance) (key : TimerKey) : Set Timestamp :=
  {due | ∃ t ∈ s.content.timers, isFor i t = true ∧ (t.pool, t.point) = key ∧ t.due = due}

/-- One instance is another one with the timers of a snapshot put back. -/
structure Restored (s : TimerSnapshot) (i j : MapInstance) : Prop where
  /-- Nothing but the timers of both kinds has changed. -/
  timersOnly : j = withTimers i { i.registry.timers with
    creatures := j.registry.timers.creatures, gameObjects := j.registry.timers.gameObjects }
  /-- A known pool and a known point have the least of all times. -/
  least : ∀ {pool point q p}, i.registry.forest.get? pool = some q →
    i.registry.points.get? point = some p →
      (pending i q.kind (pool, point) ∪ s.listed i (pool, point)).Nonempty →
        ∃ due, IsLeast (pending i q.kind (pool, point) ∪ s.listed i (pool, point)) due ∧
          j.registry.timers.get? q.kind (pool, point) =
            some (Registry.timerAt q p pool point due)
  /-- All other places have what they had. -/
  others : ∀ {kind pool point},
    (∀ q p, i.registry.forest.get? pool = some q → i.registry.points.get? point = some p →
      q.kind = kind → s.listed i (pool, point) = ∅) →
        j.registry.timers.get? kind (pool, point) = i.registry.timers.get? kind (pool, point)

/-- The timers that a snapshot holds for an instance. -/
def timersFor (s : TimerSnapshot) (i : MapInstance) : List Timer :=
  s.content.timers.filterMap (timer? i)

/-- A timer that a snapshot holds is genuine, and its time is listed for its place. -/
theorem of_mem_timersFor (h : u ∈ s.timersFor i) :
    i.registry.Genuine u ∧ u.due ∈ s.listed i u.key ∧ ∃ q p,
      i.registry.forest.get? u.pool = some q ∧ i.registry.points.get? u.point = some p ∧
        u.kind = q.kind := by
  obtain ⟨t, hmem, ht⟩ := List.mem_filterMap.mp h
  obtain ⟨hfor, q, p, hq, hp, rfl⟩ := timer?_eq_some.mp ht
  exact ⟨⟨q, p, hq, hp, rfl⟩, ⟨t, hmem, hfor, rfl, rfl⟩, q, p, hq, hp, rfl⟩

variable {plan : MapPlan}

/-- What a place is offered is genuine. -/
theorem genuine_of_offers (hi : MapInstance.Reachable plan i) {kind : SpawnKind} {key : TimerKey}
    (h : i.registry.timers.Offers (s.timersFor i) kind key u) :
    i.registry.Genuine u ∧ u.slot = (kind, key) := by
  rcases h with hplace | ⟨hmem, hslot⟩
  · obtain ⟨hkind, hkey⟩ := hi.registry.coherent.keyed hplace
    exact ⟨hi.registry.genuine hplace, Prod.ext hkind hkey⟩
  · exact ⟨(of_mem_timersFor hmem).1, hslot⟩

/-- In a place of a known pool and a known point, the times that are offered are those that were
pending or listed. -/
theorem exists_offers_iff (hi : MapInstance.Reachable plan i) {pool : PoolId} {point : PointId}
    {q : Pool} {p : SpawnPoint} (hq : i.registry.forest.get? pool = some q)
    (hp : i.registry.points.get? point = some p) {due : Timestamp} :
    i.registry.timers.Offers (s.timersFor i) q.kind (pool, point)
        (Registry.timerAt q p pool point due) ↔
      due ∈ pending i q.kind (pool, point) ∪ s.listed i (pool, point) := by
  constructor
  · rintro (hplace | ⟨hmem, -⟩)
    · exact .inl ⟨_, hplace, rfl⟩
    · exact .inr (of_mem_timersFor hmem).2.1
  · rintro (⟨t, hplace, rfl⟩ | ⟨t, hmem, hfor, hkey, rfl⟩)
    · have hkeyed := (hi.registry.coherent.keyed hplace).2
      rw [← (hi.registry.genuine hplace).eq_timerAt hq hp hkeyed]
      exact .inl hplace
    · obtain ⟨rfl, rfl⟩ := Prod.mk.inj hkey
      exact .inr ⟨List.mem_filterMap.mpr ⟨t, hmem, timer?_eq_some.mpr ⟨hfor, q, p, hq, hp, rfl⟩⟩,
        rfl⟩

theorem toldByTime (hi : MapInstance.Reachable plan i) (s : TimerSnapshot) :
    i.registry.timers.ToldByTime (s.timersFor i) := by
  intro kind key t u ht hu hdue
  obtain ⟨⟨q, p, hq, hp, hsame⟩, hslot⟩ := genuine_of_offers hi ht
  obtain ⟨hgenuine, hslot'⟩ := genuine_of_offers hi hu
  have hkey : u.key = (t.pool, t.point) := congrArg Prod.snd (hslot'.trans hslot.symm)
  rw [hsame, hgenuine.eq_timerAt hq hp hkey, hdue]

/-! ## Restoring any snapshot -/

theorem restored_merge (hi : MapInstance.Reachable plan i) (s : TimerSnapshot) :
    Restored s i (withTimers i (i.registry.timers.merge (s.timersFor i))) where
  timersOnly := congrArg (withTimers i) (Schedule.merge_eq _ _)
  least := by
    intro pool point q p hq hp hnonempty
    obtain ⟨listed, hlisted⟩ := hnonempty
    obtain ⟨t, ht, -⟩ := ((exists_offers_iff hi hq hp).mpr hlisted).dueBy_merge
    obtain ⟨hoffered, hfirst⟩ := (Schedule.get?_merge_iff (toldByTime hi s)).mp ht
    obtain ⟨hgenuine, hslot⟩ := genuine_of_offers hi hoffered
    have hsame := hgenuine.eq_timerAt hq hp (congrArg Prod.snd hslot)
    rw [hsame] at hoffered
    refine ⟨t.due, ⟨(exists_offers_iff hi hq hp).mp hoffered, fun due hdue => ?_⟩, ?_⟩
    · exact hfirst _ ((exists_offers_iff hi hq hp).mpr hdue)
    · rw [← hsame]
      exact ht
  others := by
    intro kind pool point hunlisted
    refine Schedule.get?_merge_of_unlisted (fun u hu hslot => ?_)
    obtain ⟨-, hdue, q, p, hq, hp, hkind⟩ := of_mem_timersFor hu
    obtain ⟨hkind', hkey⟩ := Prod.mk.inj hslot
    obtain ⟨rfl, rfl⟩ := Prod.mk.inj hkey
    have hnone := hunlisted q p hq hp (hkind.symm.trans hkind')
    exact (Set.eq_empty_iff_forall_notMem.mp hnone) u.due hdue

/-- Restoring a snapshot leaves each of its places with the least time that the place had or is
listed with, and all else as it was. Restoring it again does nothing, and neither does its order
matter. A snapshot whose digest does not fit changes nothing. -/
theorem restore_keeps_least (hi : MapInstance.Reachable plan i) (s : TimerSnapshot) :
    (s.content.hash = s.hash →
      ∃ n j, s.restore i = .ok (n, j) ∧ Restored s i j ∧ s.restore j = .ok (0, j) ∧
        ∀ s' : TimerSnapshot, s'.content.hash = s'.hash →
          s'.content.timers.Perm s.content.timers → ∃ n', s'.restore i = .ok (n', j)) ∧
      (s.content.hash ≠ s.hash →
        s.restore i = .error (.hashMismatch s.hash s.content.hash) ∧
          i.after (.restore s) = i) := by
  have hverify : ∀ s : TimerSnapshot, s.content.hash = s.hash → s.verify = .ok () := fun s h =>
    if_pos h
  have hrun : ∀ s : TimerSnapshot, s.content.hash = s.hash → ∃ n, s.restore i =
      .ok (n, withTimers i (i.registry.timers.merge (s.timersFor i))) := by
    intro s h
    obtain ⟨k, hk⟩ := foldl_restoreNext_eq i s.content.timers 0 i.registry.timers
    exact ⟨_, (restore_eq (hverify s h) i).trans (congrArg Except.ok hk)⟩
  constructor
  · intro hhash
    obtain ⟨n, hn⟩ := hrun s hhash
    refine ⟨n, _, hn, restored_merge hi s, ?_, ?_⟩
    · rw [restore_eq (hverify s hhash), foldl_restoreNext_of_dueBy i s.content.timers 0]
      exact fun u hu => Schedule.dueBy_merge hu
    · intro s' hhash' hperm
      obtain ⟨n', hn'⟩ := hrun s' hhash'
      refine ⟨n', hn'.trans ?_⟩
      have hsame : i.registry.timers.merge (s'.timersFor i) =
          i.registry.timers.merge (s.timersFor i) :=
        hi.registry.coherent.merge_perm (toldByTime hi s) (hperm.filterMap _)
      rw [hsame]
  · intro hhash
    have hrefused : s.restore i = .error (.hashMismatch s.hash s.content.hash) := by
      rw [restore, verify, if_neg hhash]
    refine ⟨hrefused, ?_⟩
    rw [MapInstance.after, hrefused]

/-- A snapshot of the small map, with a digest that fits. -/
def campSnapshot (timers : List StoredTimer) : TimerSnapshot := ofContent ⟨⟨0⟩, 0, ⟨0⟩, timers⟩

/-- Two times for a place that lost an entity, one for a place that did not, a timer of another map
and one of a point that is not there. -/
def campTimers : List StoredTimer :=
  [⟨⟨2⟩, ⟨1⟩, ⟨0⟩, 0, ⟨250⟩⟩, ⟨⟨2⟩, ⟨1⟩, ⟨0⟩, 0, ⟨200⟩⟩, ⟨⟨2⟩, ⟨2⟩, ⟨0⟩, 0, ⟨400⟩⟩,
    ⟨⟨3⟩, ⟨4⟩, ⟨9⟩, 0, ⟨100⟩⟩, ⟨⟨3⟩, ⟨9⟩, ⟨0⟩, 0, ⟨50⟩⟩]

/-- Forwards or backwards, the timers lead the small map to the same place. -/
theorem restore_keeps_least_camp :
    MapInstance.Reachable campPlan campLosses ∧
      ∃ n n' j, (campSnapshot campTimers).restore campLosses = .ok (n, j) ∧
        Restored (campSnapshot campTimers) campLosses j ∧
        (campSnapshot campTimers).restore j = .ok (0, j) ∧
        (campSnapshot campTimers.reverse).restore campLosses = .ok (n', j) := by
  have hload : MapInstance.load campPlan .fresh = .ok (.ok campInstance) := rfl
  have hlosses : MapInstance.Reachable campPlan campLosses :=
    (((MapInstance.Reachable.loaded hload).step _).step _).step _
  have hhash : ∀ timers, (campSnapshot timers).content.hash = (campSnapshot timers).hash :=
    fun _ => rfl
  obtain ⟨n, j, hn, hrestored, hagain, horders⟩ :=
    (restore_keeps_least hlosses (campSnapshot campTimers)).1 (hhash _)
  obtain ⟨n', hn'⟩ :=
    horders (campSnapshot campTimers.reverse) (hhash _) (List.reverse_perm campTimers)
  exact ⟨hlosses, n, n', j, hn, hrestored, hagain, hn'⟩

end TimerSnapshot

end SpawnForest
