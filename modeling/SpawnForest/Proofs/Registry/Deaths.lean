import SpawnForest.Proofs.Registry.AllOrNothing
import SpawnForest.Proofs.Registry.Minimums
import SpawnForest.Proofs.Registry.Reports
import SpawnForest.Proofs.Registry.TimerCauses
import SpawnForest.Proofs.Timer.Refilling

/-!
# What a death does

A death is one call, but the order of its steps shows in what it leaves behind.
The entity is buried first (`Buried`). Whether its root has fallen below the
minimum is then asked of the counts after the burial, once for the delay
(`RespawnsIn`) and once for the replacement. Between the two the timer is set,
unless the one that is pending at its key is due as early (`Schedule.Sets`), so
a replacement always finds a timer there and uses up this one. A replacement
that comes to nothing leaves the timer and whatever else there is
(`Aftermath`).
-/

namespace SpawnForest

/-! ## Setting a timer -/

namespace Schedule

/-- A timer was set at a key for some moment: one is pending there, at this moment or at that of the
timer before it, whichever is earlier. Every other timer is as it was, and so are the scans. -/
structure Sets (s s' : Schedule) (kind : SpawnKind) (key : TimerKey) (due : Timestamp) : Prop where
  pending : ∃ t, s'.get? kind key = some t ∧
    t.due.toNat =
      match s.get? kind key with
      | none => due.toNat
      | some u => min u.due.toNat due.toNat
  others : s.SameBut (fun k other => k = kind ∧ other = key) s'
  scans : s'.zoneScans = s.zoneScans ∧ s'.gridScans = s.gridScans ∧
    s'.recheckSecs = s.recheckSecs

theorem sets_add (s : Schedule) (t : Timer) : s.Sets (s.add t false) t.kind t.key t.due := by
  refine ⟨?_, ?_, ?_⟩
  · rw [get?_add]
    cases hbefore : s.get? t.kind t.key with
    | none => exact ⟨t, if_pos ⟨accepts_of_vacant hbefore false, rfl, rfl⟩, rfl⟩
    | some u =>
        have haccepts := accepts_of_pending hbefore
        by_cases hearly : u.due ≤ t.due
        · rw [decide_eq_true hearly] at haccepts
          rw [haccepts]
          exact ⟨u, rfl, (Nat.min_eq_left hearly).symm⟩
        · rw [decide_eq_false hearly] at haccepts
          exact ⟨t, if_pos ⟨haccepts, rfl, rfl⟩, (Nat.min_eq_right (Nat.le_of_not_le hearly)).symm⟩
  · intro kind key huntouched
    rw [get?_add, if_neg (fun h => huntouched h.2)]
  · unfold add setIndex
    cases t.kind <;> exact ⟨rfl, rfl, rfl⟩

end Schedule

namespace Registry

variable {r s : Registry} {pool root : PoolId}

/-! ## The burial -/

/-- An entity was buried: it is forgotten, and it lies at its point as the last one of the remains.
The point is free, and its pool and everything above it count one entity less. All else is the
same. -/
structure Buried (r : Registry) (handle : EntityHandle) (spawn : LiveSpawn) (expires : Timestamp)
    (s : Registry) : Prop where
  rest : s = { r with forest := s.forest, points := s.points, live := r.live.erase handle }
  point : ∃ p, r.points.get? spawn.point = some p ∧
    s.points.get? spawn.point = some { p with
      reservation := none
      entity := none
      remains := p.remains ++ [⟨handle, spawn.pool, expires⟩] }
  points : ∀ y, y ≠ spawn.point → s.points.get? y = r.points.get? y
  counts : Forest.CountsOneMore s.forest r.forest spawn.pool

theorem Balanced.buried_bury (hr : r.Balanced) {handle : EntityHandle} {spawn : LiveSpawn}
    (hlive : r.live.get? handle = some spawn) (corpseSecs : Nat) :
    Buried r handle spawn (r.now.plus corpseSecs) (r.bury handle spawn corpseSecs) := by
  obtain ⟨p, hp, -, hheld⟩ := hr.tracking.tracked hlive
  obtain ⟨c, -, hc, -⟩ := hr.candidate_of_held hp hheld
  refine ⟨rfl, ⟨p, hp, Table.get?_modify_self hp⟩, fun y hy => Table.get?_modify_of_ne hy, ?_⟩
  exact hr.linked.countsOneMore_lose (Forest.contains_iff.mpr ⟨c, hc⟩) (hr.counts_down hp hheld)

/-! ## The delay -/

/-- The delays that a registry may choose for a pool with such times: the fast one, if there is one
and the root is below its minimum, or else any in the range, if there is one, or else the one that
is configured. -/
def RespawnsIn (r : Registry) (root : PoolId) (fastSecs minSecs maxSecs delay : Nat) : Prop :=
  if 0 < fastSecs ∧ r.forest.hasRoom root .minimum = true then delay = fastSecs
  else if 0 < maxSecs ∨ 0 < minSecs then minSecs ≤ delay ∧ delay ≤ max minSecs maxSecs
  else delay = r.config.defaultRespawnSecs.toNat

theorem respawnsIn_of_exec {fastSecs delay : Nat} {minSecs maxSecs : UInt32}
    (h : exec (respawnDelay root fastSecs minSecs.toNat maxSecs.toNat) r = (.ok delay, s)) :
    r.RespawnsIn root fastSecs minSecs.toNat maxSecs.toNat delay := by
  unfold respawnDelay at h
  rw [exec_get_bind] at h
  simp only [Bool.and_eq_true, Bool.or_eq_true, decide_eq_true_eq] at h
  unfold RespawnsIn
  split_ifs at h ⊢
  · exact (answer_inj h).1.symm
  · obtain ⟨hdraw, -⟩ := answer_inj ((exec_choose_of_ok rfl).symm.trans h)
    have hmin := minSecs.toNat_lt
    have hmax := maxSecs.toNat_lt
    rw [← hdraw]
    refine ⟨Pcg.le_natIn (by omega) _ _, Nat.le_trans (Pcg.natIn_le _ _ _) (by omega)⟩
  · exact (answer_inj h).1.symm

/-! ## The replacement -/

namespace SpawnedAt

variable {leaf : PoolId} {x : PointId} {held : Reservation}

/-- What was drawn before a spawn has no say in what it did. -/
theorem of_drawn {g : Pcg} (h : SpawnedAt { r with random := g } pool leaf x held s) :
    SpawnedAt r pool leaf x held s :=
  ⟨h.openLeaf, h.assigned, h.candidate, h.point, h.points, h.counts, h.rest⟩

/-- What is drawn after a spawn has no say either. -/
theorem drawn (h : SpawnedAt r pool leaf x held s) (g : Pcg) :
    SpawnedAt r pool leaf x held { s with random := g } :=
  ⟨h.openLeaf, h.assigned, h.candidate, h.point, h.points, h.counts,
    congrArg (fun s : Registry => { s with random := g }) h.rest⟩

theorem remains (h : SpawnedAt r pool leaf x held s) {y : PointId} {p : SpawnPoint}
    (hp : r.points.get? y = some p) : ∃ q, s.points.get? y = some q ∧ q.remains = p.remains := by
  by_cases hy : y = x
  · subst hy
    obtain ⟨q, entity, hq, -, hspawned⟩ := h.point
    obtain rfl := Option.some.inj (hp.symm.trans hq)
    exact ⟨_, hspawned, rfl⟩
  · exact ⟨p, (h.points y hy).trans hp, rfl⟩

end SpawnedAt

/-- No entity was spawned, and nothing was done but drawing, or just one was. -/
def OneOrNone (pool : PoolId) (n : Nat) (r s : Registry) : Prop :=
  (n = 0 → ∃ g, s = { r with random := g }) ∧
    (n = 1 → ∃ leaf x held, SpawnedAt r pool leaf x held s)

namespace OneOrNone

theorem refl (pool : PoolId) (r : Registry) : OneOrNone pool 0 r r :=
  ⟨fun _ => ⟨r.random, rfl⟩, nofun⟩

theorem trans {m n : Nat} {t : Registry} (h : OneOrNone pool m r s) (h' : OneOrNone pool n s t) :
    OneOrNone pool (m + n) r t := by
  refine ⟨fun hnone => ?_, fun hone => ?_⟩
  · obtain ⟨g, rfl⟩ := h.1 (by omega)
    obtain ⟨g', rfl⟩ := h'.1 (by omega)
    exact ⟨g', rfl⟩
  · rcases Nat.eq_zero_or_pos m with hm | hm
    · obtain ⟨g, rfl⟩ := h.1 hm
      obtain ⟨leaf, x, held, hspawned⟩ := h'.2 (by omega)
      exact ⟨leaf, x, held, hspawned.of_drawn⟩
    · obtain ⟨leaf, x, held, hspawned⟩ := h.2 (by omega)
      obtain ⟨g, rfl⟩ := h'.1 (by omega)
      exact ⟨leaf, x, held, hspawned.drawn g⟩

end OneOrNone

theorem Balanced.oneOrNone_exec_spawnSingle (hr : r.Balanced) {mode : Mode} {spawned : Bool}
    (h : exec (spawnSingle pool mode) r = (.ok spawned, s)) : OneOrNone pool spawned.toNat r s := by
  cases spawned with
  | false => exact ⟨fun _ => hr.exec_spawnSingle_false h, nofun⟩
  | true =>
      obtain ⟨leaf, x, held, -, -, hspawned⟩ := hr.exec_spawnSingle_true h
      exact ⟨nofun, fun _ => ⟨leaf, x, held, hspawned⟩⟩

theorem Balanced.oneOrNone_exec_spawnPool (hr : r.Balanced) {n : Nat}
    (h : exec (spawnPool pool 1) r = (.ok n, s)) : OneOrNone pool n r s ∧ n ≤ 1 :=
  exec_spawnPool_ok (P := Balanced) (R := OneOrNone pool) (.refl pool) OneOrNone.trans
    (fun hr h => ⟨hr.balanced_exec_spawnSingle h, hr.oneOrNone_exec_spawnSingle h⟩) hr h

/-- What an attempt to replace a loss comes to, if a timer is pending for it: nothing, unless the
root is below its minimum, and then one entity more below the root, which uses up the timer, or
nothing again. -/
inductive Aftermath (r : Registry) (root : PoolId) (kind : SpawnKind) (key : TimerKey)
    (s : Registry) : Prop
  | spared (hroom : r.forest.hasRoom root .minimum = false) (g : Pcg)
      (hsame : s = { r with random := g })
  | replaced (hroom : r.forest.hasRoom root .minimum = true) {leaf : PoolId} {x : PointId}
      {held : Reservation} {t : Registry} (hspawned : SpawnedAt r root leaf x held t)
      (hused : s = { t with timers := r.timers.erase kind key })
  | waiting (hroom : r.forest.hasRoom root .minimum = true) (g : Pcg)
      (hsame : s = { r with random := g })

namespace Aftermath

variable {kind : SpawnKind} {key : TimerKey}

theorem of_drawn {g : Pcg} (h : Aftermath { r with random := g } root kind key s) :
    Aftermath r root kind key s := by
  cases h with
  | spared hroom g' hsame => exact .spared hroom g' hsame
  | replaced hroom hspawned hused => exact .replaced hroom hspawned.of_drawn hused
  | waiting hroom g' hsame => exact .waiting hroom g' hsame

theorem remains (h : Aftermath r root kind key s) {y : PointId} {p : SpawnPoint}
    (hp : r.points.get? y = some p) : ∃ q, s.points.get? y = some q ∧ q.remains = p.remains := by
  cases h with
  | spared _ _ hsame => exact ⟨p, hsame ▸ hp, rfl⟩
  | replaced _ hspawned hused => exact hused ▸ hspawned.remains hp
  | waiting _ _ hsame => exact ⟨p, hsame ▸ hp, rfl⟩

end Aftermath

theorem Balanced.aftermath_exec_expedite (hr : r.Balanced) (hcoherent : r.timers.Coherent)
    (hroot : r.forest.rootOf? pool = some root) {kind : SpawnKind} {x : PointId} {t : Timer}
    (ht : r.timers.get? kind (pool, x) = some t) {answer : Bool}
    (h : exec (expedite kind pool x) r = (.ok answer, s)) :
    Aftermath r root kind (pool, x) s := by
  unfold expedite at h
  rw [exec_get_bind, hroot] at h
  dsimp only at h
  cases hroom : r.forest.hasRoom root .minimum with
  | false =>
      rw [hroom] at h
      obtain ⟨-, rfl⟩ := answer_inj h
      exact .spared hroom _ rfl
  | true =>
      have hown : r.replacementTimer? kind root pool x = some t := by rw [replacementTimer?, ht]
      rw [hroom, hown] at h
      obtain ⟨n, u, hspawned, h⟩ := exec_bind_eq_ok h
      obtain ⟨hcases, hle⟩ := hr.oneOrNone_exec_spawnPool hspawned
      by_cases hone : n = 1
      · rw [if_pos hone] at h
        obtain ⟨leaf, y, held, hspawned⟩ := hcases.2 hone
        obtain ⟨hkind, hkey⟩ := hcoherent.keyed ht
        obtain ⟨-, rfl⟩ := answer_inj h
        refine .replaced hroom hspawned ?_
        rw [← hspawned.timers, hkind, hkey]
      · rw [if_neg hone] at h
        obtain ⟨g, rfl⟩ := hcases.1 (by omega)
        obtain ⟨-, rfl⟩ := answer_inj h
        exact .waiting hroom g rfl

/-! ## The whole call -/

/-- A death that goes through, once it is known where the entity came from. It is buried for as long
as its patches have it, its timer is set for a delay that the counts after the burial allow, and a
replacement is tried. -/
theorem Balanced.exec_handleDeath_ok (hr : r.Balanced) (hcoherent : r.timers.Coherent)
    {handle : EntityHandle} {spawn : LiveSpawn} (hlive : r.live.get? handle = some spawn)
    {p : SpawnPoint} {q : Pool} {c : Candidate} (hp : r.points.get? spawn.point = some p)
    (hq : r.forest.get? spawn.pool = some q) (hc : q.candidate? spawn.entry = some c)
    {looted answer : Bool} (h : exec (handleDeath handle looted) r = (.ok answer, s)) :
    ∃ attributes buried delay timers, attributes = r.patches.resolve p c q.template ∧
      Buried r handle spawn (r.now.plus (attributes.corpseSecs looted).toNat) buried ∧
      buried.RespawnsIn q.root q.template.spawnTimes.fastSecs.toNat
        attributes.spawnTimeRange.1.toNat attributes.spawnTimeRange.2.toNat delay ∧
      r.timers.Sets timers spawn.kind (spawn.pool, spawn.point) (r.now.plus delay) ∧
      Aftermath { buried with timers := timers } q.root spawn.kind (spawn.pool, spawn.point) s ∧
      answer = true := by
  obtain ⟨delay, g, hdelay, hran⟩ := exec_handleDeath_of_live hlive hp hq looted
  have htimes : r.deathTimes spawn p q looted =
      ((r.patches.resolve p c q.template).corpseSecs looted,
        (r.patches.resolve p c q.template).spawnTimeRange) := by rw [deathTimes, hc]
  rw [htimes] at hdelay hran
  generalize r.patches.resolve p c q.template = attributes at *
  have hburied := hr.buried_bury hlive (attributes.corpseSecs looted).toNat
  have hbury : Change (fun _ _ _ => True) r
      (r.bury handle spawn (attributes.corpseSecs looted).toNat) := .bury hlive hp _
  have hbalanced := hbury.balanced hr
  have hroot := (hbury.samePlan.rootOf? spawn.pool).trans (congrArg (·.map Pool.root) hq)
  generalize r.bury handle spawn (attributes.corpseSecs looted).toNat = buried at *
  have hset := r.timers.sets_add (deathTimer spawn p q (r.now.plus delay))
  have hstill := hcoherent.add (deathTimer spawn p q (r.now.plus delay)) false
  generalize r.timers.add (deathTimer spawn p q (r.now.plus delay)) false = timers at *
  have hstored : Balanced { buried with random := g, timers := timers } :=
    (Change.schedule _ timers : Change (fun _ _ _ => True) { buried with random := g } _).balanced
      (hbalanced.drawn g)
  obtain ⟨t, ht, -⟩ := hset.pending
  rw [hran] at h
  obtain ⟨replaced, u, hexpedited, h⟩ := exec_bind_eq_ok h
  obtain ⟨rfl, rfl⟩ := answer_inj h
  have haftermath := hstored.aftermath_exec_expedite hstill hroot ht hexpedited
  exact ⟨attributes, buried, delay, timers, rfl, hburied, respawnsIn_of_exec hdelay, hset,
    .of_drawn (g := g) haftermath, rfl⟩

/-- A death that goes through. The entity is forgotten and lies at its point for as long as its
patches have it, and a timer is set at its place. Only if its root is below the minimum then, an
entity may be spawned in exchange for this timer, and nothing else happens. -/
theorem Reachable.handleDeath_ok {rows : PoolRows}
    (hsmall : ((rows.points.map (·.point)).dedup).length < 2 ^ 32)
    (hr : Reachable rows (fun _ => True) r) {handle : EntityHandle} {spawn : LiveSpawn}
    (hlive : r.live.get? handle = some spawn) {looted answer : Bool}
    (h : exec (handleDeath handle looted) r = (.ok answer, s)) :
    answer = true ∧ s.live.get? handle = none ∧
    ∃ p q c attributes buried delay timers,
      r.points.get? spawn.point = some p ∧ r.forest.get? spawn.pool = some q ∧
      q.candidate? spawn.entry = some c ∧ attributes = r.patches.resolve p c q.template ∧
      Buried r handle spawn (r.now.plus (attributes.corpseSecs looted).toNat) buried ∧
      buried.RespawnsIn (r.forest.top spawn.pool) q.template.spawnTimes.fastSecs.toNat
        attributes.spawnTimeRange.1.toNat attributes.spawnTimeRange.2.toNat delay ∧
      r.timers.Sets timers spawn.kind (spawn.pool, spawn.point) (r.now.plus delay) ∧
      Aftermath { buried with timers := timers } (r.forest.top spawn.pool) spawn.kind
        (spawn.pool, spawn.point) s ∧
      ∃ p', s.points.get? spawn.point = some p' ∧ p'.remains = p.remains ++
        [⟨handle, spawn.pool, r.now.plus (attributes.corpseSecs looted).toNat⟩] := by
  have hbalanced := hr.balanced hsmall
  obtain ⟨p, q, c, hp, hq, hc⟩ := hbalanced.origin hlive
  have hreport : (Operation.handleDeath handle looted).reported? = some handle := rfl
  have hgone := (hbalanced.report_of_tracked hlive hreport).2
  have hleft : r.perform (.handleDeath handle looted) = s := congrArg Prod.snd h
  rw [hleft] at hgone
  obtain ⟨attributes, buried, delay, timers, hattributes, hburied, hdelay, hset, haftermath,
    hanswer⟩ := hbalanced.exec_handleDeath_ok hr.coherent hlive hp hq hc h
  rw [hr.rooted _ q hq] at hdelay haftermath
  obtain ⟨p₀, hp₀, hbody⟩ := hburied.point
  obtain rfl := Option.some.inj (hp.symm.trans hp₀)
  exact ⟨hanswer, hgone.untracked, p, q, c, attributes, buried, delay, timers, hp, hq, hc,
    hattributes, hburied, hdelay, hset, haftermath, haftermath.remains hbody⟩

/-- The hamlet once it is populated. -/
def settledHamlet : Registry := hamlet.perform (.spawnPool ⟨1⟩ 0)

/-- One of its two entities dies. Another one is spawned at once, which uses up the timer. -/
theorem handleDeath_ok_hamlet :
    settledHamlet.live.get? ⟨0⟩ = some ⟨.creature, ⟨5⟩, ⟨3⟩, 9⟩ ∧
      (exec (handleDeath ⟨0⟩ true) settledHamlet).1 = .ok true ∧
      (exec (handleDeath ⟨0⟩ true) settledHamlet).2.live.get? ⟨0⟩ = none ∧
      (exec (handleDeath ⟨0⟩ true) settledHamlet).2.timers.all.length = 0 ∧
      ∃ expires buried timers,
        Buried settledHamlet ⟨0⟩ ⟨.creature, ⟨5⟩, ⟨3⟩, 9⟩ expires buried ∧
        Aftermath { buried with timers := timers } (settledHamlet.forest.top ⟨5⟩) .creature
          (⟨5⟩, ⟨3⟩) (exec (handleDeath ⟨0⟩ true) settledHamlet).2 := by
  have hreachable : Reachable hamletRows (fun _ => True) settledHamlet :=
    (reachable_hamlet _).step _ trivial
  have hlive : settledHamlet.live.get? ⟨0⟩ = some ⟨.creature, ⟨5⟩, ⟨3⟩, 9⟩ := by decide +kernel
  have hanswer : (exec (handleDeath ⟨0⟩ true) settledHamlet).1 = .ok true := by decide +kernel
  obtain ⟨-, hgone, _, _, _, _, buried, _, timers, -, -, -, -, hburied, -, -, haftermath, -⟩ :=
    Reachable.handleDeath_ok (by decide) hreachable hlive (exec_eq_of_answer hanswer)
  exact ⟨hlive, hanswer, hgone, by decide +kernel, _, buried, timers, hburied, haftermath⟩

end Registry

end SpawnForest
