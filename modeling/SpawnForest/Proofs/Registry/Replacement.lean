import SpawnForest.Proofs.Registry.Roots
import SpawnForest.Proofs.Timer.Pending

/-!
# Deaths and replacements

A root stands for so many entities: those that it has, and those that a timer
is pending for (its slots). A death takes one of the former. It stores a timer
in its place, and if a replacement succeeds at once, that uses a timer up again,
so that the slots are what they were (`Reachable.slots_le_handleDeath`).

There is one exception. A pool has at most one timer for each point, and it may
lose an entity at a point while the timer of an earlier loss there is still
pending, since entities come back for other reasons as well. Then two losses
share a timer, and one slot is gone (`not_slots_le_handleDeath`).
-/

namespace SpawnForest.Registry

variable {α : Type} {r s : Registry} {pool root : PoolId}

/-- The entities of a root and the timers that are pending for it. -/
def slots (r : Registry) (root : PoolId) : Nat :=
  r.forest.totalCount root + r.timers.pendingForRoot root

/-! ## One spawn -/

/-- What a spawn below a pool comes to: the total of the pool goes up by one if the answer is the
one for success and stays if not, and the timers stay in both cases. -/
inductive AddsOne (r : Registry) (pool : PoolId) (success : α) : Except Fault α × Registry → Prop
  | added {s : Registry} (htimers : s.timers = r.timers)
      (htotal : s.forest.totalCount pool = r.forest.totalCount pool + 1) :
      AddsOne r pool success (.ok success, s)
  | nothing {answer : Except Fault α} {s : Registry} (hanswer : answer ≠ .ok success)
      (htimers : s.timers = r.timers)
      (htotal : s.forest.totalCount pool = r.forest.totalCount pool) :
      AddsOne r pool success (answer, s)

/-- What came before left total and timers as they were. -/
theorem AddsOne.after {success : α} {ran : Except Fault α × Registry}
    (h : AddsOne s pool success ran) (htimers : s.timers = r.timers)
    (htotal : s.forest.totalCount pool = r.forest.totalCount pool) :
    AddsOne r pool success ran := by
  cases h with
  | added htimers' htotal' => exact .added (htimers'.trans htimers) (htotal ▸ htotal')
  | nothing hanswer htimers' htotal' =>
      exact .nothing hanswer (htimers'.trans htimers) (htotal'.trans htotal)

theorem exec_spawnAt_addsOne (hr : r.Planned) {leaf : PoolId}
    (hbelow : leaf ∈ r.forest.subtree pool) (hsmall : r.forest.totalCount pool + 1 < 2 ^ 32)
    (kind : SpawnKind) (entry : UInt32) (x : PointId) :
    AddsOne r pool true (exec (spawnAt kind leaf entry x) r) := by
  have hgain := hr.linked.totalCount_gain hbelow hsmall
  rcases exec_spawnAt r kind leaf entry x with
    ⟨-, h⟩ | ⟨_, holder, -, -, h⟩ | ⟨_, -, -, -, h | ⟨made, hmade, h⟩ | ⟨-, h⟩⟩
  · rw [h]
    exact .nothing nofun rfl rfl
  · rw [h]
    exact .nothing nofun rfl rfl
  · rw [h]
    exact .added rfl hgain
  · rw [h]
    obtain ⟨hforest, -, -, htimers⟩ := materialize?_keeps hmade
    exact .added htimers (hforest ▸ hgain)
  · -- the reservation is taken back, and so is its count
    rw [h]
    refine .nothing nofun rfl ?_
    have hlinks : Forest.Alike Pool.links r.forest (r.forest.gain leaf) :=
      (r.forest.alike_adjust leaf 1 false).through Pool.links
    have hstill : leaf ∈ (r.forest.gain leaf).subtree pool := by
      rwa [← hlinks.subtree]
    show ((r.forest.gain leaf).lose leaf).totalCount pool = _
    rw [(hr.linked.of_alike hlinks).totalCount_lose hstill (by omega), hgain]
    rfl

theorem exec_spawnSingle_addsOne (hr : r.Planned) (hsmall : r.forest.totalCount pool + 1 < 2 ^ 32)
    (mode : Mode) : AddsOne r pool true (exec (spawnSingle pool mode) r) := by
  obtain ⟨g, h⟩ := exec_spawnSingle hr.linked hr.named pool mode
  rcases h with ⟨-, h⟩ | ⟨-, h⟩ | ⟨leaf, p, c, x, hdescent, -, -, -, h⟩
  · rw [h]
    exact .nothing nofun rfl rfl
  · rw [h]
    exact .nothing nofun rfl rfl
  · rw [h]
    have hdraw : SamePlan r { r with random := g } := ⟨.refl _ _, .refl _ _⟩
    have hspawn := exec_spawnAt_addsOne (hdraw.planned hr) (hdescent.mem_subtree hr.linked) hsmall
      p.kind c.entry x
    exact hspawn.after rfl rfl

theorem exec_fill_maximum_addsOne (hr : r.Planned)
    (hsmall : r.forest.totalCount pool + 1 < 2 ^ 32) :
    AddsOne r pool 1 (exec (fill pool 1 .maximum) r) := by
  have hspawn := exec_spawnSingle_addsOne hr hsmall .maximum
  rw [fill_maximum, exec_bind]
  generalize exec (spawnSingle pool .maximum) r = ran at hspawn
  cases hspawn with
  | added htimers htotal => exact .added htimers htotal
  | @nothing answer s hanswer htimers htotal =>
      cases answer with
      | error fault => exact .nothing nofun htimers htotal
      | ok spawned =>
          cases spawned with
          | true => exact absurd rfl hanswer
          | false => exact .nothing nofun htimers htotal

/-- One entity is asked for: it is spawned at the minimum, or at the maximum, or not at all. -/
theorem exec_spawnPool_addsOne (hr : r.Planned) (hsmall : r.forest.totalCount pool + 1 < 2 ^ 32) :
    AddsOne r pool 1 (exec (spawnPool pool 1) r) := by
  rcases exec_spawnPool r pool 1 with hclosed | ⟨-, hfilled⟩
  · rw [hclosed]
    exact .nothing nofun rfl rfl
  · rw [hfilled, if_neg Nat.one_ne_zero]
    have hspawn := exec_spawnSingle_addsOne hr hsmall .minimum
    have hsteps : TendedSteps (Chosen pool) r (exec (spawnSingle pool .minimum) r).2 :=
      spawnSingle_steps admits_tended.toSpawns hr pool .minimum (fun _ _ _ _ _ h => h)
    have hplan := hsteps.samePlan
    rw [fill_minimum, exec_bind]
    generalize exec (spawnSingle pool .minimum) r = ran at hspawn hplan
    cases hspawn with
    | added htimers htotal => exact .added htimers htotal
    | @nothing answer s hanswer htimers htotal =>
        cases answer with
        | error fault => exact .nothing nofun htimers htotal
        | ok spawned =>
            cases spawned with
            | true => exact absurd rfl hanswer
            | false =>
                have hstill : s.forest.totalCount pool + 1 < 2 ^ 32 := by omega
                have hmaximum := exec_fill_maximum_addsOne (hplan.planned hr) hstill
                exact hmaximum.after htimers htotal

/-! ## A replacement and its timer -/

/-- A replacement either succeeds and uses up one timer, or changes neither total nor timers. -/
theorem slots_expedite (hr : r.Planned) (kind : SpawnKind) (x : PointId)
    (hroot : r.forest.rootOf? pool = some root)
    (hsmall : r.forest.totalCount root + 1 < 2 ^ 32) :
    r.slots root ≤ (exec (expedite kind pool x) r).2.slots root := by
  rcases exec_expedite_tries r kind pool x with h | ⟨root', t, hroot', -, -, h⟩
  · rw [h]
  · obtain rfl := Option.some.inj (hroot.symm.trans hroot')
    have hspawn := exec_spawnPool_addsOne hr hsmall
    rw [h, exec_bind]
    generalize exec (spawnPool root 1) r = ran at hspawn
    cases hspawn with
    | @added s htimers htotal =>
        have herase := r.timers.pendingForRoot_le_erase t.kind t.key root
        show r.slots root ≤ s.forest.totalCount root
          + (s.timers.erase t.kind t.key).pendingForRoot root
        rw [slots, htimers, htotal]
        omega
    | @nothing answer s hanswer htimers htotal =>
        have hsame : s.slots root = r.slots root := by
          rw [slots, slots, htimers, htotal]
        cases answer with
        | error fault => exact hsame.ge
        | ok n =>
            have hne : n ≠ 1 := fun h => hanswer (h ▸ rfl)
            dsimp only
            rw [if_neg hne]
            exact hsame.ge

/-! ## A death -/

/-- In a sound registry an entity that is known is buried. -/
theorem Sound.exec_handleDeath (hr : r.Sound) {handle : EntityHandle} {spawn : LiveSpawn}
    (hlive : r.live.get? handle = some spawn) (hroot : r.forest.rootOf? spawn.pool = some root)
    (looted : Bool) :
    ∃ p corpseSecs g t, r.points.get? spawn.point = some p ∧ t.kind = spawn.kind ∧
      t.key = (spawn.pool, spawn.point) ∧ t.root = root ∧
      (exec (handleDeath handle looted) r).2 =
        (exec (expedite spawn.kind spawn.pool spawn.point)
          { r.bury handle spawn corpseSecs with
            random := g
            timers := r.timers.add t false }).2 := by
  obtain ⟨p, q, c, hp, hq, -⟩ := hr.origin hlive
  obtain ⟨delay, g, -, hran⟩ := exec_handleDeath_of_live hlive hp hq looted
  have hqroot : q.root = root := by
    rw [Forest.rootOf?, hq] at hroot
    exact Option.some.inj hroot
  rw [hran, exec_bind_pure]
  exact ⟨p, _, g, deathTimer spawn p q _, hp, rfl, rfl, hqroot, rfl⟩

/-- A death keeps the slots of the root, in whatever state the registry is: the root has one entity
less and one timer more, and a replacement makes up for the timer that it uses. Only if a timer of
the same kind, pool and point is pending already, one slot may be lost. -/
theorem Reachable.slots_le_handleDeath {rows : PoolRows} (hr : Reachable rows (fun _ => True) r)
    {handle : EntityHandle} {spawn : LiveSpawn} (hlive : r.live.get? handle = some spawn)
    (hroot : r.forest.rootOf? spawn.pool = some root) (looted : Bool) :
    (r.timers.get? spawn.kind (spawn.pool, spawn.point) = none →
      r.slots root ≤ (r.perform (.handleDeath handle looted)).slots root) ∧
    r.slots root ≤ (r.perform (.handleDeath handle looted)).slots root + 1 := by
  have hsound := hr.sound
  obtain ⟨p, corpseSecs, g, t, hp, hkind, hkey, htroot, hran⟩ :=
    hsound.exec_handleDeath hlive hroot looted
  have hbelow := hr.rooted.mem_subtree hsound.linked hroot
  obtain ⟨top, htop⟩ := Forest.contains_iff.mp (Forest.contains_of_mem_subtree hbelow)
  have hbound := hr.total_lt root top htop
  rw [← Forest.totalCount_of_get htop] at hbound
  have hlost := hsound.linked.totalCount_lose hbelow (Nat.le_of_lt hbound)
  have hmore := r.timers.pendingForRoot_le_add htroot false
  have hbury : Change (fun _ _ _ => True) r (r.bury handle spawn corpseSecs) :=
    .bury hlive hp corpseSecs
  have hplan : SamePlan r { r.bury handle spawn corpseSecs with
      random := g, timers := r.timers.add t false } :=
    ⟨hbury.samePlan.forest, hbury.samePlan.points⟩
  have hreplaced : (r.forest.lose spawn.pool).totalCount root
      + (r.timers.add t false).pendingForRoot root
      ≤ (r.perform (.handleDeath handle looted)).slots root := by
    show _ ≤ (exec (handleDeath handle looted) r).2.slots root
    rw [hran]
    refine slots_expedite (hplan.planned hsound.toPlanned) spawn.kind spawn.point ?_ ?_
    · rw [hplan.rootOf?]
      exact hroot
    · show (r.forest.lose spawn.pool).totalCount root + 1 < 2 ^ 32
      omega
  rw [slots]
  refine ⟨fun hnew => ?_, by omega⟩
  rw [← hkind, ← hkey] at hnew
  have hstored := Schedule.pendingForRoot_add_of_new hnew htroot false
  omega

/-- The only entity of a leaf of the small map dies: its slot stays. -/
theorem slots_le_handleDeath_camp :
    (camp.perform (.spawnPool ⟨3⟩ 1)).live.get? ⟨0⟩ = some ⟨.creature, ⟨3⟩, ⟨4⟩, 8⟩ ∧
      (camp.perform (.spawnPool ⟨3⟩ 1)).slots ⟨1⟩ = 1 ∧
      (camp.perform (.spawnPool ⟨3⟩ 1)).slots ⟨1⟩
        ≤ ((camp.perform (.spawnPool ⟨3⟩ 1)).perform (.handleDeath ⟨0⟩ false)).slots ⟨1⟩ := by
  have hspawned : Reachable campRows (fun _ => True) (camp.perform (.spawnPool ⟨3⟩ 1)) :=
    (reachable_camp _).step _ trivial
  have hlive : (camp.perform (.spawnPool ⟨3⟩ 1)).live.get? ⟨0⟩
      = some ⟨.creature, ⟨3⟩, ⟨4⟩, 8⟩ := by decide +kernel
  refine ⟨hlive, by decide +kernel, ?_⟩
  exact (Reachable.slots_le_handleDeath hspawned hlive (by decide +kernel) false).1
    (by decide +kernel)

/-- The only entity of a leaf dies, another one is asked for in its place, and it dies as well while
the timer of the first death is still pending. Before the second death the root has one entity and
one timer, and after it just that timer. -/
theorem not_slots_le_handleDeath :
    ¬∀ (rows : PoolRows) (r : Registry), Reachable rows (fun _ => True) r →
      ∀ handle spawn root looted, r.live.get? handle = some spawn →
        r.forest.rootOf? spawn.pool = some root →
        r.slots root ≤ (r.perform (.handleDeath handle looted)).slots root := by
  intro hclaim
  have hrun : Reachable campRows (fun _ => True) (((camp.perform (.spawnPool ⟨3⟩ 1)).perform
      (.handleDeath ⟨0⟩ false)).perform (.spawnPool ⟨3⟩ 1)) :=
    (((reachable_camp _).step _ trivial).step _ trivial).step _ trivial
  have hkept := hclaim _ _ hrun ⟨1⟩ ⟨.creature, ⟨3⟩, ⟨4⟩, 8⟩ ⟨1⟩ false (by decide +kernel)
    (by decide +kernel)
  revert hkept
  decide +kernel

end SpawnForest.Registry
