import SpawnForest.Proofs.Registry.Populating
import SpawnForest.Registry.Load

/-!
# Operations and reachable registries

`Operation` lists what a running registry can be asked for, together with what
may happen to its host meanwhile. Each operation is taken apart into steps of
whatever sort admits it (`Admits.perform`), with the fault cases included: the
steps made before a fault are steps like any other. Where an operation may
reserve points is said by `MayReserve`. In particular every operation comes down
to elementary changes (`perform_steps`), and unless it reports a despawn, none
of them lets an entity go (`perform_tended`).

A registry is reachable if it was loaded from some rows and then went through
operations of an allowed kind, in any order and of any number. Something holds
of every reachable registry if it holds after loading and every elementary
change keeps it (`Reachable.keep`).
-/

namespace SpawnForest

/-- What a registry is asked for, and what happens to its host. -/
inductive Operation where
  | spawnPool (pool : PoolId) (count : Nat)
  | spawnSingle (pool : PoolId) (mode : Mode)
  | spawnAll
  | spawnAt (kind : SpawnKind) (pool : PoolId) (entry : UInt32) (point : PointId)
  | despawnPool (pool : PoolId) (corpses : Bool)
  | respawnPool (pool : PoolId)
  | reseedPool (pool : PoolId)
  | setActive (pool : PoolId) (active : Bool)
  | applyPatch (scope : PatchScope) (patch : Patch)
  | clearRespawns (filter : TimerFilter)
  | restoreTimer (pool : PoolId) (point : PointId) (due : Timestamp)
  | respawnDue
  | respawnGrid (grid : GridId)
  | respawnZone (zone : ZoneId)
  | handleDeath (handle : EntityHandle) (looted : Bool)
  | handleDespawn (handle : EntityHandle) (bulk : Bool)
  | spawnPending (point : PointId)
  | onGridLoaded (grid : GridId)
  | onGridUnloaded (grid : GridId)
  | expireRemains
  | host (change : HostChange)

/-- Whether an operation is the direct spawn of a chosen entry at a chosen point. -/
def Operation.isDirectSpawn : Operation → Bool
  | spawnAt .. => true
  | _ => false

/-- Whether an operation reports that an entity has left the world. -/
def Operation.isDespawn : Operation → Bool
  | handleDespawn .. => true
  | _ => false

namespace Registry

/-- The registry that an operation leaves, whether it answers or breaks off. -/
def perform (r : Registry) : Operation → Registry
  | .spawnPool pool count => (exec (spawnPool pool count) r).2
  | .spawnSingle pool mode => (exec (spawnSingle pool mode) r).2
  | .spawnAll => (exec spawnAll r).2
  | .spawnAt kind pool entry point => (exec (spawnAt kind pool entry point) r).2
  | .despawnPool pool corpses => (r.despawnPool pool corpses).2
  | .respawnPool pool => (exec (respawnPool pool) r).2
  | .reseedPool pool => (exec (reseedPool pool) r).2
  | .setActive pool active => (exec (setActive pool active) r).2
  | .applyPatch scope patch => (r.applyPatch? scope patch).getD r
  | .clearRespawns filter =>
    match r.clearRespawns filter with
    | .ok (_, s) => s
    | .error _ => r
  | .restoreTimer pool point due =>
    match r.restoreTimer pool point due with
    | .ok (_, s) => s
    | .error _ => r
  | .respawnDue => (exec respawnDue r).2
  | .respawnGrid grid => (exec (respawnGrid grid) r).2
  | .respawnZone zone => (exec (respawnZone zone) r).2
  | .handleDeath handle looted => (exec (handleDeath handle looted) r).2
  | .handleDespawn handle bulk => (exec (handleDespawn handle bulk) r).2
  | .spawnPending point => (r.spawnPending? point).getD r
  | .onGridLoaded grid => (r.onGridLoaded grid).2
  | .onGridUnloaded grid => (r.onGridUnloaded grid).2
  | .expireRemains => r.expireRemains.2
  | .host change => { r with host := change.apply r.host }

/-- The leaf and the point that an operation may come to when it reserves one: any that there are
for a direct spawn, and else only those below a pool that it populates. -/
def MayReserve : Operation → Registry → PoolId → PointId → Prop
  | .spawnAt .. => fun _ _ _ => True
  | .spawnSingle pool _ => Chosen pool
  | _ => AnyPopulated

variable {may : Registry → PoolId → PointId → Prop} {step : Registry → Registry → Prop}
  {r : Registry}

open Relation (ReflTransGen)

/-! ## Replacement at once -/

/-- A replacement is tried only for a root below its minimum and with a timer to use up. -/
theorem exec_expedite_tries (r : Registry) (kind : SpawnKind) (pool : PoolId) (point : PointId) :
    exec (expedite kind pool point) r = (.ok false, r) ∨
    ∃ root t, r.forest.rootOf? pool = some root ∧ r.forest.hasRoom root .minimum = true ∧
      r.replacementTimer? kind root pool point = some t ∧
      exec (expedite kind pool point) r =
        exec (do
          if (← spawnPool root 1) = 1 then
            modify (fun r => { r with timers := r.timers.erase t.kind t.key })
            return true
          else return false) r := by
  unfold expedite
  rw [exec_get_bind]
  cases hroot : r.forest.rootOf? pool with
  | none => exact .inl rfl
  | some root =>
      cases hroom : r.forest.hasRoom root .minimum with
      | false => exact .inl (by simp only [hroom]; rfl)
      | true =>
          cases htimer : r.replacementTimer? kind root pool point with
          | none => exact .inl (by simp only [hroom, htimer]; rfl)
          | some t => exact .inr ⟨root, t, rfl, hroom, htimer, by simp only [hroom, htimer]; rfl⟩

theorem expedite_steps (ha : Admits AnyPopulated step) (hr : r.Planned) (kind : SpawnKind)
    (pool : PoolId) (point : PointId) :
    ReflTransGen step r (exec (expedite kind pool point) r).2 := by
  rcases exec_expedite_tries r kind pool point with h | ⟨root, t, -, -, -, h⟩
  · rw [h]
  · rw [h]
    refine spawnPool_bind_steps ha.toSpawns hr root 1 ?_
    intro n s _
    by_cases hone : n = 1
    · rw [if_pos hone]
      exact .single (ha.schedule s _)
    · rw [if_neg hone]
      exact .refl

/-- A delay is drawn from the random source of the registry, or not drawn at all. -/
theorem exec_respawnDelay (r : Registry) (root : PoolId) (fastSecs minSecs maxSecs : Nat) :
    ∃ delay g, exec (respawnDelay root fastSecs minSecs maxSecs) r
      = (.ok delay, { r with random := g }) := by
  unfold respawnDelay
  rw [exec_get_bind]
  split
  · exact ⟨_, r.random, rfl⟩
  · split
    · exact ⟨_, _, exec_choose_of_ok rfl⟩
    · exact ⟨_, r.random, rfl⟩

/-! ## Losing entities -/

/-- The timer that a death leaves. -/
def deathTimer (spawn : LiveSpawn) (p : SpawnPoint) (q : Pool) (due : Timestamp) : Timer :=
  ⟨spawn.kind, spawn.pool, q.root, spawn.point, due, due, p.grid, p.zone⟩

/-- The death of a live entity: it is buried, a delay is drawn, its timer is stored, and a
replacement is tried. -/
theorem exec_handleDeath_of_live {handle : EntityHandle} {spawn : LiveSpawn} {p : SpawnPoint}
    {q : Pool} (hlive : r.live.get? handle = some spawn)
    (hpoint : r.points.get? spawn.point = some p) (hpool : r.forest.get? spawn.pool = some q)
    (looted : Bool) :
    ∃ delay g,
      exec (respawnDelay q.root q.template.spawnTimes.fastSecs.toNat
          (r.deathTimes spawn p q looted).2.1.toNat (r.deathTimes spawn p q looted).2.2.toNat)
        (r.bury handle spawn (r.deathTimes spawn p q looted).1.toNat) =
        (.ok delay,
          { r.bury handle spawn (r.deathTimes spawn p q looted).1.toNat with random := g }) ∧
      exec (handleDeath handle looted) r =
        exec (do
          let _ ← expedite spawn.kind spawn.pool spawn.point
          return true)
        { r.bury handle spawn (r.deathTimes spawn p q looted).1.toNat with
          random := g
          timers := r.timers.add (deathTimer spawn p q (r.now.plus delay)) false } := by
  unfold handleDeath
  rw [exec_get_bind]
  simp only [hlive, hpoint, hpool]
  generalize r.deathTimes spawn p q looted = times
  rw [exec_set_bind]
  obtain ⟨delay, g, hdelay⟩ := exec_respawnDelay
    (r.bury handle spawn times.1.toNat) q.root q.template.spawnTimes.fastSecs.toNat
    times.2.1.toNat times.2.2.toNat
  rw [exec_bind_of_ok hdelay, exec_modify_bind]
  exact ⟨delay, g, hdelay, rfl⟩

/-- A death: the entity is unknown, or it is forgotten because its point or its pool is, or it is
buried, a delay is drawn, its timer is stored, and a replacement is tried. -/
theorem exec_handleDeath (r : Registry) (handle : EntityHandle) (looted : Bool) :
    (r.live.get? handle = none ∧ (exec (handleDeath handle looted) r).2 = r) ∨
    (∃ spawn, r.live.get? handle = some spawn ∧
      (r.points.get? spawn.point = none ∨ r.forest.get? spawn.pool = none) ∧
      (exec (handleDeath handle looted) r).2 = { r with live := r.live.erase handle }) ∨
    ∃ spawn p q corpseSecs g due, r.live.get? handle = some spawn ∧
      r.points.get? spawn.point = some p ∧ r.forest.get? spawn.pool = some q ∧
      (exec (handleDeath handle looted) r).2 =
        (exec (expedite spawn.kind spawn.pool spawn.point)
          { r.bury handle spawn corpseSecs with
            random := g
            timers := r.timers.add (deathTimer spawn p q due) false }).2 := by
  cases hlive : r.live.get? handle with
  | none =>
      refine .inl ⟨rfl, ?_⟩
      unfold handleDeath
      rw [exec_get_bind, hlive]
      rfl
  | some spawn =>
      cases hpoint : r.points.get? spawn.point with
      | none =>
          refine .inr (.inl ⟨spawn, rfl, .inl hpoint, ?_⟩)
          unfold handleDeath
          rw [exec_get_bind]
          simp only [hlive, hpoint]
          rfl
      | some p =>
          cases hpool : r.forest.get? spawn.pool with
          | none =>
              refine .inr (.inl ⟨spawn, rfl, .inr hpool, ?_⟩)
              unfold handleDeath
              rw [exec_get_bind]
              simp only [hlive, hpoint, hpool]
              rfl
          | some q =>
              obtain ⟨delay, g, -, hran⟩ := exec_handleDeath_of_live hlive hpoint hpool looted
              rw [hran, exec_bind_pure]
              exact .inr (.inr ⟨spawn, p, q, _, g, _, rfl, hpoint, hpool, rfl⟩)

/-- The timer of a dead entity, and the state in which it is drawn, have no say in the plan. -/
theorem Planned.buried (hr : r.Planned) {handle : EntityHandle} {spawn : LiveSpawn}
    {p : SpawnPoint} (hlive : r.live.get? handle = some spawn)
    (hpoint : r.points.get? spawn.point = some p) (corpseSecs : Nat) (random : Pcg)
    (timers : Schedule) :
    Planned { r.bury handle spawn corpseSecs with random := random, timers := timers } := by
  have hburied : Change AnyPopulated r (r.bury handle spawn corpseSecs) :=
    .bury hlive hpoint corpseSecs
  exact (hburied.samePlan.planned hr).of_eq rfl rfl

theorem handleDeath_steps (ha : Admits AnyPopulated step) (hr : r.Planned) (handle : EntityHandle)
    (looted : Bool) : ReflTransGen step r (exec (handleDeath handle looted) r).2 := by
  rcases exec_handleDeath r handle looted with
    ⟨-, h⟩ | ⟨spawn, hlive, hlost, h⟩ | ⟨spawn, p, q, corpseSecs, g, due, hlive, hpoint, -, h⟩
  · rw [h]
  · rw [h]
    exact .single (ha.forget hlive hlost)
  · have hbury : ReflTransGen step r (r.bury handle spawn corpseSecs) :=
      .single (ha.bury hlive hpoint corpseSecs)
    have hdrawn := hbury.tail (ha.draw _ g)
    have hstored := hdrawn.tail (ha.schedule _ (r.timers.add (deathTimer spawn p q due) false))
    rw [h]
    exact hstored.trans (expedite_steps ha (ha.planned_of_steps hstored hr) _ _ _)

/-- A reported despawn: the entity is unknown, or it leaves its point. If it was not in bulk and the
point is known, the point becomes free, and a replacement is tried. -/
theorem exec_handleDespawn (r : Registry) (handle : EntityHandle) (bulk : Bool) :
    (r.live.get? handle = none ∧ (exec (handleDespawn handle bulk) r).2 = r) ∨
    ∃ spawn, r.live.get? handle = some spawn ∧
      ((exec (handleDespawn handle bulk) r).2 = r.unlink handle spawn ∨
      ∃ p, bulk = false ∧ r.points.get? spawn.point = some p ∧
        (exec (handleDespawn handle bulk) r).2 =
          (exec (expedite spawn.kind spawn.pool spawn.point)
            ((r.unlink handle spawn).release spawn.point spawn.pool)).2) := by
  unfold handleDespawn
  rw [exec_get_bind]
  cases hlive : r.live.get? handle with
  | none => exact .inl ⟨rfl, rfl⟩
  | some spawn =>
      refine .inr ⟨spawn, rfl, ?_⟩
      dsimp only
      rw [exec_set_bind]
      cases hpoint : r.points.get? spawn.point with
      | none =>
          rw [Table.contains, hpoint]
          exact .inl rfl
      | some p =>
          rw [Table.contains, hpoint]
          cases bulk with
          | true => exact .inl rfl
          | false =>
              refine .inr ⟨p, rfl, rfl, ?_⟩
              simp only [Option.isSome_some, Bool.not_true, Bool.false_eq_true, if_false]
              rw [exec_modify_bind, exec_bind_pure]

theorem Planned.departed (hr : r.Planned) {handle : EntityHandle} {spawn : LiveSpawn}
    {p : SpawnPoint} (hlive : r.live.get? handle = some spawn)
    (hpoint : r.points.get? spawn.point = some p) :
    Planned ((r.unlink handle spawn).release spawn.point spawn.pool) := by
  have hleft : Change AnyPopulated r ((r.unlink handle spawn).release spawn.point spawn.pool) :=
    .depart hlive hpoint
  exact hleft.samePlan.planned hr

/-- What is reported gone takes its own steps: the entity leaves its point, and unless it was in
bulk the point becomes free. -/
theorem handleDespawn_steps (ha : Admits AnyPopulated step) (hr : r.Planned)
    (handle : EntityHandle) (bulk : Bool)
    (hunlink : ∀ {spawn : LiveSpawn}, r.live.get? handle = some spawn →
      step r (r.unlink handle spawn))
    (hdepart : ∀ {spawn : LiveSpawn} {p : SpawnPoint}, r.live.get? handle = some spawn →
      r.points.get? spawn.point = some p →
      step r ((r.unlink handle spawn).release spawn.point spawn.pool)) :
    ReflTransGen step r (exec (handleDespawn handle bulk) r).2 := by
  rcases exec_handleDespawn r handle bulk with
    ⟨-, h⟩ | ⟨spawn, hlive, h | ⟨p, -, hpoint, h⟩⟩
  · rw [h]
  · rw [h]
    exact .single (hunlink hlive)
  · have hleft := ReflTransGen.single (hdepart hlive hpoint)
    rw [h]
    exact hleft.trans (expedite_steps ha (ha.planned_of_steps hleft hr) _ _ _)

theorem unloadAll_steps (ha : Admits may step) (handles : List EntityHandle) :
    ReflTransGen step r (r.unloadAll handles).2 := by
  unfold unloadAll
  refine List.foldlRecOn handles _
    (motive := fun acc : Nat × Registry => ReflTransGen step r acc.2) .refl ?_
  intro acc hacc handle _
  obtain ⟨n, s⟩ := acc
  dsimp only
  cases hlive : s.live.get? handle with
  | none => exact hacc
  | some spawn => exact hacc.tail (ha.unload hlive)

/-! ## Waiting entities -/

theorem spawnPending?_steps (hs : Spawns may step) {s : Registry} {point : PointId}
    (h : r.spawnPending? point = some s) : ReflTransGen step r s := by
  unfold spawnPending? at h
  split at h
  · cases h
  · split at h
    · exact .single (hs.materialize h)
    · cases h

theorem spawnPendingAll_steps (hs : Spawns may step) (ids : List PointId) :
    ReflTransGen step r (r.spawnPendingAll ids).2 := by
  unfold spawnPendingAll
  refine List.foldlRecOn ids _
    (motive := fun acc : Nat × Registry => ReflTransGen step r acc.2) .refl ?_
  intro acc hacc id _
  obtain ⟨n, s⟩ := acc
  dsimp only
  cases hmade : s.spawnPending? id with
  | none => exact hacc
  | some made => exact hacc.trans (spawnPending?_steps hs hmade)

/-! ## Timers -/

section

variable (ha : Admits AnyPopulated step)

include ha

theorem runTimers_steps (hr : r.Planned) (timers : List Timer) :
    ReflTransGen step r (exec (runTimers timers) r).2 := by
  induction timers generalizing r with
  | nil => exact .refl
  | cons t timers ih =>
      unfold runTimers
      rw [exec_get_bind]
      split
      · exact ih hr
      · rw [exec_set_bind]
        have herase := ha.schedule r (r.timers.erase t.kind t.key)
        refine ReflTransGen.head herase ?_
        exact spawnPool_bind_steps ha.toSpawns ((ha.samePlan herase).planned hr) _ 1
          (fun n s hs => steps_bind (ih hs) (fun _ _ _ => .refl))

theorem respawnZone_steps (hr : r.Planned) (zone : ZoneId) :
    ReflTransGen step r (exec (respawnZone zone) r).2 := by
  unfold respawnZone
  rw [exec_get_bind]
  dsimp only
  rw [exec_set_bind]
  have hscan := ha.schedule r (r.timers.scanZone zone r.now).2
  exact ReflTransGen.head hscan (runTimers_steps ha ((ha.samePlan hscan).planned hr) _)

theorem respawnGrid_steps (hr : r.Planned) (grid : GridId) :
    ReflTransGen step r (exec (respawnGrid grid) r).2 := by
  unfold respawnGrid
  rw [exec_get_bind]
  dsimp only
  rw [exec_set_bind]
  have hscan := ha.schedule r (r.timers.scanGrid grid r.now).2
  exact ReflTransGen.head hscan (runTimers_steps ha ((ha.samePlan hscan).planned hr) _)

end

theorem clearRespawns_steps (ha : Admits may step) {s : Registry} {filter : TimerFilter}
    {dropped : List Timer} (h : r.clearRespawns filter = .ok (dropped, s)) :
    ReflTransGen step r s := by
  unfold clearRespawns at h
  split at h
  · cases h
  · cases h
    exact .single (ha.schedule r _)

theorem restoreTimer_steps (ha : Admits may step) {s : Registry} {pool : PoolId} {point : PointId}
    {due : Timestamp} {stored : Bool} (h : r.restoreTimer pool point due = .ok (stored, s)) :
    ReflTransGen step r s := by
  unfold restoreTimer at h
  split at h
  · cases h
  · split at h
    · cases h
    · cases h
      exact .single (ha.schedule r _)

/-! ## All operations -/

theorem getD_steps {o : Option Registry} (h : ∀ s, o = some s → ReflTransGen step r s) :
    ReflTransGen step r (o.getD r) := by
  cases o with
  | none => exact .refl
  | some s => exact h s rfl

/-- Whatever a registry is asked for, but for reported despawns, comes down to steps of a sort that
admits it. -/
theorem Admits.perform {op : Operation} (ha : Admits (MayReserve op) step) (hr : r.Planned)
    (hop : op.isDespawn = false)
    (hswitch : ∀ pool active, op = .setActive pool active → ∀ s : Registry,
      step s { s with forest := s.forest.modify pool (fun p => { p with active := active }) }) :
    ReflTransGen step r (r.perform op) := by
  cases op with
  | spawnPool pool count => exact spawnPool_steps_any ha.toSpawns hr pool count
  | spawnSingle pool mode =>
      exact spawnSingle_steps ha.toSpawns hr pool mode (fun _ _ _ _ _ h => h)
  | spawnAll => exact spawnAll_steps ha.toSpawns hr
  | spawnAt kind pool entry point => exact spawnAt_steps ha.toSpawns trivial
  | despawnPool pool corpses => exact despawnPool_steps ha hr pool corpses
  | respawnPool pool => exact respawnPool_steps ha hr pool
  | reseedPool pool => exact reseedPool_steps ha hr pool
  | setActive pool active => exact setActive_steps ha hr pool active (hswitch pool active rfl)
  | applyPatch scope patch => exact getD_steps (fun s h => .single (ha.patch h))
  | clearRespawns filter =>
      rw [Registry.perform]
      cases hcleared : r.clearRespawns filter with
      | ok cleared => exact clearRespawns_steps ha hcleared
      | error refusal => exact .refl
  | restoreTimer pool point due =>
      rw [Registry.perform]
      cases hrestored : r.restoreTimer pool point due with
      | ok restored => exact restoreTimer_steps ha hrestored
      | error refusal => exact .refl
  | respawnDue => exact runTimers_steps ha hr _
  | respawnGrid grid => exact respawnGrid_steps ha hr grid
  | respawnZone zone => exact respawnZone_steps ha hr zone
  | handleDeath handle looted => exact handleDeath_steps ha hr handle looted
  | handleDespawn handle bulk => cases hop
  | spawnPending point => exact getD_steps (fun s h => spawnPending?_steps ha.toSpawns h)
  | onGridLoaded grid => exact spawnPendingAll_steps ha.toSpawns _
  | onGridUnloaded grid => exact unloadAll_steps ha _
  | expireRemains => exact .single (ha.clear r _)
  | host change => exact .single (ha.host r change)

/-- Whatever a registry is asked for, but for reported despawns, comes down to changes that let no
entity go. -/
theorem perform_tended (hr : r.Planned) {op : Operation} (hop : op.isDespawn = false) :
    TendedSteps (MayReserve op) r (r.perform op) :=
  admits_tended.perform hr hop (fun pool active _ s => .activate s pool active)

/-- Whatever a registry is asked for comes down to elementary changes. -/
theorem perform_steps (hr : r.Planned) (op : Operation) :
    Steps (MayReserve op) r (r.perform op) := by
  cases hop : op.isDespawn with
  | false => exact (perform_tended hr hop).steps
  | true =>
      cases op with
      | handleDespawn handle bulk =>
          exact handleDespawn_steps admits_change hr handle bulk .unlink .depart
      | _ => cases hop

/-! ## Reachable registries -/

/-- The registries that some rows can be loaded into, and that allowed operations lead to. -/
inductive Reachable (rows : PoolRows) (allowed : Operation → Prop) : Registry → Prop
  | loaded {map : MapId} {host : Host} {config : RegistryConfig} {r : Registry}
      (h : load map rows host config = .ok r) : Reachable rows allowed r
  | step {r : Registry} (hr : Reachable rows allowed r) (op : Operation) (h : allowed op) :
      Reachable rows allowed (r.perform op)

/-! ## A small map -/

/-- A group that holds at most two entities, over two leaves that could hold four. -/
def campRows : PoolRows where
  templates := [{ (default : TemplateRow) with pool := ⟨1⟩, maxLimit := 2 },
    { (default : TemplateRow) with pool := ⟨2⟩, maxLimit := 3 },
    { (default : TemplateRow) with pool := ⟨3⟩, maxLimit := 1 }]
  edges := [⟨⟨1⟩, ⟨2⟩, .one⟩, ⟨⟨1⟩, ⟨3⟩, .one⟩]
  points := [⟨⟨1⟩, default, none⟩, ⟨⟨2⟩, default, none⟩, ⟨⟨3⟩, default, none⟩, ⟨⟨4⟩, default, none⟩]
  assignments := [⟨⟨2⟩, ⟨1⟩⟩, ⟨⟨2⟩, ⟨2⟩⟩, ⟨⟨2⟩, ⟨3⟩⟩, ⟨⟨3⟩, ⟨4⟩⟩]
  creatures := [⟨⟨2⟩, 7, .one, default⟩, ⟨⟨3⟩, 8, .one, default⟩]
  gameObjects := []
  creaturePatches := []
  gameObjectPatches := []

/-- The registry of the small map, before anything is spawned. -/
def camp : Registry :=
  match load default campRows .fresh default with
  | .ok r => r
  | .error _ => .empty default .fresh default

theorem reachable_camp (allowed : Operation → Prop) : Reachable campRows allowed camp := by
  have h : load default campRows .fresh default = .ok camp := rfl
  exact .loaded h

end Registry

end SpawnForest
