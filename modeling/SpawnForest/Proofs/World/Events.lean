import SpawnForest.Proofs.Registry.Reloading
import SpawnForest.World.Snapshot

/-!
# What happens to an instance

`Event` lists what an instance goes through after loading: operations on its
registry, zones and grids that come and go, ticks, and stored timers that are
put back. A fault ends the event and leaves the instance as it was then.

Whatever happens comes down to operations on the registry, and the settings of
the instance stay (`Follows`). So what is known about every run of a registry is
known about instances too (`Reachable.registry`).
-/

namespace SpawnForest.MapInstance

/-! ## Events -/

inductive Event where
  | operation (op : Operation)
  | activateZone (zone : ZoneId)
  | deactivateZone (zone : ZoneId)
  | gridLoaded (grid : GridId)
  | gridUnloaded (grid : GridId)
  | tick
  | restore (snapshot : TimerSnapshot)

/-- The answer or the fault of an action, and the instance it leaves. -/
def exec {α : Type} (action : InstanceAction α) (i : MapInstance) : Except Fault α × MapInstance :=
  action.run.run i

/-- The instance that an event leaves, whether or not a fault breaks it off. -/
def after (i : MapInstance) : Event → MapInstance
  | .operation op => { i with registry := i.registry.perform op }
  | .activateZone zone => (exec (activateZone zone) i).2
  | .deactivateZone zone => (i.deactivateZone zone).2
  | .gridLoaded grid => (exec (gridLoaded grid) i).2
  | .gridUnloaded grid => (i.gridUnloaded grid).2
  | .tick => (exec tick i).2
  | .restore snapshot =>
    match snapshot.restore i with
    | .ok (_, j) => j
    | .error _ => i

/-- The instances that a plan is loaded into, with whatever host, and that events lead to. -/
inductive Reachable (plan : MapPlan) : MapInstance → Prop
  | loaded {host : Host} {i : MapInstance} (h : load plan host = .ok (.ok i)) : Reachable plan i
  | step {i : MapInstance} (hi : Reachable plan i) (e : Event) : Reachable plan (i.after e)

variable {α β : Type} {i j k : MapInstance}

/-! ## Instances that follow -/

/-- An instance whose registry has gone through some operations, with the settings it had. -/
structure Follows (i j : MapInstance) : Prop where
  config : j.config = i.config
  registry : ∃ ops : List Operation, j.registry = ops.foldl Registry.perform i.registry

theorem Follows.refl (i : MapInstance) : Follows i i := ⟨rfl, [], rfl⟩

theorem Follows.trans (hij : Follows i j) (hjk : Follows j k) : Follows i k := by
  obtain ⟨hconfig, ops, hops⟩ := hij
  obtain ⟨hconfig', ops', hops'⟩ := hjk
  exact ⟨hconfig'.trans hconfig, ops ++ ops', by rw [hops', hops, List.foldl_append]⟩

/-- An action after which an instance follows the one before. -/
def Leads (action : InstanceAction α) : Prop := ∀ i, Follows i (exec action i).2

theorem exec_bind (x : InstanceAction α) (f : α → InstanceAction β) (i : MapInstance) :
    exec (x >>= f) i =
      match exec x i with
      | (.ok a, j) => exec (f a) j
      | (.error fault, j) => (.error fault, j) := by
  show (ExceptT.run (x >>= f)).run i = _
  rw [ExceptT.run_bind, StateT.run_bind]
  show StateT.run (ExceptT.bindCont f (exec x i).1) (exec x i).2 = _
  cases h : exec x i with
  | mk answer j => cases answer <;> rfl

theorem Leads.pure (a : α) : Leads (Pure.pure a : InstanceAction α) := Follows.refl

theorem Leads.bind {x : InstanceAction α} {f : α → InstanceAction β} (hx : Leads x)
    (hf : ∀ a, Leads (f a)) : Leads (x >>= f) := by
  intro i
  have hfirst := hx i
  rw [exec_bind]
  cases h : exec x i with
  | mk answer j =>
      rw [h] at hfirst
      cases answer with
      | error fault => exact hfirst
      | ok a => exact hfirst.trans (hf a j)

theorem leads_get : Leads get := Follows.refl

/-- Zones and ticks are no part of the registry. -/
theorem leads_modify {change : MapInstance → MapInstance}
    (hconfig : ∀ i, (change i).config = i.config)
    (hregistry : ∀ i, (change i).registry = i.registry) :
    Leads (modify change) := fun i => ⟨hconfig i, [], hregistry i⟩

theorem leads_onRegistry {action : Action α}
    (h : ∀ r, ∃ ops : List Operation, (Registry.exec action r).2 = ops.foldl Registry.perform r) :
    Leads (onRegistry action) := by
  intro i
  have hexec : (exec (onRegistry action) i).2 =
      { i with registry := (Registry.exec action i.registry).2 } := by
    unfold onRegistry
    rw [exec_bind]
    show (exec _ i).2 = _
    unfold Registry.exec
    cases action.run.run i.registry with
    | mk answer r => cases answer <;> rfl
  rw [hexec]
  exact ⟨rfl, h i.registry⟩

theorem leads_onRegistryPure {change : Registry → α × Registry}
    (h : ∀ r, ∃ ops : List Operation, (change r).2 = ops.foldl Registry.perform r) :
    Leads (onRegistryPure change) := fun i => ⟨rfl, h i.registry⟩

/-! ## Each event -/

/-- The zones are run in order, and a fault leaves out those that come later. -/
theorem exec_respawnZones (zones : List ZoneId) (r : Registry) :
    ∃ ops : List Operation, (Registry.exec (respawnZones zones) r).2 =
      ops.foldl Registry.perform r := by
  induction zones generalizing r with
  | nil => exact ⟨[], rfl⟩
  | cons zone zones ih =>
      have hzone : (Registry.exec (Registry.respawnZone zone) r).2 =
          r.perform (.respawnZone zone) := rfl
      unfold respawnZones
      rw [Registry.exec_bind]
      cases h : Registry.exec (Registry.respawnZone zone) r with
      | mk answer s =>
          rw [h] at hzone
          cases answer with
          | error fault => exact ⟨[.respawnZone zone], hzone⟩
          | ok n =>
              obtain ⟨ops, hops⟩ := ih s
              refine ⟨.respawnZone zone :: ops, ?_⟩
              dsimp only
              rw [Registry.exec_bind_return, hops, List.foldl_cons, ← hzone]

theorem follows_restoreOne (i : MapInstance) (t : StoredTimer) :
    Follows i (TimerSnapshot.restoreOne i t).2 := by
  unfold TimerSnapshot.restoreOne
  split
  · cases h : i.registry.restoreTimer t.pool t.point t.due with
    | error e => exact .refl i
    | ok restored =>
        refine ⟨rfl, [.restoreTimer t.pool t.point t.due], ?_⟩
        rw [List.foldl_cons, Registry.perform, h]
        rfl
  · exact .refl i

theorem follows_restore {snapshot : TimerSnapshot} {n : Nat}
    (h : snapshot.restore i = .ok (n, j)) : Follows i j := by
  unfold TimerSnapshot.restore at h
  split at h
  · cases h
  · obtain ⟨-, rfl⟩ := Prod.mk.inj (Except.ok.inj h)
    refine List.foldlRecOn snapshot.content.timers _
      (motive := fun acc : Nat × MapInstance => Follows i acc.2) (.refl i) ?_
    intro acc hacc t _
    exact hacc.trans (follows_restoreOne acc.2 t)

/-- Whatever happens to an instance comes down to operations on its registry. -/
theorem follows_after (i : MapInstance) (e : Event) : Follows i (i.after e) := by
  cases e with
  | operation op => exact ⟨rfl, [op], rfl⟩
  | activateZone zone =>
      refine Leads.bind (leads_modify ?_ ?_) (fun _ => ?_) i
      · exact fun _ => rfl
      · exact fun _ => rfl
      · exact leads_onRegistry (fun r => ⟨[.respawnZone zone], rfl⟩)
  | deactivateZone zone => exact ⟨rfl, [], rfl⟩
  | gridLoaded grid =>
      refine Leads.bind (leads_onRegistryPure (fun r => ⟨[.onGridLoaded grid], rfl⟩)) ?_ i
      intro made
      exact .bind (leads_onRegistry (fun r => ⟨[.respawnGrid grid], rfl⟩)) (fun _ => .pure _)
  | gridUnloaded grid => exact ⟨rfl, [.onGridUnloaded grid], rfl⟩
  | tick =>
      refine Leads.bind leads_get (fun i => ?_) i
      refine .bind (leads_onRegistry (exec_respawnZones _)) (fun respawned => ?_)
      refine .bind (leads_onRegistryPure (fun r => ⟨[.expireRemains], rfl⟩)) (fun expired => ?_)
      refine .bind (leads_modify (fun _ => rfl) (fun _ => rfl)) (fun _ => ?_)
      exact .bind leads_get (fun _ => .pure _)
  | restore snapshot =>
      rw [after]
      cases h : snapshot.restore i with
      | ok answer => exact follows_restore h
      | error e => exact .refl i

/-! ## Reachable instances -/

/-- A loaded instance has the settings of its plan, and its registry was loaded and then populated
or left alone. -/
theorem load_eq_ok {plan : MapPlan} {host : Host} (h : load plan host = .ok (.ok i)) :
    i.config = plan.config ∧ ∃ r,
      Registry.load plan.map plan.rows host plan.config.registry = .ok r ∧
        (i.registry = r ∨ i.registry = r.perform .spawnAll) := by
  unfold load at h
  cases hr : Registry.load plan.map plan.rows host plan.config.registry with
  | error e =>
      rw [hr] at h
      cases h
  | ok r =>
      rw [hr] at h
      dsimp only at h
      by_cases hspawns : plan.config.spawnOnLoad = true
      · rw [if_pos hspawns] at h
        cases hran : Registry.spawnAll.run.run r with
        | mk answer s =>
            rw [hran] at h
            cases answer with
            | error fault => cases h
            | ok n =>
                cases h
                have hs : (Registry.exec Registry.spawnAll r).2 = s := congrArg Prod.snd hran
                exact ⟨rfl, r, rfl, .inr hs.symm⟩
      · rw [if_neg hspawns] at h
        cases h
        exact ⟨rfl, r, rfl, .inl rfl⟩

/-- The registry of a reachable instance is one that its rows were loaded into, after some
operations. -/
theorem Reachable.run {plan : MapPlan} (hi : Reachable plan i) :
    i.config = plan.config ∧ ∃ host r, ∃ ops : List Operation,
      Registry.load plan.map plan.rows host plan.config.registry = .ok r ∧
        i.registry = ops.foldl Registry.perform r := by
  induction hi with
  | loaded h =>
      obtain ⟨hconfig, r, hr, hsame | hspawned⟩ := load_eq_ok h
      · exact ⟨hconfig, _, r, [], hr, hsame⟩
      · exact ⟨hconfig, _, r, [.spawnAll], hr, hspawned⟩
  | @step i hi e ih =>
      obtain ⟨hconfig, host, r, ops, hr, hops⟩ := ih
      obtain ⟨hsettings, more, hmore⟩ := follows_after i e
      refine ⟨hsettings.trans hconfig, host, r, ops ++ more, hr, ?_⟩
      rw [hmore, hops, List.foldl_append]

theorem Reachable.registry {plan : MapPlan} (hi : Reachable plan i) :
    Registry.Reachable plan.rows (fun _ => True) i.registry := by
  obtain ⟨-, host, r, ops, hr, hops⟩ := hi.run
  rw [hops]
  exact Registry.Reachable.run (.loaded hr) ops

end SpawnForest.MapInstance
