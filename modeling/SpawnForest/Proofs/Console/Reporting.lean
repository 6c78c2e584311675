import SpawnForest.Console.Execute
import SpawnForest.Proofs.Registry.Answers

/-!
# What commands change and what they report

A line of the console concerns one map. If it is answered with an error, nothing
has changed: the faults of a line, maps that are not there and pools that are
not there are all found before anything is done. The two reports change nothing
either. The number that any other command is answered with is that of the
reservations it has released or made, in every state that a registry can reach
(`Verb.Reports`).
-/

namespace SpawnForest.Console

open Registry

/-- What a command that changes a pool reports, from the registry before it to the one after it. -/
def Verb.Reports (verb : Verb) (pool : PoolId) (n : Nat) (r s : Registry) : Prop :=
  match verb with
  | dump => False
  | despawn | deactivate => ReleasesAll (r.forest.subtree pool) n r.points s.points
  | activate => Gains pool n r s
  | respawn => Gains pool n r s ∧ s.Timeless pool
  | reseed =>
    Gains pool n (r.despawnPool pool false).2 s ∧ s.forest.totalCount pool = n ∧ s.Timeless pool

variable {r s : Registry} {pool : PoolId} {verb : Verb} {output : Output}

/-! ## One registry -/

/-- An operation that needs its pool is run and answers with its count, or it is not run. -/
theorem onKnown_cases {operation : Action Nat} {answer : Except PoolError Nat}
    (h : exec (onKnown pool operation) r = (.ok answer, s)) :
    (∃ n, answer = .ok n ∧ exec operation r = (.ok n, s)) ∨ ∃ e, answer = .error e ∧ s = r := by
  unfold onKnown at h
  rw [exec_get_bind] at h
  cases hpool : r.requirePool pool with
  | ok p =>
      rw [hpool] at h
      obtain ⟨n, t, hcounted, h⟩ := exec_bind_eq_ok h
      obtain ⟨rfl, rfl⟩ := answer_inj h
      exact .inl ⟨n, rfl, hcounted⟩
  | error e =>
      rw [hpool] at h
      obtain ⟨rfl, rfl⟩ := answer_inj h
      exact .inr ⟨e, rfl, rfl⟩

/-- A switch answers with its count, or there is no such pool and nothing has changed. -/
theorem switch_cases {active : Bool} {answer : Except PoolError Nat}
    (h : exec (switch pool active) r = (.ok answer, s)) :
    (∃ n, answer = .ok n ∧ r.forest.contains pool = true ∧
      exec (setActive pool active) r = (.ok (some n), s)) ∨ ∃ e, answer = .error e ∧ s = r := by
  obtain ⟨count?, t, hswitched, hanswer⟩ := exec_bind_eq_ok h
  obtain ⟨n, rfl, hknown⟩ | ⟨rfl, rfl⟩ := setActive_cases hswitched
  · obtain ⟨rfl, rfl⟩ := answer_inj hanswer
    exact .inl ⟨n, rfl, hknown, hswitched⟩
  · obtain ⟨rfl, rfl⟩ := answer_inj hanswer
    exact .inr ⟨_, rfl, rfl⟩

theorem exec_map_changed {action : Action (Except PoolError Nat)} {answer : Except PoolError Output}
    (h : exec (do return (← action).map (.changed verb.done pool)) r = (.ok answer, s)) :
    ∃ count, exec action r = (.ok count, s) ∧ answer = count.map (.changed verb.done pool) := by
  obtain ⟨count, t, hcounted, h⟩ := exec_bind_eq_ok h
  obtain ⟨rfl, rfl⟩ := answer_inj h
  exact ⟨count, hcounted, rfl⟩

/-- A verb that changes a pool answers with what it reports. -/
theorem Verb.reports (hr : r.Balanced) (hcoherent : r.timers.Coherent) (hverb : verb ≠ .dump)
    (h : exec (verb.perform pool) r = (.ok (.ok output), s)) :
    ∃ n, output = .changed verb.done pool n ∧ verb.Reports pool n r s := by
  unfold perform at h
  cases verb with
  | dump => exact absurd rfl hverb
  | respawn =>
      obtain ⟨_, hcounted, hanswer⟩ := exec_map_changed h
      obtain ⟨n, rfl, hspawned⟩ | ⟨e, rfl, -⟩ := onKnown_cases hcounted
      · have htimeless := timeless_respawnPool hr.toPlanned hcoherent pool
        rw [hspawned] at htimeless
        exact ⟨n, Except.ok.inj hanswer, hr.gains_respawnPool hspawned, htimeless⟩
      · cases hanswer
  | despawn =>
      obtain ⟨_, hcounted, hanswer⟩ := exec_map_changed h
      obtain ⟨n, rfl, hfreed⟩ | ⟨e, rfl, -⟩ := onKnown_cases hcounted
      · obtain ⟨rfl, rfl⟩ := answer_inj hfreed
        exact ⟨_, Except.ok.inj hanswer, hr.releasesAll_despawnPool pool true⟩
      · cases hanswer
  | reseed =>
      obtain ⟨_, hcounted, hanswer⟩ := exec_map_changed h
      obtain ⟨n, rfl, hspawned⟩ | ⟨e, rfl, -⟩ := onKnown_cases hcounted
      · have htimeless := timeless_reseedPool hr.toPlanned hcoherent pool
        rw [hspawned] at htimeless
        obtain ⟨hgains, htotal⟩ := hr.gains_reseedPool hspawned
        exact ⟨n, Except.ok.inj hanswer, hgains, htotal, htimeless⟩
      · cases hanswer
  | activate =>
      obtain ⟨_, hcounted, hanswer⟩ := exec_map_changed h
      obtain ⟨n, rfl, hknown, hspawned⟩ | ⟨e, rfl, -⟩ := switch_cases hcounted
      · obtain ⟨m, hcount, hgains⟩ := hr.gains_setActive hknown hspawned
        obtain rfl := Option.some.inj hcount
        exact ⟨n, Except.ok.inj hanswer, hgains⟩
      · cases hanswer
  | deactivate =>
      obtain ⟨_, hcounted, hanswer⟩ := exec_map_changed h
      obtain ⟨n, rfl, hknown, hfreed⟩ | ⟨e, rfl, -⟩ := switch_cases hcounted
      · obtain ⟨m, hcount, hreleases⟩ := hr.releasesAll_setActive hknown
        rw [hfreed] at hcount hreleases
        obtain rfl := Option.some.inj (Except.ok.inj hcount)
        exact ⟨n, Except.ok.inj hanswer, hreleases⟩
      · cases hanswer

/-- What answers with an error has changed nothing. -/
theorem Verb.same_of_error {e : PoolError}
    (h : exec (verb.perform pool) r = (.ok (.error e), s)) : s = r := by
  unfold perform at h
  cases verb with
  | dump => exact (answer_inj h).2.symm
  | respawn | despawn | reseed =>
      obtain ⟨_, hcounted, hanswer⟩ := exec_map_changed h
      obtain ⟨n, rfl, -⟩ | ⟨_, -, rfl⟩ := onKnown_cases hcounted
      · cases hanswer
      · rfl
  | activate | deactivate =>
      obtain ⟨_, hcounted, hanswer⟩ := exec_map_changed h
      obtain ⟨n, rfl, -⟩ | ⟨_, -, rfl⟩ := switch_cases hcounted
      · cases hanswer
      · rfl

/-- The two commands that only look. -/
def Command.looks : Command → Bool
  | list _ => true
  | onPool verb _ _ => verb == .dump

/-- An error is found before anything is done. -/
theorem Command.same_of_error {command : Command} {e : PoolError}
    (h : exec command.perform r = (.ok (.error e), s)) : s = r := by
  cases command with
  | list map => cases (answer_inj h).1
  | onPool verb map pool => exact Verb.same_of_error h

theorem Command.same_of_looks {command : Command} (h : command.looks = true) (r : Registry) :
    (exec command.perform r).2 = r := by
  cases command with
  | list map => rfl
  | onPool verb map pool =>
      obtain rfl := beq_iff_eq.mp h
      rfl

/-! ## A directory of maps -/

variable {maps : Table MapId Registry}

theorem execute_of_unknown (command : Command) (h : maps.get? command.map = none) :
    execute maps command = (.ok (.error (.unknownMap command.map)), maps) := by
  unfold execute
  simp only [MapDirectory.registry?, h]

theorem execute_of_known (command : Command) (h : maps.get? command.map = some r) :
    execute maps command =
      ((exec command.perform r).1.map (·.mapError .pool),
        maps.insert command.map (exec command.perform r).2) := by
  unfold execute
  simp only [MapDirectory.registry?, h]
  rfl

/-- Only the registry of the named map is written. -/
theorem get?_execute (maps : Table MapId Registry) {command : Command} {map : MapId}
    (hne : map ≠ command.map) :
    (execute maps command).2.get? map = maps.get? map := by
  cases h : maps.get? command.map with
  | none => rw [execute_of_unknown command h]
  | some r => rw [execute_of_known command h, Table.get?_insert_of_ne _ _ hne]

theorem insert_same {map : MapId} (h : maps.get? map = some r) : maps.insert map r = maps := by
  refine Table.ext_get? (fun other => ?_)
  by_cases hother : other = map
  · rw [hother, Table.get?_insert_self, h]
  · rw [Table.get?_insert_of_ne _ _ hother]

theorem execute_same_of_error {command : Command} {e : ConsoleError}
    (h : (execute maps command).1 = .ok (.error e)) : (execute maps command).2 = maps := by
  cases hr : maps.get? command.map with
  | none => rw [execute_of_unknown command hr]
  | some r =>
      rw [execute_of_known command hr] at h ⊢
      cases hexec : exec command.perform r with
      | mk answer s =>
          rw [hexec] at h
          match answer, h, hexec with
          | .ok (.error _), _, hexec => rw [Command.same_of_error hexec, insert_same hr]

theorem execute_same_of_looks (maps : Table MapId Registry) {command : Command}
    (h : command.looks = true) :
    (execute maps command).2 = maps := by
  cases hr : maps.get? command.map with
  | none => rw [execute_of_unknown command hr]
  | some r => rw [execute_of_known command hr, Command.same_of_looks h, insert_same hr]

/-- The registries of all maps are reachable, each with few enough points to be counted. -/
def Kept (maps : Table MapId Registry) : Prop :=
  ∀ map r, maps.get? map = some r →
    (∃ rows, Reachable rows (fun _ => True) r) ∧ r.points.size < 2 ^ 32

/-- A command that changes a pool has found its map and the pool, and answers with what it reports
of the registry there. -/
theorem Kept.reports (hmaps : Kept maps) {map : MapId} (hverb : verb ≠ .dump)
    (h : (execute maps (.onPool verb map pool)).1 = .ok (.ok output)) :
    ∃ r s n, maps.get? map = some r ∧
      (execute maps (.onPool verb map pool)).2.get? map = some s ∧
      output = .changed verb.done pool n ∧ verb.Reports pool n r s := by
  cases hr : maps.get? map with
  | none =>
      rw [execute_of_unknown (.onPool verb map pool) hr] at h
      cases h
  | some r =>
      obtain ⟨⟨rows, hreachable⟩, hsmall⟩ := hmaps map r hr
      have hbalanced := hreachable.balanced (hreachable.size_points ▸ hsmall)
      rw [execute_of_known (.onPool verb map pool) hr] at h ⊢
      cases hexec : exec (Command.onPool verb map pool).perform r with
      | mk answer s =>
          rw [hexec] at h
          match answer, h, hexec with
          | .ok (.ok _), rfl, hexec =>
              obtain ⟨n, rfl, hreports⟩ :=
                Verb.reports hbalanced hreachable.coherent hverb hexec
              exact ⟨r, s, n, rfl, Table.get?_insert_self _ _ _, rfl, hreports⟩

/-- A line that cannot be read is refused, and an error leaves every registry as it was. A line that
can be read concerns the registry of the map it names and no other one, and none if it only looks.
What it answers with for a change of a pool is the number of reservations released or made there. -/
theorem executeLine_reports (hmaps : Kept maps) (line : String) :
    (∀ e, parse line = .error e → executeLine maps line = (.ok (.error (.parse e)), maps)) ∧
    (∀ e, (executeLine maps line).1 = .ok (.error e) → (executeLine maps line).2 = maps) ∧
    ∀ command, parse line = .ok command →
      (∀ map, map ≠ command.map → (executeLine maps line).2.get? map = maps.get? map) ∧
      (command.looks = true → (executeLine maps line).2 = maps) ∧
      ∀ verb map pool output, command = .onPool verb map pool → verb ≠ .dump →
        (executeLine maps line).1 = .ok (.ok output) →
          ∃ r s n, maps.get? map = some r ∧ (executeLine maps line).2.get? map = some s ∧
            output = .changed verb.done pool n ∧ verb.Reports pool n r s := by
  have hrefused : ∀ e, parse line = .error e →
      executeLine maps line = (.ok (.error (.parse e)), maps) := by
    intro e he
    rw [executeLine, he]
  have hread : ∀ command, parse line = .ok command →
      executeLine maps line = execute maps command := by
    intro command hcommand
    rw [executeLine, hcommand]
  refine ⟨hrefused, fun e he => ?_, fun command hcommand => ?_⟩
  · cases hline : parse line with
    | error reason => rw [hrefused reason hline]
    | ok command =>
        rw [hread command hline] at he ⊢
        exact execute_same_of_error he
  · rw [hread command hcommand]
    refine ⟨fun map hne => get?_execute maps hne, execute_same_of_looks maps, ?_⟩
    rintro verb map pool output rfl hverb houtput
    exact hmaps.reports hverb houtput

/-- A directory of one map, where an entity has died and a timer is pending for it. -/
def campMaps : Table MapId Registry := Table.empty.insert ⟨0⟩ campLoss

theorem kept_campMaps : Kept campMaps := by
  intro map r hr
  rcases Table.get?_insert_cases hr with ⟨-, rfl⟩ | ⟨-, hnone⟩
  · exact ⟨⟨campRows, ((reachable_camp _).step _ trivial).step _ trivial⟩, by decide +kernel⟩
  · rw [Table.get?_empty] at hnone
    cases hnone

/-- Spawning the group anew answers with its total, and no timer of it is left. -/
theorem executeLine_reports_camp :
    ∃ s, (executeLine campMaps "reseed 0 1").2.get? ⟨0⟩ = some s ∧
      (executeLine campMaps "reseed 0 1").1 = .ok (.ok (.changed "reseeded" ⟨1⟩ 2)) ∧
      s.forest.totalCount ⟨1⟩ = 2 ∧ s.Timeless ⟨1⟩ := by
  have hread : parse "reseed 0 1" = .ok (.onPool .reseed ⟨0⟩ ⟨1⟩) := by decide +kernel
  have hanswered : ((executeLine campMaps "reseed 0 1").1.toOption.bind (·.toOption)).isSome =
      true := by decide +kernel
  have htwo : ((executeLine campMaps "reseed 0 1").2.get? ⟨0⟩).map (·.forest.totalCount ⟨1⟩) =
      some 2 := by decide +kernel
  obtain ⟨output, houtput⟩ : ∃ output, (executeLine campMaps "reseed 0 1").1 =
      .ok (.ok output) := by
    cases hline : (executeLine campMaps "reseed 0 1").1 with
    | error fault => rw [hline] at hanswered; cases hanswered
    | ok answer =>
        cases answer with
        | error e => rw [hline] at hanswered; cases hanswered
        | ok output => exact ⟨output, rfl⟩
  obtain ⟨r, s, n, -, hs, rfl, -, htotal, htimeless⟩ :=
    ((executeLine_reports kept_campMaps "reseed 0 1").2.2 _ hread).2.2 .reseed ⟨0⟩ ⟨1⟩ output rfl
      nofun houtput
  rw [hs, Option.map_some, htotal] at htwo
  obtain rfl := Option.some.inj htwo
  exact ⟨s, hs, houtput, htotal, htimeless⟩

end SpawnForest.Console
