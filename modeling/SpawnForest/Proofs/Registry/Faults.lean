import SpawnForest.Plan.Reader
import SpawnForest.Proofs.Registry.Filling
import SpawnForest.Proofs.Registry.Reloading
import SpawnForest.Proofs.Registry.TimerCauses

/-!
# What breaks an operation off

A direct spawn breaks off at a point that is reserved already. Whatever else is
asked for chooses its points itself, from free ones and by an index in range
(`ChoosesInRange`), and breaks off only at a draw, and only if the weights of
the plan can add up to more than there are single-precision numbers for
(`run_faults`). Weights are not looked at when rows are loaded, so there are
plans for which this happens (`not_runs_through`).

Whether a plan has such weights is settled by loading. What an operation does
is therefore followed through all its parts with the plan at hand (`Steady`),
and not with the forest of the moment.
-/

namespace SpawnForest.Registry

variable {α β : Type} {plan : Forest} {r s : Registry}

/-- A registry in which the pools are those of a plan. -/
structure OfPlan (plan : Forest) (r : Registry) : Prop where
  planned : r.Planned
  alike : Forest.Alike Pool.fixed plan r.forest

theorem OfPlan.later (h : OfPlan plan r) (hrs : SamePlan r s) : OfPlan plan s :=
  ⟨hrs.planned h.planned, h.alike.trans hrs.forest⟩

theorem OfPlan.of_eq (h : OfPlan plan r) (hforest : s.forest = r.forest)
    (hpoints : s.points = r.points) : OfPlan plan s :=
  ⟨h.planned.of_eq hforest hpoints, hforest ▸ h.alike⟩

theorem OfPlan.timed (h : OfPlan plan r) (timers : Schedule) :
    OfPlan plan { r with timers := timers } := h.of_eq rfl rfl

theorem OfPlan.changed {may : Registry → PoolId → PointId → Prop} (h : OfPlan plan r)
    (change : Change may r s) : OfPlan plan s := h.later change.samePlan

/-! ## Steady parts -/

/-- What an action comes to: the plan stays, and if the action breaks off, then at a draw, and the
weights below some pool of the plan can add up to too much. -/
structure Steady (plan : Forest) (ran : Except Fault α × Registry) : Prop where
  ofPlan : OfPlan plan ran.2
  fault : ∀ fault, ran.1 = .error fault →
    fault = .infiniteRange ∧ ∃ pool, ¬plan.FiniteWeights pool

namespace Steady

theorem answer (h : OfPlan plan r) (a : α) : Steady plan (Except.ok a, r) := ⟨h, nofun⟩

theorem bind {x : Action α} {f : α → Action β} (hx : Steady plan (exec x r))
    (hf : ∀ a s, OfPlan plan s → Steady plan (exec (f a) s)) :
    Steady plan (exec (x >>= f) r) := by
  rw [exec_bind]
  cases h : exec x r with
  | mk answer s =>
      rw [h] at hx
      cases answer with
      | error fault =>
          exact ⟨hx.ofPlan, fun _ hfault => hx.fault _ (congrArg _ (Except.error.inj hfault))⟩
      | ok a => exact hf a s hx.ofPlan

end Steady

/-- A spawn at a given point breaks off only if the point is reserved. -/
theorem reserved_of_fault {kind : SpawnKind} {pool : PoolId} {entry : UInt32} {point : PointId}
    {fault : Fault} (hfault : (exec (spawnAt kind pool entry point) r).1 = .error fault) :
    ∃ p holder, r.points.get? point = some p ∧ p.reservation = some holder ∧
      fault = .alreadyReserved point holder := by
  rcases exec_spawnAt r kind pool entry point with
    ⟨-, h⟩ | ⟨p, holder, hp, hheld, h⟩ | ⟨_, -, -, -, h | ⟨_, -, h⟩ | ⟨-, h⟩⟩ <;> rw [h] at hfault
  · cases hfault
  · exact ⟨p, holder, hp, hheld, (Except.error.inj hfault).symm⟩
  · cases hfault
  · cases hfault
  · cases hfault

namespace OfPlan

/-- A point that a spawn chooses is free, so that nothing but a draw breaks it off. -/
theorem spawnSingle (h : OfPlan plan r) (pool : PoolId) (mode : Mode) :
    Steady plan (exec (spawnSingle pool mode) r) := by
  have hsteps : Steps (Chosen pool) r (exec (Registry.spawnSingle pool mode) r).2 :=
    spawnSingle_steps admits_change.toSpawns h.planned pool mode (fun _ _ _ _ _ h => h)
  refine ⟨h.later hsteps.samePlan, fun fault hfault => ?_⟩
  obtain ⟨g, hrun⟩ := exec_spawnSingle h.planned.linked h.planned.named pool mode
  rcases hrun with ⟨-, hrun⟩ | ⟨hselect, hrun⟩ | ⟨leaf, p, c, x, -, -, -, hx, hrun⟩
  · rw [hrun] at hfault
    cases hfault
  · rw [hrun] at hfault
    exact ⟨(Except.error.inj hfault).symm, pool,
      fun hfinite => (hfinite.of_fixed h.alike).not_unselectable hselect⟩
  · obtain ⟨q, hq, hfree⟩ := freeAt_iff.mp (mem_freePoints.mp hx).2
    rw [hrun] at hfault
    obtain ⟨q', holder, hq', hheld, -⟩ := reserved_of_fault hfault
    obtain rfl := Option.some.inj (hq.symm.trans hq')
    rw [hfree] at hheld
    cases hheld

theorem fill (h : OfPlan plan r) (pool : PoolId) (count : Nat) (mode : Mode) :
    Steady plan (exec (fill pool count mode) r) := by
  induction count generalizing r mode with
  | zero =>
      rw [exec_fill_zero]
      exact .answer h 0
  | succ count ih =>
      have hmaximum : ∀ {r}, OfPlan plan r → Steady plan (exec (do
          let spawned ← Registry.spawnSingle pool .maximum
          return (← Registry.fill pool count .maximum) + spawned.toNat) r) := fun h =>
        (h.spawnSingle pool .maximum).bind (fun spawned _ hs =>
          (ih hs .maximum).bind (fun _ _ ht => .answer ht _))
      cases mode with
      | maximum => exact hmaximum h
      | minimum =>
          rw [fill_minimum]
          refine (h.spawnSingle pool .minimum).bind (fun spawned s hs => ?_)
          cases spawned with
          | true => exact (ih hs .minimum).bind (fun _ _ ht => .answer ht _)
          | false => exact hmaximum hs

theorem spawnPool (h : OfPlan plan r) (pool : PoolId) (count : Nat) :
    Steady plan (exec (spawnPool pool count) r) := by
  rcases exec_spawnPool r pool count with hclosed | ⟨-, hfilled⟩
  · rw [hclosed]
    exact .answer h 0
  · rw [hfilled]
    exact h.fill pool _ .minimum

theorem spawnPools (h : OfPlan plan r) (pools : List PoolId) :
    Steady plan (exec (spawnPools pools) r) := by
  induction pools generalizing r with
  | nil => exact .answer h 0
  | cons pool pools ih =>
      exact (h.spawnPool pool 0).bind (fun _ _ hs => (ih hs).bind (fun _ _ ht => .answer ht _))

theorem respawnPool (h : OfPlan plan r) (pool : PoolId) :
    Steady plan (exec (respawnPool pool) r) := by
  unfold Registry.respawnPool
  rw [exec_modify_bind]
  have hdropped : OfPlan plan (r.dropTimers pool) := h.of_eq rfl rfl
  exact hdropped.spawnPool pool 0

theorem despawnPool (h : OfPlan plan r) (pool : PoolId) (corpses : Bool) :
    OfPlan plan (r.despawnPool pool corpses).2 := by
  have hsteps : TendedSteps AnyPopulated r (r.despawnPool pool corpses).2 :=
    despawnPool_steps admits_tended h.planned pool corpses
  exact h.later hsteps.samePlan

theorem reseedPool (h : OfPlan plan r) (pool : PoolId) :
    Steady plan (exec (reseedPool pool) r) := by
  unfold Registry.reseedPool
  rw [exec_modify_bind]
  exact (h.despawnPool pool false).respawnPool pool

theorem setActive (h : OfPlan plan r) (pool : PoolId) (active : Bool) :
    Steady plan (exec (setActive pool active) r) := by
  unfold Registry.setActive
  rw [exec_get_bind]
  split
  · exact .answer h none
  · rw [exec_modify_bind]
    have hswitched : OfPlan plan
        { r with forest := r.forest.modify pool (fun p => { p with active := active }) } :=
      h.changed (.activate r pool active : Change AnyPopulated r _)
    cases active with
    | true => exact (hswitched.spawnPool pool 0).bind (fun _ _ hs => .answer hs _)
    | false =>
        simp only [Bool.false_eq_true, if_false]
        rw [exec_get_bind, exec_set_bind]
        have hdropped : OfPlan plan (Registry.dropTimers
            { r with forest := r.forest.modify pool (fun p => { p with active := false }) }
            pool) := hswitched.of_eq rfl rfl
        exact .answer (hdropped.despawnPool pool false) _

theorem expedite (h : OfPlan plan r) (kind : SpawnKind) (pool : PoolId) (point : PointId) :
    Steady plan (exec (expedite kind pool point) r) := by
  rcases exec_expedite_tries r kind pool point with hspared | ⟨root, t, -, -, -, htried⟩
  · rw [hspared]
    exact .answer h false
  · rw [htried]
    refine (h.spawnPool root 1).bind (fun n s hs => ?_)
    by_cases hone : n = 1
    · rw [if_pos hone, exec_modify_bind]
      refine .answer ?_ true
      exact hs.of_eq rfl rfl
    · rw [if_neg hone]
      exact .answer hs false

theorem handleDeath (h : OfPlan plan r) (handle : EntityHandle) (looted : Bool) :
    Steady plan (exec (handleDeath handle looted) r) := by
  have hforgotten : OfPlan plan { r with live := r.live.erase handle } := h.of_eq rfl rfl
  cases hlive : r.live.get? handle with
  | none =>
      unfold Registry.handleDeath
      rw [exec_get_bind, hlive]
      exact .answer h false
  | some spawn =>
      cases hpoint : r.points.get? spawn.point with
      | none =>
          unfold Registry.handleDeath
          rw [exec_get_bind]
          simp only [hlive, hpoint]
          exact .answer hforgotten false
      | some p =>
          cases hpool : r.forest.get? spawn.pool with
          | none =>
              unfold Registry.handleDeath
              rw [exec_get_bind]
              simp only [hlive, hpoint, hpool]
              exact .answer hforgotten false
          | some q =>
              obtain ⟨delay, g, -, hran⟩ := exec_handleDeath_of_live hlive hpoint hpool looted
              have hburied := h.changed (.bury hlive hpoint
                (r.deathTimes spawn p q looted).1.toNat : Change AnyPopulated r _)
              rw [hran]
              have hstored : OfPlan plan { r.bury handle spawn
                    (r.deathTimes spawn p q looted).1.toNat with
                  random := g
                  timers := r.timers.add (deathTimer spawn p q (r.now.plus delay)) false } :=
                hburied.of_eq rfl rfl
              exact (hstored.expedite spawn.kind spawn.pool spawn.point).bind
                (fun _ _ hs => .answer hs true)

theorem handleDespawn (h : OfPlan plan r) (handle : EntityHandle) (bulk : Bool) :
    Steady plan (exec (handleDespawn handle bulk) r) := by
  unfold Registry.handleDespawn
  rw [exec_get_bind]
  cases hlive : r.live.get? handle with
  | none => exact .answer h false
  | some spawn =>
      dsimp only
      rw [exec_set_bind, Table.contains]
      have hunlinked : OfPlan plan (r.unlink handle spawn) :=
        h.changed (.unlink hlive : Change AnyPopulated r _)
      cases hpoint : r.points.get? spawn.point with
      | none => exact .answer hunlinked false
      | some p =>
          cases bulk with
          | true => exact .answer hunlinked true
          | false =>
              have hleft : OfPlan plan ((r.unlink handle spawn).release spawn.point spawn.pool) :=
                h.changed (.depart hlive hpoint : Change AnyPopulated r _)
              exact (hleft.expedite spawn.kind spawn.pool spawn.point).bind
                (fun _ _ hs => .answer hs true)

theorem runTimers (h : OfPlan plan r) (timers : List Timer) :
    Steady plan (exec (runTimers timers) r) := by
  induction timers generalizing r with
  | nil => exact .answer h 0
  | cons t timers ih =>
      unfold Registry.runTimers
      rw [exec_get_bind]
      split
      · exact ih h
      · rw [exec_set_bind]
        have herased := h.timed (r.timers.erase t.kind t.key)
        exact (herased.spawnPool t.root 1).bind (fun _ _ hs =>
          (ih hs).bind (fun _ _ ht => .answer ht _))

end OfPlan

/-! ## Every operation -/

/-- The fault that an action breaks off with. -/
def faultOf (ran : Except Fault α × Registry) : Option Fault :=
  match ran.1 with
  | .ok _ => none
  | .error fault => some fault

/-- The fault that an operation breaks off with. -/
def fault? (r : Registry) : Operation → Option Fault
  | .spawnPool pool count => faultOf (exec (spawnPool pool count) r)
  | .spawnSingle pool mode => faultOf (exec (spawnSingle pool mode) r)
  | .spawnAll => faultOf (exec spawnAll r)
  | .spawnAt kind pool entry point => faultOf (exec (spawnAt kind pool entry point) r)
  | .respawnPool pool => faultOf (exec (respawnPool pool) r)
  | .reseedPool pool => faultOf (exec (reseedPool pool) r)
  | .setActive pool active => faultOf (exec (setActive pool active) r)
  | .respawnDue => faultOf (exec respawnDue r)
  | .respawnGrid grid => faultOf (exec (respawnGrid grid) r)
  | .respawnZone zone => faultOf (exec (respawnZone zone) r)
  | .handleDeath handle looted => faultOf (exec (handleDeath handle looted) r)
  | .handleDespawn handle bulk => faultOf (exec (handleDespawn handle bulk) r)
  | _ => none

theorem faultOf_eq_some {ran : Except Fault α × Registry} {fault : Fault} :
    faultOf ran = some fault ↔ ran.1 = .error fault := by
  obtain ⟨answer, s⟩ := ran
  cases answer <;> simp [faultOf]

theorem isOk_eq_isNone_faultOf (ran : Except Fault α × Registry) :
    ran.1.isOk = (faultOf ran).isNone := by
  obtain ⟨answer, s⟩ := ran
  cases answer <;> rfl

theorem completes_eq (r : Registry) (op : Operation) :
    r.completes op = (r.fault? op).isNone := by
  cases op <;> first | exact isOk_eq_isNone_faultOf _ | rfl

theorem Steady.of_faultOf {ran : Except Fault α × Registry} (h : Steady plan ran) {fault : Fault}
    (hfault : faultOf ran = some fault) :
    fault = .infiniteRange ∧ ∃ pool, ¬plan.FiniteWeights pool :=
  h.fault fault (faultOf_eq_some.mp hfault)

theorem OfPlan.fault (h : OfPlan plan r) {op : Operation} (hop : op.isDirectSpawn = false)
    {fault : Fault} (hfault : r.fault? op = some fault) :
    fault = .infiniteRange ∧ ∃ pool, ¬plan.FiniteWeights pool := by
  cases op with
  | spawnPool pool count => exact (h.spawnPool pool count).of_faultOf hfault
  | spawnSingle pool mode => exact (h.spawnSingle pool mode).of_faultOf hfault
  | spawnAll => exact (h.spawnPools r.rootPools).of_faultOf hfault
  | spawnAt kind pool entry point => cases hop
  | respawnPool pool => exact (h.respawnPool pool).of_faultOf hfault
  | reseedPool pool => exact (h.reseedPool pool).of_faultOf hfault
  | setActive pool active => exact (h.setActive pool active).of_faultOf hfault
  | respawnDue => exact (h.runTimers (r.timers.due r.now)).of_faultOf hfault
  | respawnGrid grid =>
      have hscanned := h.timed (r.timers.scanGrid grid r.now).2
      exact (hscanned.runTimers _).of_faultOf hfault
  | respawnZone zone =>
      have hscanned := h.timed (r.timers.scanZone zone r.now).2
      exact (hscanned.runTimers _).of_faultOf hfault
  | handleDeath handle looted => exact (h.handleDeath handle looted).of_faultOf hfault
  | handleDespawn handle bulk => exact (h.handleDespawn handle bulk).of_faultOf hfault
  | _ => cases hfault

/-! ## Choices -/

/-- Where there is something to choose and a finite range to draw from, a choice is one of the
things that there are, whatever the state of the random source. -/
structure ChoosesInRange (r : Registry) : Prop where
  point : ∀ (leaf : PoolId) (g : Pcg), r.forest.freePoints leaf r.points ≠ [] →
    ∃ x g', x ∈ r.forest.freePoints leaf r.points ∧
      exec (chooseAny (r.forest.freePoints leaf r.points)) { r with random := g } =
        (.ok (some x), { r with random := g' })
  child : ∀ (id : PoolId) (g : Pcg), r.forest.openChildren id ≠ [] →
    Selectable ((r.forest.openChildren id).map (·.weight)) →
    ∃ c g', c ∈ r.forest.children id ∧ r.forest.pickChild id g = .ok (some c, g')
  entry : ∀ (id : PoolId) (p : Pool) (g : Pcg), r.forest.get? id = some p → p.candidates ≠ [] →
    Selectable (p.candidates.map (·.weight)) →
    ∃ c g', c ∈ p.candidates ∧ r.forest.pickEntry id g = .ok (some c.entry, g')

theorem Planned.choosesInRange (hr : r.Planned) : r.ChoosesInRange where
  point leaf g hne := by
    rcases exec_chooseAny (r.forest.freePoints leaf r.points) { r with random := g } with
      ⟨hnone, -⟩ | ⟨x, g', hx, hchosen⟩
    · exact absurd hnone hne
    · exact ⟨x, g', hx, hchosen⟩
  child id g hne hselect := by
    rcases Forest.pickChild_cases hr.named id g with
      ⟨hnone, -⟩ | ⟨hnot, -⟩ | ⟨c, g', hc, -, hpicked⟩
    · exact absurd hnone hne
    · exact absurd hselect hnot
    · exact ⟨c, g', hc, hpicked⟩
  entry id p g hp hne hselect := by
    rcases Forest.pickEntry_cases hp g with ⟨hnone, -⟩ | ⟨hnot, -⟩ | ⟨c, g', hc, hpicked⟩
    · exact absurd hnone hne
    · exact absurd hselect hnot
    · exact ⟨c, g', hc, hpicked⟩

/-! ## Runs -/

/-- Why an operation may break off. -/
inductive FaultCause (plan : Forest) (r : Registry) : Operation → Fault → Prop
  | reserved {kind : SpawnKind} {pool : PoolId} {entry : UInt32} {point : PointId} {p : SpawnPoint}
      {holder : Reservation} (hp : r.points.get? point = some p)
      (hheld : p.reservation = some holder) :
      FaultCause plan r (.spawnAt kind pool entry point) (.alreadyReserved point holder)
  | weights {op : Operation} {pool : PoolId} (hop : op.isDirectSpawn = false)
      (hinfinite : ¬plan.FiniteWeights pool) : FaultCause plan r op .infiniteRange

theorem OfPlan.faultCause (h : OfPlan plan r) {op : Operation} {fault : Fault}
    (hfault : r.fault? op = some fault) : FaultCause plan r op fault := by
  cases hop : op.isDirectSpawn with
  | false =>
      obtain ⟨rfl, pool, hinfinite⟩ := h.fault hop hfault
      exact .weights hop hinfinite
  | true =>
      cases op with
      | spawnAt kind pool entry point =>
          obtain ⟨p, holder, hp, hheld, rfl⟩ := reserved_of_fault (faultOf_eq_some.mp hfault)
          exact .reserved hp hheld
      | _ => cases hop

/-- If the weights of the plan are finite, whatever chooses its points itself goes through. -/
theorem OfPlan.completes (h : OfPlan plan r) (hfinite : ∀ pool, plan.FiniteWeights pool)
    {op : Operation} (hop : op.isDirectSpawn = false) : r.completes op = true := by
  rw [completes_eq]
  cases hfault : r.fault? op with
  | none => rfl
  | some fault =>
      obtain ⟨-, pool, hinfinite⟩ := h.fault hop hfault
      exact absurd (hfinite pool) hinfinite

/-- After loading and any operations, nothing breaks off but a direct spawn at a point that is
reserved, and what draws among weights of the plan that have no finite range. So if the weights of
the plan are finite, all but direct spawns go through. Every other choice is in range. -/
theorem run_faults {map : MapId} {rows : PoolRows} {host : Host} {config : RegistryConfig}
    {r₀ : Registry} (hload : load map rows host config = .ok r₀) (ops : List Operation) :
    (∀ op fault, (ops.foldl perform r₀).fault? op = some fault →
      FaultCause r₀.forest (ops.foldl perform r₀) op fault) ∧
    ((∀ pool, r₀.forest.FiniteWeights pool) → ∀ op : Operation, op.isDirectSpawn = false →
      (ops.foldl perform r₀).completes op = true) ∧
    (ops.foldl perform r₀).ChoosesInRange := by
  have hloaded : Reachable rows (fun _ => True) r₀ := .loaded hload
  have hplanned : r₀.Planned := hloaded.sound.toPlanned
  have hrun : OfPlan r₀.forest (ops.foldl perform r₀) :=
    OfPlan.later ⟨hplanned, .refl _ _⟩ (hplanned.run ops).1
  exact ⟨fun _ _ hfault => hrun.faultCause hfault, fun hfinite _ hop => hrun.completes hfinite hop,
    hrun.planned.choosesInRange⟩

/-- In the small map, the second direct spawn at a point breaks off. -/
theorem run_faults_camp :
    ([.spawnAt .creature ⟨2⟩ 7 ⟨1⟩].foldl perform camp).fault? (.spawnAt .creature ⟨2⟩ 7 ⟨1⟩) =
        some (.alreadyReserved ⟨1⟩ ⟨⟨2⟩, 7, .creature⟩) ∧
      FaultCause camp.forest ([.spawnAt .creature ⟨2⟩ 7 ⟨1⟩].foldl perform camp)
        (.spawnAt .creature ⟨2⟩ 7 ⟨1⟩) (.alreadyReserved ⟨1⟩ ⟨⟨2⟩, 7, .creature⟩) := by
  have hcamp : load default campRows .fresh default = .ok camp := rfl
  have hbroken : ([.spawnAt .creature ⟨2⟩ 7 ⟨1⟩].foldl perform camp).fault?
      (.spawnAt .creature ⟨2⟩ 7 ⟨1⟩) = some (.alreadyReserved ⟨1⟩ ⟨⟨2⟩, 7, .creature⟩) := by
    decide +kernel
  exact ⟨hbroken, (run_faults hcamp [.spawnAt .creature ⟨2⟩ 7 ⟨1⟩]).1 _ _ hbroken⟩

/-! ## Weights that are too great -/

/-- A pool with one point and two candidates, each with a weight that is just below the greatest
single-precision number. -/
def heavyText : String :=
  "\x7b\"maps\":[\x7b\"pools\":\x7b" ++
    "\"templates\":[\x7b\"pool_id\":1,\"type_code\":0,\"max_limit\":1\x7d]," ++
    "\"spawn_points\":[\x7b\"point_id\":1,\"position\":[1.0]\x7d]," ++
    "\"pool_spawns\":[[1,1]]," ++
    "\"creatures\":[\x7b\"pool_id\":1,\"entry\":7,\"chance\":3e38\x7d," ++
    "\x7b\"pool_id\":1,\"entry\":8,\"chance\":3e38\x7d]\x7d\x7d]\x7d"

/-- Not every plan that can be read runs through: a spawn breaks off where the weights add up to
more than there are numbers for. -/
theorem not_runs_through :
    ¬∀ (text : String) (world : WorldPlan) (plan : MapPlan) (r : Registry) (ops : List Operation)
      (op : Operation), WorldPlan.ofText? text = some world → plan ∈ world.maps →
      plan.rows.points.length < 2 ^ 32 →
      load plan.map plan.rows .fresh plan.config.registry = .ok r →
      op.isDirectSpawn = false → (ops.foldl perform r).completes op = true := by
  intro hclaim
  have hread : (WorldPlan.ofText? heavyText).any (fun world => world.maps.any (fun plan =>
      decide (plan.rows.points.length < 2 ^ 32) &&
        (load plan.map plan.rows .fresh plan.config.registry).toOption.any
          (fun r => !r.completes (.spawnSingle ⟨1⟩ .maximum)))) = true := by decide +kernel
  obtain ⟨world, hworld, hread⟩ := (Option.any_eq_true _ _).mp hread
  obtain ⟨plan, hplan, hread⟩ := List.any_eq_true.mp hread
  obtain ⟨hpoints, hread⟩ := Bool.and_eq_true_iff.mp hread
  cases hload : load plan.map plan.rows .fresh plan.config.registry with
  | error fault =>
      rw [hload] at hread
      cases hread
  | ok r =>
      have hcompletes := hclaim heavyText world plan r [] (.spawnSingle ⟨1⟩ .maximum) hworld hplan
        (of_decide_eq_true hpoints) hload rfl
      rw [List.foldl_nil] at hcompletes
      rw [hload, Except.toOption, Option.any_some, hcompletes] at hread
      cases hread

end SpawnForest.Registry
