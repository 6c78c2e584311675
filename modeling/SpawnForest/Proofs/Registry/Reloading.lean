import SpawnForest.Proofs.Registry.Operations

/-!
# Loading the same rows again

No row looks at the host, at the random source or at the timers, nor at the
settings that these start from. So a registry that is loaded from the same rows
with another host and other settings has the same pools and points
(`SamePlan.of_loads`), and whatever both registries have gone through since, they
still have the same plan.
-/

namespace SpawnForest.Registry

variable {r s : Registry}

/-- A registry with another host, and with settings that nothing has been drawn or timed by yet. -/
def resettle (host : Host) (config : RegistryConfig) (r : Registry) : Registry :=
  { r with
    host := host
    config := config
    random := .ofSeed config.seed
    timers := .empty config.recheckSecs }

section

variable (host : Host) (config : RegistryConfig)

theorem addPoint_resettle (r : Registry) (row : PointRow) :
    (r.resettle host config).addPoint row = (r.addPoint row).resettle host config := by
  have hpoints : (r.resettle host config).points = r.points := rfl
  unfold addPoint
  rw [hpoints]
  split <;> rfl

theorem addTemplate_resettle (r : Registry) (row : TemplateRow) :
    (r.resettle host config).addTemplate row = (r.addTemplate row).resettle host config := by
  have hforest : (row.template? (r.resettle host config).map).bind
      (fun t => (r.resettle host config).forest.insert? (.ofTemplate t)) =
        (row.template? r.map).bind (fun t => r.forest.insert? (.ofTemplate t)) := rfl
  rw [addTemplate, addTemplate, hforest]
  cases (row.template? r.map).bind (fun t => r.forest.insert? (.ofTemplate t)) <;> rfl

theorem addEdge_resettle (r : Registry) (row : EdgeRow) :
    (r.resettle host config).addEdge row = (r.addEdge row).resettle host config := by
  have hforest : (r.resettle host config).forest.link row.pool row.child row.chance =
      r.forest.link row.pool row.child row.chance := rfl
  rw [addEdge, addEdge, hforest]
  cases r.forest.link row.pool row.child row.chance <;> rfl

theorem addAssignment_resettle (r : Registry) (row : AssignmentRow) :
    (r.resettle host config).addAssignment row = (r.addAssignment row).resettle host config := by
  have haccepted : (!(r.resettle host config).points.contains row.point ||
      (r.resettle host config).isAssigned row.point ||
      !(r.resettle host config).forest.contains row.pool) =
        (!r.points.contains row.point || r.isAssigned row.point ||
          !r.forest.contains row.pool) := rfl
  unfold addAssignment
  rw [haccepted]
  split <;> rfl

theorem addCandidate_resettle (r : Registry) (c : Candidate) :
    (r.resettle host config).addCandidate c = (r.addCandidate c).map (resettle host config) := by
  have hforest : (r.resettle host config).forest = r.forest := rfl
  unfold addCandidate
  rw [hforest]
  cases r.forest.get? c.pool with
  | none => rfl
  | some pool =>
      dsimp only
      split
      · rfl
      · split <;> rfl

theorem applyPatch?_resettle (r : Registry) (scope : PatchScope) (patch : Patch) :
    (r.resettle host config).applyPatch? scope patch =
      (r.applyPatch? scope patch).map (resettle host config) := by
  have hpoints : (r.resettle host config).points = r.points := rfl
  have hforest : (r.resettle host config).forest = r.forest := rfl
  unfold applyPatch?
  cases scope with
  | pair point entry =>
      dsimp only
      rw [hpoints]
      split <;> rfl
  | candidate pool entry =>
      dsimp only
      rw [hforest]
      cases r.forest.get? pool with
      | none => rfl
      | some p =>
          simp only [Option.bind_some]
          cases patchCandidate? entry patch p.candidates <;> rfl
  | point point =>
      dsimp only
      rw [hpoints]
      split <;> rfl

theorem addPatch_resettle (r : Registry) (scope : PatchScope) (patch : Patch) :
    (r.resettle host config).addPatch scope patch =
      (r.addPatch scope patch).resettle host config := by
  unfold addPatch
  rw [applyPatch?_resettle]
  cases r.applyPatch? scope patch <;> rfl

/-- Rows that are read one by one, with the first error ending it. -/
theorem foldlM_map {α : Type} {f : Registry → α → Except PoolError Registry}
    {g : Registry → Registry} (h : ∀ r a, f (g r) a = (f r a).map g) (l : List α) (r : Registry) :
    l.foldlM f (g r) = (l.foldlM f r).map g := by
  induction l generalizing r with
  | nil => rfl
  | cons a l ih =>
      rw [List.foldlM_cons, List.foldlM_cons, h]
      cases f r a with
      | error e => rfl
      | ok s => exact ih s

theorem addStructure_resettle (r : Registry) (rows : PoolRows) :
    (r.resettle host config).addStructure rows =
      (r.addStructure rows).resettle host config := by
  unfold addStructure
  dsimp only
  rw [List.foldl_hom (resettle host config) (addPoint_resettle host config),
    List.foldl_hom (resettle host config) (addTemplate_resettle host config),
    List.foldl_hom (resettle host config) (addEdge_resettle host config)]
  rfl

end

theorem load_resettle (map : MapId) (rows : PoolRows) (host host' : Host)
    (config config' : RegistryConfig) :
    load map rows host' config' = (load map rows host config).map (resettle host' config') := by
  have hempty : empty map host' config' = (empty map host config).resettle host' config' := rfl
  rw [load, load, hempty]
  dsimp only
  rw [addStructure_resettle,
    List.foldl_hom (resettle host' config') (addAssignment_resettle host' config'),
    foldlM_map (addCandidate_resettle host' config')]
  cases (candidates rows).foldlM addCandidate
      (rows.assignments.foldl addAssignment ((empty map host config).addStructure rows)) with
  | error e => rfl
  | ok s =>
      have hpatched : (scopedPatches rows).foldl (fun r row => r.addPatch row.1 row.2)
          (s.resettle host' config') =
            ((scopedPatches rows).foldl (fun r row => r.addPatch row.1 row.2) s).resettle
              host' config' :=
        List.foldl_hom (resettle host' config')
          (fun r row => addPatch_resettle host' config' r row.1 row.2)
      exact congrArg (fun r => Except.ok (finish r)) hpatched

/-- The same rows give the same pools and points, whatever surrounds them. -/
theorem SamePlan.of_loads {map : MapId} {rows : PoolRows} {host host' : Host}
    {config config' : RegistryConfig} (h : load map rows host config = .ok r)
    (h' : load map rows host' config' = .ok s) : SamePlan r s := by
  rw [load_resettle map rows host host' config config', h] at h'
  obtain rfl := Except.ok.inj h'
  exact ⟨.refl _ _, .refl _ _⟩

theorem SamePlan.symm (h : SamePlan r s) : SamePlan s r := ⟨h.forest.symm, h.points.symm⟩

/-! ## The map -/

/-- A registry stays on its map. -/
theorem Change.map {may : Registry → PoolId → PointId → Prop} (h : Change may r s) :
    s.map = r.map := by
  cases h with
  | patch scope patch h =>
      rcases applyPatch?_cases h with ⟨_, rfl⟩ | ⟨_, _, _, -, -, rfl⟩ | ⟨_, rfl⟩ <;> rfl
  | materialize point h =>
      rcases materialize?_cases h with rfl | ⟨_, _, _, _, -, -, -, -, rfl⟩ <;> rfl
  | @vacate p held hpoint hheld =>
      rw [vacate_eq r hheld]
      show (r.destroyAt p).map = r.map
      rcases r.destroyAt_cases p with ⟨-, h⟩ | ⟨handle, -, h⟩ <;> rw [h]
      rfl
  | _ => rfl

theorem Steps.map {may : Registry → PoolId → PointId → Prop} (h : Steps may r s) :
    s.map = r.map :=
  h.keep (P := fun t => t.map = r.map) (fun change ht => change.map.trans ht) rfl

/-! ## Runs -/

/-- What an operation can be followed by: any further operations keep the plan and the map. -/
theorem Planned.run (hr : r.Planned) (ops : List Operation) :
    SamePlan r (ops.foldl perform r) ∧ (ops.foldl perform r).map = r.map := by
  refine List.foldlRecOn ops perform (motive := fun s => SamePlan r s ∧ s.map = r.map)
    ⟨.refl r, rfl⟩ ?_
  rintro s ⟨hplan, hmap⟩ op -
  have hsteps := perform_steps (hplan.planned hr) op
  exact ⟨hplan.trans hsteps.samePlan, hsteps.map.trans hmap⟩

theorem Reachable.run {rows : PoolRows} (hr : Reachable rows (fun _ => True) r)
    (ops : List Operation) : Reachable rows (fun _ => True) (ops.foldl perform r) :=
  List.foldlRecOn ops perform hr (fun _ hs op _ => hs.step op trivial)

end SpawnForest.Registry
