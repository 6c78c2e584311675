import SpawnForest.Proofs.Registry.Drainage

/-!
# Pools that are off stay deserted

Whether a pool is on is asked in two places. Populating asks at its start, of
the pool and of all groups above it, and room is nowhere below a pool that is
off. A spawn that starts outside the subtree of such a pool would have to enter
it from above, and finds no room there; one that starts inside would have found
the pool off (`not_mem_subtree_of_populated`). So no step of populating reserves
a point for the subtree, whichever pools around it are switched on or off
meanwhile (`perform_quiet`).

Spawns that do not ask are left out (`Operation.spares`): the direct ones, and
those for a single entity from a pool of one's choice.
-/

namespace SpawnForest

/-- Whether an operation asks before it spawns that pools are on, and does not switch the pool
on itself. -/
def Operation.spares (pool : PoolId) : Operation → Prop
  | spawnAt .. => False
  | spawnSingle .. => False
  | setActive other active => other = pool → active = false
  | _ => True

/-! ## The way to a leaf -/

namespace Forest

variable {f : Forest} {pool : PoolId} {p : Pool}

/-- A subtree is entered from outside by its top only. -/
theorem WellLinked.mem_subtree_of_mem_child (hf : f.WellLinked) {id c : PoolId}
    (hchild : c ∈ f.children id) (hne : c ≠ pool) (h : c ∈ f.subtree pool) :
    id ∈ f.subtree pool := by
  obtain ⟨-, rfl | hup⟩ := hf.mem_subtree.mp h
  · exact absurd rfl hne
  · rw [hf.ancestors_of_child hchild] at hup
    exact (hf.mem_path_iff (contains_of_child hchild)).mp hup

/-- No descent from outside enters the subtree of a pool that is off. -/
theorem Descent.not_mem_subtree_of_off (hf : f.WellLinked) (hp : f.get? pool = some p)
    (hoff : p.active = false) {mode : Mode} {id leaf : PoolId} (h : f.Descent mode id leaf)
    (houtside : id ∉ f.subtree pool) : leaf ∉ f.subtree pool := by
  induction h with
  | here hroom _ _ => exact houtside
  | down _ _ _ hchild hopen _ ih =>
      refine ih (fun hmem => houtside (hf.mem_subtree_of_mem_child hchild ?_ hmem))
      rintro rfl
      rw [active_of_hasRoom hopen hp] at hoff
      cases hoff

/-- A pool in the subtree of one that is off is not active. -/
theorem not_mem_subtree_of_isActive (hf : f.WellLinked) (hp : f.get? pool = some p)
    (hoff : p.active = false) {id : PoolId} (h : f.isActive id = true) : id ∉ f.subtree pool := by
  intro hmem
  have hpath := (hf.mem_path_iff (hf.mem_subtree.mp hmem).1).mpr hmem
  have hon := List.all_eq_true.mp h pool hpath
  rw [hp] at hon
  exact Bool.false_ne_true (hoff.symm.trans hon)

end Forest

namespace Registry

variable {may : Registry → PoolId → PointId → Prop} {r s : Registry} {pool : PoolId}

/-- A known pool that is switched off. -/
def Dormant (r : Registry) (pool : PoolId) : Prop :=
  ∃ p, r.forest.get? pool = some p ∧ p.active = false

/-- The leaves outside the subtree of a pool. -/
def Outside (pool : PoolId) (r : Registry) (leaf : PoolId) (_ : PointId) : Prop :=
  leaf ∉ r.forest.subtree pool

theorem not_mem_subtree_of_populated (hr : r.Planned) (hoff : r.Dormant pool) {leaf : PoolId}
    {point : PointId} (h : AnyPopulated r leaf point) : Outside pool r leaf point := by
  obtain ⟨p, hp, hoff⟩ := hoff
  obtain ⟨start, hactive, ⟨mode, hdescent⟩, -⟩ := h
  exact hdescent.not_mem_subtree_of_off hr.linked hp hoff
    (Forest.not_mem_subtree_of_isActive hr.linked hp hoff hactive)

/-! ## Quiet changes -/

/-- A change on the way of populating that does not switch a pool on. -/
def Quiet (pool : PoolId) (r s : Registry) : Prop :=
  Change AnyPopulated r s ∧ (r.Dormant pool → s.Dormant pool)

theorem Dormant.of_alike (hr : r.Dormant pool)
    (h : Forest.Alike Pool.active r.forest s.forest) : s.Dormant pool := by
  obtain ⟨p, hp, hoff⟩ := hr
  obtain ⟨q, hq, hsame⟩ := h.find hp
  exact ⟨q, hq, hsame.trans hoff⟩

/-- Counting switches nothing. -/
theorem alike_active_adjust (f : Forest) (id : PoolId) (delta : Int) (totalsOnly : Bool) :
    Forest.Alike Pool.active f (f.adjust id delta totalsOnly) :=
  (f.alike_adjust id delta totalsOnly).through Pool.active

theorem Quiet.of_alike (change : Change AnyPopulated r s)
    (h : Forest.Alike Pool.active r.forest s.forest) : Quiet pool r s :=
  ⟨change, fun hoff => hoff.of_alike h⟩

theorem admits_quiet : Admits AnyPopulated (Quiet pool) where
  samePlan h := h.1.samePlan
  draw r random := ⟨.draw r random, id⟩
  reserve hcandidate hpoint hfree hmay :=
    .of_alike (.reserve hcandidate hpoint hfree hmay) (alike_active_adjust _ _ _ _)
  materialize h := by
    refine .of_alike (.materialize _ h) ?_
    rw [(materialize?_keeps h).1]
    exact .refl _ _
  withdraw hpoint hheld hentity :=
    .of_alike (.withdraw hpoint hheld hentity) (alike_active_adjust _ _ _ _)
  schedule r timers := ⟨.schedule r timers, id⟩
  host r change := ⟨.host r change, id⟩
  patch h := by
    refine .of_alike (.patch _ _ h) ?_
    rcases applyPatch?_cases h with ⟨_, rfl⟩ | ⟨_, _, _, -, -, rfl⟩ | ⟨_, rfl⟩
    · exact .refl _ _
    · exact Forest.alike_modify (fun _ _ => rfl)
    · exact .refl _ _
  vacate hpoint hheld := by
    refine .of_alike (.vacate hpoint hheld) ?_
    rw [vacate_eq _ hheld, ← destroyAt_forest]
    exact alike_active_adjust _ _ _ _
  bury hlive hpoint corpseSecs :=
    .of_alike (.bury hlive hpoint corpseSecs) (alike_active_adjust _ _ _ _)
  unload hlive := ⟨.unload hlive, id⟩
  forget hlive hlost := ⟨.forget hlive hlost, id⟩
  clear r gone := ⟨.clear r gone, id⟩

/-- A switch is quiet unless it switches the pool itself on. -/
theorem quiet_switch {other : PoolId} {active : Bool} (h : other = pool → active = false)
    (r : Registry) :
    Quiet pool r
      { r with forest := r.forest.modify other (fun p => { p with active := active }) } := by
  refine ⟨.activate r other active, ?_⟩
  rintro ⟨p, hp, hoff⟩
  by_cases hself : other = pool
  · subst hself
    exact ⟨_, Table.get?_modify_self hp, h rfl⟩
  · exact ⟨p, (Table.get?_modify_of_ne (Ne.symm hself)).trans hp, hoff⟩

/-- Quiet changes from a registry in which a pool is off reserve nothing for its subtree, and it
stays off. -/
theorem steps_of_quiet (h : Relation.ReflTransGen (Quiet pool) r s) (hr : r.Planned)
    (hoff : r.Dormant pool) : Steps (Outside pool) r s ∧ s.Dormant pool := by
  induction h with
  | refl => exact ⟨.refl, hoff⟩
  | tail hquiet hstep ih =>
      obtain ⟨hsteps, hoff⟩ := ih
      have hplanned := hsteps.samePlan.planned hr
      exact ⟨hsteps.tail (hstep.1.mono (fun _ _ => not_mem_subtree_of_populated hplanned hoff)),
        hstep.2 hoff⟩

theorem mayReserve_of_spares {op : Operation} (h : op.spares pool) :
    MayReserve op = AnyPopulated := by
  cases op with
  | spawnAt => cases h
  | spawnSingle => cases h
  | _ => rfl

/-- What an operation does that spares a pool, it does quietly. -/
theorem perform_quiet (hr : r.Planned) {op : Operation} (h : op.spares pool) :
    Relation.ReflTransGen (Quiet pool) r (r.perform op) := by
  cases hop : op.isDespawn with
  | false =>
      have hadmits : Admits (MayReserve op) (Quiet pool) := mayReserve_of_spares h ▸ admits_quiet
      refine hadmits.perform hr hop ?_
      rintro other active rfl s
      exact quiet_switch h s
  | true =>
      cases op with
      | handleDespawn handle bulk =>
          refine handleDespawn_steps admits_quiet hr handle bulk ?_ ?_
          · exact fun hlive => ⟨.unlink hlive, id⟩
          · exact fun hlive hpoint => .of_alike (.depart hlive hpoint) (alike_active_adjust _ _ _ _)
      | _ => cases hop

/-! ## Runs -/

/-- No run of operations that spare a pool reserves a point for its subtree, at any moment, and
after each such run the subtree is deserted. -/
def Sealed (r : Registry) (pool : PoolId) : Prop :=
  ∀ ops : List Operation, (∀ op ∈ ops, op.spares pool) →
    Steps (Outside pool) r (ops.foldl perform r) ∧ (ops.foldl perform r).Deserted pool

/-- Without new reservations for a subtree it stays unreserved. -/
theorem Unreserved.steps (h : r.Unreserved pool) (hr : r.Sound)
    (hsteps : Steps (Outside pool) r s) : s.Unreserved pool := by
  have hkept := hsteps.keep (P := fun s => s.Sound ∧ s.Unreserved pool) ?_ ⟨hr, h⟩
  · exact hkept.2
  · rintro r s change ⟨hr, h⟩
    refine ⟨change.sound hr, ?_⟩
    intro x q held hq hheld
    rw [← change.samePlan.subtree]
    cases change.tally hr with
    | kept hcounts hpoints =>
        obtain ⟨p, hp, hsame⟩ := hpoints.symm.find hq
        exact h x p held hp (hsame.trans hheld)
    | gained hp hfree hmay hknown hforest hpoints =>
        rw [hpoints] at hq
        rcases Table.get?_modify_cases hq with ⟨rfl, a, -, rfl⟩ | ⟨-, hq⟩
        · obtain rfl := Option.some.inj hheld
          exact hmay
        · exact h x q held hq hheld
    | lost free hp hheld' hforest halike hfree hpoints =>
        rw [hpoints] at hq
        rcases Table.get?_modify_cases hq with ⟨rfl, a, -, rfl⟩ | ⟨-, hq⟩
        · rw [hfree] at hheld
          cases hheld
        · obtain ⟨p, hp, hsame⟩ := halike.symm.find hq
          exact h x p held hp (hsame.trans hheld)

theorem sealed_of_dormant (hr : r.Sound) (hcovered : r.Covered) (hoff : r.Dormant pool)
    (h : r.Unreserved pool) : r.Sealed pool := by
  have hrun : ∀ ops : List Operation, (∀ op ∈ ops, op.spares pool) →
      Steps (Outside pool) r (ops.foldl perform r) ∧ (ops.foldl perform r).Dormant pool := by
    intro ops hops
    refine List.foldlRecOn ops perform
      (motive := fun s => Steps (Outside pool) r s ∧ s.Dormant pool) ⟨.refl, hoff⟩ ?_
    rintro s ⟨hsteps, hoff⟩ op hop
    have hplanned := hsteps.samePlan.planned hr.toPlanned
    obtain ⟨hmore, hoff⟩ := steps_of_quiet (perform_quiet hplanned (hops op hop)) hplanned hoff
    exact ⟨hsteps.trans hmore, hoff⟩
  intro ops hops
  obtain ⟨hsteps, -⟩ := hrun ops hops
  exact ⟨hsteps, (h.steps hr hsteps).deserted (hsteps.sound hr) (hsteps.covered hr hcovered)⟩

/-! ## Pools that are off from the start -/

/-- As long as nothing is switched, the pools that wait for an activation are off. -/
def Unswitched (f : Forest) : Prop := ∀ id p, f.get? id = some p → p.active = !p.template.isManual

theorem Unswitched.of_alike {f g : Forest} (hf : Unswitched f)
    (h : Forest.Alike (fun p => (p.active, p.template.flags)) f g) : Unswitched g := by
  intro id q hq
  obtain ⟨p, hp, hsame⟩ := Forest.Alike.find h.symm hq
  obtain ⟨hactive, hflags⟩ := Prod.mk.inj hsame
  rw [← hactive, hf id p hp, Template.isManual, Template.isManual, hflags]

theorem Unswitched.addTemplate (hr : Unswitched r.forest) (row : TemplateRow) :
    Unswitched (r.addTemplate row).forest := by
  obtain hskip | ⟨template, forest, -, hforest, hadd⟩ := r.addTemplate_cases row
  · rw [hskip]
    exact hr
  · rw [hadd]
    obtain ⟨-, rfl⟩ := Forest.insert?_eq_some hforest
    intro id p hp
    obtain ⟨-, rfl⟩ | ⟨-, hp⟩ := Table.get?_insert_cases hp
    · rfl
    · exact hr id p hp

theorem Unswitched.addEdge (hr : Unswitched r.forest) (row : EdgeRow) :
    Unswitched (r.addEdge row).forest := by
  obtain hskip | ⟨forest, hforest, hadd⟩ := r.addEdge_cases row
  · rw [hskip]
    exact hr
  · rw [hadd]
    exact hr.of_alike (Forest.alike_link (fun _ _ => rfl) (fun _ _ _ => rfl) hforest)

theorem load_unswitched {map : MapId} {rows : PoolRows} {host : Host} {config : RegistryConfig}
    (h : load map rows host config = .ok r) : Unswitched r.forest := by
  have hpoints := List.foldlRecOn rows.points addPoint (motive := fun s => Unswitched s.forest)
    (fun _ _ h => by cases h) (b := empty map host config) (fun s hs row _ => by
      obtain ⟨-, hadd⟩ | ⟨_, -, -, hadd⟩ := s.addPoint_cases row <;> (rw [hadd]; exact hs))
  have htemplates := List.foldlRecOn rows.templates Registry.addTemplate
    (motive := fun s => Unswitched s.forest) hpoints (fun _ hs row _ => hs.addTemplate row)
  have hedges := List.foldlRecOn rows.edges Registry.addEdge
    (motive := fun s => Unswitched s.forest) htemplates (fun _ hs row _ => hs.addEdge row)
  have hsettled := hedges.of_alike (g := Forest.settleRoots _) (Forest.alike_map (fun _ _ _ => rfl))
  exact hsettled.of_alike ((load_structure h).through Prod.snd)

/-! ## Both ways to be off -/

theorem Reachable.dormant_setActive {rows : PoolRows} {allowed : Operation → Prop}
    (hr : Reachable rows allowed r) (hknown : r.forest.contains pool = true) :
    (r.perform (.setActive pool false)).Dormant pool := by
  obtain ⟨p, hp⟩ := Forest.contains_iff.mp hknown
  have hquiet : Admits AnyPopulated (Quiet pool) := admits_quiet
  rw [perform, exec_setActive_false hknown]
  have hoff : (r.closed pool).Dormant pool := ⟨_, Table.get?_modify_self hp, rfl⟩
  have hplanned := (r.samePlan_closed pool).planned hr.sound.toPlanned
  have hemptied := despawnPool_steps hquiet hplanned pool false
  exact (steps_of_quiet hemptied hplanned hoff).2

/-- A pool that is off stays deserted, with everything below it, until it is switched on itself.
Switching it off drains it, whatever has happened before, and a pool that waits for its activation
is deserted from the start. Neither the pools around it nor the timers, deaths and grids bring a
reservation to its subtree. -/
theorem deserted_until_activated {rows : PoolRows} (pool : PoolId) :
    (∀ r, Reachable rows (fun _ => True) r → r.forest.contains pool = true →
      (r.perform (.setActive pool false)).Drained pool ∧
        (r.perform (.setActive pool false)).Sealed pool) ∧
    ∀ map host config r p, load map rows host config = .ok r → r.forest.get? pool = some p →
      p.template.isManual = true → r.Sealed pool := by
  refine ⟨fun r hr hknown => ?_, fun map host config r p h hp hmanual => ?_⟩
  · have hdrained := hr.setActive_drains hknown
    have hnext : Reachable rows (fun _ => True) (r.perform (.setActive pool false)) :=
      hr.step _ trivial
    exact ⟨hdrained, sealed_of_dormant hnext.sound hnext.covered (hr.dormant_setActive hknown)
      hdrained.unreserved⟩
  · have hfresh := (load_fresh h).fresh
    have hoff : p.active = false := by
      rw [load_unswitched h pool p hp, hmanual]
      rfl
    refine sealed_of_dormant hfresh.sound hfresh.covered ⟨p, hp, hoff⟩ ?_
    intro x q held hq hheld
    rw [(hfresh.vacant hq).1] at hheld
    cases hheld

/-- The small map, where every pool waits for its activation. -/
def manualRows : PoolRows :=
  { campRows with templates := campRows.templates.map (fun row => { row with flags := 1 }) }

/-- The group of the small map is filled and switched off, or it waits for its activation. Then a
leaf of it is switched on, to no avail. -/
theorem deserted_until_activated_camp :
    ((camp.perform (.spawnPool ⟨1⟩ 0)).occupiedPoints ⟨1⟩).length = 2 ∧
      ([.setActive ⟨2⟩ true, .spawnAll].foldl perform
        ((camp.perform (.spawnPool ⟨1⟩ 0)).perform (.setActive ⟨1⟩ false))).Deserted ⟨1⟩ ∧
      ∃ r, load default manualRows .fresh default = .ok r ∧
        ([.setActive ⟨2⟩ true, .spawnAll].foldl perform r).Deserted ⟨1⟩ := by
  have hspares : ∀ op ∈ [Operation.setActive ⟨2⟩ true, .spawnAll], op.spares ⟨1⟩ := by
    intro op hop
    rcases List.mem_pair.mp hop with rfl | rfl
    · exact fun same => by cases same
    · trivial
  have hfilled : Reachable campRows (fun _ => True) (camp.perform (.spawnPool ⟨1⟩ 0)) :=
    (reachable_camp _).step _ trivial
  refine ⟨by decide +kernel, ?_, ?_⟩
  · exact (((deserted_until_activated ⟨1⟩).1 _ hfilled (by decide +kernel)).2 _ hspares).2
  · have hmanual : ((load default manualRows .fresh default).toOption.bind
        (·.forest.get? ⟨1⟩)).any (·.template.isManual) = true := by decide +kernel
    cases hloaded : load default manualRows .fresh default with
    | error e =>
        rw [hloaded] at hmanual
        cases hmanual
    | ok r =>
        rw [hloaded] at hmanual
        obtain ⟨p, hp, hmanual⟩ := (Option.any_eq_true _ _).mp hmanual
        exact ⟨r, rfl, (((deserted_until_activated ⟨1⟩).2 _ _ _ r p hloaded hp hmanual) _
          hspares).2⟩

end Registry

end SpawnForest
