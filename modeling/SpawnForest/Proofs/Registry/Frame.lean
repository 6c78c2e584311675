import SpawnForest.Proofs.Forest.Building
import SpawnForest.Proofs.Forest.Counting
import SpawnForest.Proofs.Registry.Change

/-!
# What running never changes

A running registry adds no pools and no points and moves none of them: the
links, limits, weights and point lists of its pools stay as they were loaded,
and so do the candidates but for their patches. `SamePlan` compares two
registries as far as that goes, and every elementary change keeps it.

The inversions of the partial operations stand here as well. Proofs use them
and do not unfold the operations again.
-/

namespace SpawnForest

def Candidate.unpatched (c : Candidate) : Candidate :=
  { c with
    data := match c.data with
      | .creature defaults _ => .creature defaults none
      | .gameObject defaults _ => .gameObject defaults none }

/-- The part of a pool that is settled by loading. -/
def Pool.fixed (p : Pool) : Pool :=
  { p.uncounted with active := true, candidates := p.candidates.map Candidate.unpatched }

/-- The part of a point that is settled by loading. -/
def SpawnPoint.fixed (p : SpawnPoint) : SpawnPoint :=
  { p with
    creaturePatch := none
    gameObjectPatch := none
    reservation := none
    entity := none
    remains := [] }

theorem Candidate.unpatched_of_patched? {c d : Candidate} {patch : Patch}
    (h : c.patched? patch = some d) : d.unpatched = c.unpatched := by
  obtain ⟨pool, entry, chance, data⟩ := c
  cases data <;> cases patch <;> cases h <;> rfl

/-- Pools are filed under their own numbers. -/
def Forest.Named (f : Forest) : Prop := ∀ {id p}, f.get? id = some p → p.id = id

namespace Registry

/-! ## Inversions -/

theorem unpatched_of_patchCandidate? {entry : UInt32} {patch : Patch} {l m : List Candidate}
    (h : patchCandidate? entry patch l = some m) :
    m.map Candidate.unpatched = l.map Candidate.unpatched := by
  induction l generalizing m with
  | nil => cases h
  | cons c l ih =>
      unfold patchCandidate? at h
      split at h
      · obtain ⟨d, hd, rfl⟩ := Option.map_eq_some_iff.mp h
        simp [Candidate.unpatched_of_patched? hd]
      · obtain ⟨rest, hrest, rfl⟩ := Option.map_eq_some_iff.mp h
        simp [ih hrest]

/-- What an accepted patch changes: the patches of pairs, a candidate, or a point. -/
theorem applyPatch?_cases {r s : Registry} {scope : PatchScope} {patch : Patch}
    (h : r.applyPatch? scope patch = some s) :
    (∃ patches, s = { r with patches := patches }) ∨
    (∃ pool p candidates, r.forest.get? pool = some p ∧
      candidates.map Candidate.unpatched = p.candidates.map Candidate.unpatched ∧
      s = { r with
        forest := r.forest.modify pool (fun p => { p with candidates := candidates }) }) ∨
    ∃ point, s = r.modifyPoint point (·.patched patch) := by
  cases scope with
  | pair point entry =>
      obtain ⟨-, h⟩ := Option.ite_none_right_eq_some.mp h
      exact .inl ⟨_, (Option.some.inj h).symm⟩
  | candidate pool entry =>
      obtain ⟨p, hp, h⟩ := Option.bind_eq_some_iff.mp h
      obtain ⟨candidates, hc, rfl⟩ := Option.map_eq_some_iff.mp h
      exact .inr (.inl ⟨_, p, candidates, hp, unpatched_of_patchCandidate? hc, rfl⟩)
  | point point =>
      obtain ⟨-, h⟩ := Option.ite_none_right_eq_some.mp h
      exact .inr (.inr ⟨_, (Option.some.inj h).symm⟩)

theorem request?_eq_some {r : Registry} {p : SpawnPoint} {request : SpawnRequest}
    (h : r.request? p = some request) :
    ∃ pool candidate, p.reservation = some ⟨request.pool, request.entry, request.kind⟩ ∧
      r.forest.get? request.pool = some pool ∧ pool.candidate? request.entry = some candidate ∧
      request.point = p.id := by
  unfold request? at h
  obtain ⟨held, hheld, h⟩ := Option.bind_eq_some_iff.mp h
  obtain ⟨pool, hpool, h⟩ := Option.bind_eq_some_iff.mp h
  obtain ⟨candidate, hcandidate, h⟩ := Option.bind_eq_some_iff.mp h
  obtain rfl := Option.some.inj h
  exact ⟨pool, candidate, hheld, hpool, hcandidate, rfl⟩

/-- The entity of a reserved point: it is there already, or the host makes it. -/
theorem materialize?_cases {r s : Registry} {point : PointId} (h : r.materialize? point = some s) :
    s = r ∨ ∃ p request handle host, r.points.get? point = some p ∧ p.entity = none ∧
      r.request? p = some request ∧ r.host.instantiate? request = some (handle, host) ∧
      s = { r with
        points := r.points.modify point (·.attach handle)
        host := host
        live := r.live.insert handle ⟨request.kind, request.pool, point, request.entry⟩ } := by
  unfold materialize? at h
  cases hp : r.points.get? point with
  | none => rw [hp] at h; cases h
  | some p =>
      rw [hp] at h
      dsimp only at h
      cases hheld : p.reservation with
      | none => rw [hheld] at h; cases h
      | some held =>
          rw [hheld] at h
          dsimp only at h
          cases hentity : p.entity with
          | some handle =>
              rw [hentity] at h
              exact .inl (Option.some.inj h).symm
          | none =>
              rw [hentity, Option.isSome_none, if_neg Bool.false_ne_true] at h
              cases hrequest : r.request? p with
              | none => rw [hrequest] at h; cases h
              | some request =>
                  rw [hrequest] at h
                  dsimp only at h
                  cases hmade : r.host.instantiate? request with
                  | none => rw [hmade] at h; cases h
                  | some made =>
                      rw [hmade] at h
                      exact .inr ⟨p, request, made.1, made.2, rfl, hentity, hrequest, hmade,
                        (Option.some.inj h).symm⟩

/-- Making the entity of a reservation moves no count, no reservation and no timer. -/
theorem materialize?_keeps {r s : Registry} {x : PointId} (h : r.materialize? x = some s) :
    s.forest = r.forest ∧ r.points.Alike (·.reservation) s.points ∧
      s.host.rejected = r.host.rejected ∧ s.timers = r.timers := by
  rcases materialize?_cases h with rfl | ⟨_, request, handle, host, -, -, -, hhost, rfl⟩
  · exact ⟨rfl, .refl _ _, rfl, rfl⟩
  · refine ⟨rfl, Table.alike_modify (fun _ _ => rfl), ?_, rfl⟩
    unfold Host.instantiate? at hhost
    split at hhost
    · cases hhost
    · obtain ⟨-, rfl⟩ := Prod.mk.inj (Option.some.inj hhost)
      rfl

/-- What is freed: the entity goes, if there is one, and the reservation goes. -/
theorem vacate_eq (r : Registry) {p : SpawnPoint} {held : Reservation}
    (hheld : p.reservation = some held) :
    r.vacate p = (r.destroyAt p).release p.id held.pool := by
  unfold vacate
  simp only [hheld]

theorem destroyAt_cases (r : Registry) (p : SpawnPoint) :
    (p.entity = none ∧ r.destroyAt p = r) ∨
    ∃ handle, p.entity = some handle ∧ r.destroyAt p = { r.modifyPoint p.id (·.detach) with
      live := r.live.erase handle
      host := r.host.destroy handle } := by
  unfold destroyAt
  cases hentity : p.entity with
  | none => exact .inl ⟨rfl, rfl⟩
  | some handle => exact .inr ⟨handle, rfl, rfl⟩

/-! ## The same plan -/

/-- Two registries have the same pools and points, as far as loading settles them. -/
structure SamePlan (r s : Registry) : Prop where
  forest : Forest.Alike Pool.fixed r.forest s.forest
  points : r.points.Alike SpawnPoint.fixed s.points

theorem SamePlan.refl (r : Registry) : SamePlan r r := ⟨.refl _ _, .refl _ _⟩

theorem SamePlan.trans {r s t : Registry} (hrs : SamePlan r s) (hst : SamePlan s t) :
    SamePlan r t :=
  ⟨hrs.forest.trans hst.forest, hrs.points.trans hst.points⟩

theorem alike_fixed_adjust (f : Forest) (pool : PoolId) (delta : Int) (totalsOnly : Bool) :
    Forest.Alike Pool.fixed f (f.adjust pool delta totalsOnly) := by
  have h := (f.alike_adjust pool delta totalsOnly).through (fun p : Pool =>
    ({ p with active := true, candidates := p.candidates.map Candidate.unpatched } : Pool))
  exact h

theorem alike_fixed_destroyAt (r : Registry) (p : SpawnPoint) :
    r.points.Alike SpawnPoint.fixed (r.destroyAt p).points := by
  rcases r.destroyAt_cases p with ⟨-, h⟩ | ⟨handle, -, h⟩
  · rw [h]
    exact .refl _ _
  · rw [h]
    exact Table.alike_modify (fun _ _ => rfl)

theorem destroyAt_forest (r : Registry) (p : SpawnPoint) : (r.destroyAt p).forest = r.forest := by
  rcases r.destroyAt_cases p with ⟨-, h⟩ | ⟨handle, -, h⟩ <;> rw [h]
  rfl

theorem Change.samePlan {may : Registry → PoolId → PointId → Prop} {r s : Registry}
    (h : Change may r s) : SamePlan r s := by
  cases h with
  | draw random => exact ⟨.refl _ _, .refl _ _⟩
  | schedule timers => exact ⟨.refl _ _, .refl _ _⟩
  | host change => exact ⟨.refl _ _, .refl _ _⟩
  | activate pool active => exact ⟨Forest.alike_modify (fun p _ => rfl), .refl _ _⟩
  | patch scope patch h =>
      rcases applyPatch?_cases h with
        ⟨_, rfl⟩ | ⟨pool, p, candidates, hp, hsame, rfl⟩ | ⟨point, rfl⟩
      · exact ⟨.refl _ _, .refl _ _⟩
      · refine ⟨Forest.alike_modify ?_, .refl _ _⟩
        intro q hq
        obtain rfl := Option.some.inj (hp.symm.trans hq)
        simp only [Pool.fixed, Pool.uncounted, hsame]
      · exact ⟨.refl _ _, Table.alike_modify (fun _ _ => by cases patch <;> rfl)⟩
  | reserve hcandidate hpoint hfree hmay =>
      exact ⟨alike_fixed_adjust _ _ _ _, Table.alike_modify (fun _ _ => rfl)⟩
  | materialize point h =>
      rcases materialize?_cases h with rfl | ⟨p, request, handle, host, -, -, -, -, rfl⟩
      · exact .refl _
      · exact ⟨.refl _ _, Table.alike_modify (fun _ _ => rfl)⟩
  | withdraw hpoint hheld hentity =>
      exact ⟨alike_fixed_adjust _ _ _ _, Table.alike_modify (fun _ _ => rfl)⟩
  | @vacate p held hpoint hheld =>
      rw [vacate_eq r hheld]
      refine ⟨?_, (alike_fixed_destroyAt r p).trans (Table.alike_modify (fun _ _ => rfl))⟩
      show Forest.Alike Pool.fixed r.forest ((r.destroyAt p).forest.lose held.pool)
      rw [destroyAt_forest]
      exact alike_fixed_adjust _ _ _ _
  | bury hlive hpoint corpseSecs =>
      exact ⟨alike_fixed_adjust _ _ _ _, Table.alike_modify (fun _ _ => rfl)⟩
  | unlink hlive => exact ⟨.refl _ _, Table.alike_modify (fun _ _ => rfl)⟩
  | unload hlive => exact ⟨.refl _ _, Table.alike_modify (fun _ _ => rfl)⟩
  | @depart handle spawn p hlive hpoint =>
      have hdetach : r.points.Alike SpawnPoint.fixed (r.points.modify spawn.point (·.detach)) :=
        Table.alike_modify (fun _ _ => rfl)
      exact ⟨alike_fixed_adjust _ _ _ _, hdetach.trans (Table.alike_modify (fun _ _ => rfl))⟩
  | forget hlive hlost => exact ⟨.refl _ _, .refl _ _⟩
  | clear gone => exact ⟨.refl _ _, Table.alike_map (fun _ _ _ => rfl)⟩

theorem Steps.samePlan {may : Registry → PoolId → PointId → Prop} {r s : Registry}
    (h : Steps may r s) : SamePlan r s :=
  h.keep (P := fun t => SamePlan r t) (fun change hr => hr.trans change.samePlan) (.refl r)

end Registry

end SpawnForest
