import SpawnForest.Proofs.Registry.Soundness

/-!
# Reports about entities

The world reports that an entity has died or disappeared, and it may report so
twice, or late. What keeps a registry from counting such an entity down again
is that a handle is live once at most: handles are given out in ascending order,
so what becomes live has a handle that was not given out before (`Newcomers`),
and a handle that was given out and is not live is gone for good (`Gone`).

A report is honoured if it is answered with true. It is answered with false just
if the entity is not live, and then nothing has happened
(`Reachable.honoured_once`).
-/

namespace SpawnForest

/-- The entity that an operation reports as dead or as gone. -/
def Operation.reported? : Operation → Option EntityHandle
  | handleDeath handle _ => some handle
  | handleDespawn handle _ => some handle
  | _ => none

namespace Registry

variable {may : Registry → PoolId → PointId → Prop} {rows : PoolRows}
  {allowed : Operation → Prop} {r s t : Registry} {handle : EntityHandle}

/-! ## Handles come new -/

/-- Whatever is live later is live already, or its handle is still to be given out. -/
structure Newcomers (r s : Registry) : Prop where
  issued : r.host.handles.issued ≤ s.host.handles.issued
  live : ∀ {handle spawn}, s.live.get? handle = some spawn →
    r.live.get? handle = some spawn ∨ r.host.handles.issued ≤ handle.serial

namespace Newcomers

theorem refl (r : Registry) : Newcomers r r := ⟨Nat.le_refl _, .inl⟩

theorem trans (hrs : Newcomers r s) (hst : Newcomers s t) : Newcomers r t where
  issued := Nat.le_trans hrs.issued hst.issued
  live h := by
    rcases hst.live h with h | h
    · exact hrs.live h
    · exact .inr (Nat.le_trans hrs.issued h)

theorem of_same (hlive : s.live = r.live) (hhandles : s.host.handles = r.host.handles) :
    Newcomers r s where
  issued := Nat.le_of_eq (congrArg HandleSource.issued hhandles).symm
  live h := .inl (hlive ▸ h)

theorem of_erase (handle : EntityHandle) (hlive : s.live = r.live.erase handle)
    (hhandles : s.host.handles = r.host.handles) : Newcomers r s where
  issued := Nat.le_of_eq (congrArg HandleSource.issued hhandles).symm
  live h := .inl (Table.get?_erase_cases (hlive ▸ h)).2

end Newcomers

theorem newcomers_vacate (r : Registry) (p : SpawnPoint) : Newcomers r (r.vacate p) := by
  have hdestroyed : Newcomers r (r.destroyAt p) := by
    rcases r.destroyAt_cases p with ⟨-, h⟩ | ⟨handle, -, h⟩
    · rw [h]
      exact .refl r
    · rw [h]
      exact .of_erase handle rfl (destroy_issued r.host handle)
  unfold vacate
  split
  · exact hdestroyed
  · exact hdestroyed.trans (.of_same rfl rfl)

theorem Change.newcomers (h : Change may r s) : Newcomers r s := by
  cases h with
  | draw random => exact .of_same rfl rfl
  | schedule timers => exact .of_same rfl rfl
  | host change => exact .of_same rfl (hostChange_issued r.host change)
  | activate pool active => exact .of_same rfl rfl
  | patch scope patch h =>
      rcases applyPatch?_cases h with ⟨_, rfl⟩ | ⟨_, _, _, -, -, rfl⟩ | ⟨_, rfl⟩ <;>
        exact .of_same rfl rfl
  | reserve hcandidate hpoint hfree hmay => exact .of_same rfl rfl
  | materialize point h =>
      rcases materialize?_cases h with rfl | ⟨_, request, handle, host, -, -, -, hmade, rfl⟩
      · exact .refl _
      · obtain ⟨rfl, hissued⟩ := instantiate?_eq_some hmade
        refine ⟨Nat.le_of_lt (Nat.lt_of_succ_le (Nat.le_of_eq hissued.symm)), fun hlive => ?_⟩
        rcases Table.get?_insert_cases hlive with ⟨rfl, -⟩ | ⟨-, hold⟩
        · exact .inr (Nat.le_refl _)
        · exact .inl hold
  | withdraw hpoint hheld hentity => exact .of_same rfl rfl
  | vacate hpoint hheld => exact newcomers_vacate r _
  | bury hlive hpoint corpseSecs => exact .of_erase _ rfl rfl
  | unlink hlive => exact .of_erase _ rfl rfl
  | unload hlive => exact .of_erase _ rfl (destroy_issued r.host _)
  | depart hlive hpoint => exact .of_erase _ rfl rfl
  | forget hlive hlost => exact .of_erase _ rfl rfl
  | clear gone => exact .of_same rfl (r.clearRemains_handles gone)

theorem Steps.newcomers (h : Steps may r s) : Newcomers r s :=
  h.keep (P := Newcomers r) (fun change hr => hr.trans change.newcomers) (.refl r)

/-! ## Gone for good -/

/-- The handle of an entity was given out, and the entity is not live any more. -/
structure Gone (r : Registry) (handle : EntityHandle) : Prop where
  untracked : r.live.get? handle = none
  issued : handle.serial < r.host.handles.issued

theorem Gone.later (h : r.Gone handle) (hrs : Newcomers r s) : s.Gone handle where
  untracked := by
    cases hlive : s.live.get? handle with
    | none => rfl
    | some spawn =>
        rcases hrs.live hlive with hlive | hnew
        · rw [h.untracked] at hlive
          cases hlive
        · exact absurd h.issued (Nat.not_lt.mpr hnew)
  issued := Nat.lt_of_lt_of_le h.issued hrs.issued

/-- What was live and is not live later is gone. -/
theorem Sound.gone (hr : r.Sound) {spawn : LiveSpawn} (hlive : r.live.get? handle = some spawn)
    (hrs : Newcomers r s) (hleft : s.live.get? handle = none) : s.Gone handle :=
  ⟨hleft, Nat.lt_of_lt_of_le (hr.tracking.issued_lt hlive) hrs.issued⟩

theorem Sound.newcomers_perform (hr : r.Sound) (op : Operation) : Newcomers r (r.perform op) :=
  (perform_steps hr.toPlanned op).newcomers

theorem Gone.run (h : r.Gone handle) (hr : r.Sound) (ops : List Operation) :
    (ops.foldl Registry.perform r).Gone handle := by
  induction ops generalizing r with
  | nil => exact h
  | cons op ops ih => exact ih (h.later (hr.newcomers_perform op)) (hr.perform op)

/-! ## Answers -/

/-- What is answered to a report. -/
def reportAnswer? (r : Registry) : Operation → Option (Except Fault Bool)
  | .handleDeath handle looted => some (exec (handleDeath handle looted) r).1
  | .handleDespawn handle bulk => some (exec (handleDespawn handle bulk) r).1
  | _ => none

/-- Whether an operation is a report about an entity, and one that is answered with true. -/
def honours (r : Registry) (handle : EntityHandle) (op : Operation) : Bool :=
  op.reported? == some handle &&
    match r.reportAnswer? op with
    | some (.ok answer) => answer
    | _ => false

/-- How many reports about an entity are honoured in a run. -/
def honoured (handle : EntityHandle) : Registry → List Operation → Nat
  | _, [] => 0
  | r, op :: ops => (r.honours handle op).toNat + honoured handle (r.perform op) ops

/-- A report about an entity that is not live is refused, and leaves everything as it was. -/
theorem report_of_untracked (h : r.live.get? handle = none) {op : Operation}
    (hop : op.reported? = some handle) :
    r.reportAnswer? op = some (.ok false) ∧ r.perform op = r := by
  cases op with
  | handleDeath x looted =>
      obtain rfl := Option.some.inj hop
      have hrefused : exec (handleDeath x looted) r = (.ok false, r) := by
        rw [handleDeath, exec_get_bind, h]
        rfl
      rw [reportAnswer?, Registry.perform, hrefused]
      exact ⟨rfl, rfl⟩
  | handleDespawn x bulk =>
      obtain rfl := Option.some.inj hop
      have hrefused : exec (handleDespawn x bulk) r = (.ok false, r) := by
        rw [handleDespawn, exec_get_bind, h]
        rfl
      rw [reportAnswer?, Registry.perform, hrefused]
      exact ⟨rfl, rfl⟩
  | _ => cases hop

theorem confirmed_ne_refused (answer : Except Fault Bool) :
    answer.map (fun _ => true) ≠ .ok false := by
  intro h
  cases answer <;> cases h

theorem handleDeath_answer {spawn : LiveSpawn} {p : SpawnPoint} {q : Pool}
    (hlive : r.live.get? handle = some spawn) (hpoint : r.points.get? spawn.point = some p)
    (hpool : r.forest.get? spawn.pool = some q) (looted : Bool) :
    (exec (handleDeath handle looted) r).1 ≠ .ok false := by
  obtain ⟨delay, g, -, hran⟩ := exec_handleDeath_of_live hlive hpoint hpool looted
  rw [hran, exec_bind_return _ (fun _ => true)]
  exact confirmed_ne_refused _

theorem handleDespawn_answer {spawn : LiveSpawn} {p : SpawnPoint}
    (hlive : r.live.get? handle = some spawn) (hpoint : r.points.get? spawn.point = some p)
    (bulk : Bool) : (exec (handleDespawn handle bulk) r).1 ≠ .ok false := by
  unfold handleDespawn
  rw [exec_get_bind]
  simp only [hlive]
  rw [exec_set_bind, Table.contains, hpoint]
  cases bulk with
  | true => exact confirmed_ne_refused (.ok true)
  | false =>
      simp only [Option.isSome_some, Bool.not_true, Bool.false_eq_true, if_false]
      rw [exec_modify_bind, exec_bind_return _ (fun _ => true)]
      exact confirmed_ne_refused _

theorem Gone.expedite (h : r.Gone handle) (hr : r.Planned) (kind : SpawnKind) (pool : PoolId)
    (point : PointId) : (exec (expedite kind pool point) r).2.Gone handle :=
  h.later (Steps.newcomers (expedite_steps admits_change hr kind pool point))

/-- A report about a live entity is not refused, and the entity is gone even if the attempt to
replace it breaks off. -/
theorem Sound.report_of_tracked (hr : r.Sound) {spawn : LiveSpawn}
    (hlive : r.live.get? handle = some spawn) {op : Operation}
    (hop : op.reported? = some handle) :
    r.reportAnswer? op ≠ some (.ok false) ∧ (r.perform op).Gone handle := by
  obtain ⟨p, q, -, hp, hq, -⟩ := hr.origin hlive
  have hgone : ∀ {s : Registry}, s.live = r.live.erase handle →
      s.host.handles = r.host.handles → s.Gone handle := by
    intro s hs hhandles
    exact hr.gone hlive (.of_erase handle hs hhandles) (by rw [hs, Table.get?_erase_self])
  cases op with
  | handleDeath x looted =>
      obtain rfl := Option.some.inj hop
      refine ⟨fun h => handleDeath_answer hlive hp hq looted (Option.some.inj h), ?_⟩
      rw [Registry.perform]
      rcases exec_handleDeath r x looted with
        ⟨h, -⟩ | ⟨lost, -, -, h⟩ | ⟨known, p, q, corpseSecs, g, due, hknown, hpoint, -, h⟩
      · rw [hlive] at h
        cases h
      · rw [h]
        exact hgone rfl rfl
      · rw [h]
        refine Gone.expedite ?_ (hr.buried hknown hpoint corpseSecs g _) _ _ _
        exact hgone rfl rfl
  | handleDespawn x bulk =>
      obtain rfl := Option.some.inj hop
      refine ⟨fun h => handleDespawn_answer hlive hp bulk (Option.some.inj h), ?_⟩
      rw [Registry.perform]
      rcases exec_handleDespawn r x bulk with
        ⟨h, -⟩ | ⟨known, hknown, h | ⟨p, -, hpoint, h⟩⟩
      · rw [hlive] at h
        cases h
      · rw [h]
        exact hgone rfl rfl
      · rw [h]
        refine Gone.expedite ?_ (hr.departed hknown hpoint) _ _ _
        exact hgone rfl rfl
  | _ => cases hop

/-! ## Whole runs -/

theorem honours_of_gone (h : r.Gone handle) (op : Operation) : r.honours handle op = false := by
  cases hop : op.reported? == some handle with
  | false => rw [honours, hop, Bool.false_and]
  | true =>
      obtain ⟨hanswer, -⟩ := report_of_untracked h.untracked (beq_iff_eq.mp hop)
      rw [honours, hop, hanswer, Bool.true_and]

theorem honoured_of_gone (h : r.Gone handle) (hr : r.Sound) (ops : List Operation) :
    honoured handle r ops = 0 := by
  induction ops generalizing r with
  | nil => rfl
  | cons op ops ih =>
      rw [honoured, honours_of_gone h, ih (h.later (hr.newcomers_perform op)) (hr.perform op)]
      rfl

/-- An entity whose report is honoured was live, and is gone. -/
theorem Sound.gone_of_honours (hr : r.Sound) {op : Operation} (h : r.honours handle op = true) :
    (r.perform op).Gone handle := by
  obtain ⟨hop, hanswer⟩ := Bool.and_eq_true_iff.mp h
  have hreported := beq_iff_eq.mp hop
  cases hlive : r.live.get? handle with
  | none =>
      rw [(report_of_untracked hlive hreported).1] at hanswer
      cases hanswer
  | some spawn => exact (hr.report_of_tracked hlive hreported).2

theorem Sound.honoured_le_one (hr : r.Sound) (handle : EntityHandle) (ops : List Operation) :
    honoured handle r ops ≤ 1 := by
  induction ops generalizing r with
  | nil => exact Nat.zero_le _
  | cons op ops ih =>
      rw [honoured]
      cases h : r.honours handle op with
      | true =>
          rw [honoured_of_gone (hr.gone_of_honours h) (hr.perform op)]
          rfl
      | false =>
          rw [Bool.toNat_false, Nat.zero_add]
          exact ih (hr.perform op)

/-- Over a whole run, no more than one report about an entity is honoured, be it of its death or of
its disappearance. An entity that has left the table of live entities, however that came about,
never comes back to it. A report is refused just if the entity is not live, and leaves everything as
it was then. -/
theorem Reachable.honoured_once (hr : Reachable rows allowed r) (handle : EntityHandle) :
    (∀ ops, honoured handle r ops ≤ 1) ∧
    (∀ op spawn, r.live.get? handle = some spawn → (r.perform op).live.get? handle = none →
      ∀ ops : List Operation,
        (ops.foldl Registry.perform (r.perform op)).live.get? handle = none) ∧
    ∀ op, op.reported? = some handle →
      (r.reportAnswer? op = some (.ok false) ↔ r.live.get? handle = none) ∧
      (r.reportAnswer? op = some (.ok false) → r.perform op = r) := by
  have hsound := hr.sound
  refine ⟨hsound.honoured_le_one handle, ?_, ?_⟩
  · intro op spawn hlive hleft ops
    have hgone := hsound.gone hlive (hsound.newcomers_perform op) hleft
    exact (hgone.run (hsound.perform op) ops).untracked
  · intro op hop
    cases hlive : r.live.get? handle with
    | none =>
        obtain ⟨hanswer, hsame⟩ := report_of_untracked hlive hop
        exact ⟨iff_of_true hanswer rfl, fun _ => hsame⟩
    | some spawn =>
        obtain ⟨hanswer, -⟩ := hsound.report_of_tracked hlive hop
        exact ⟨iff_of_false hanswer (by simp), fun h => absurd h hanswer⟩

/-- Both entities of the camp are spawned. The first one is reported dead, gone and dead again, and
another one takes its place. -/
def doubtfulReports : List Operation :=
  [.handleDeath ⟨0⟩ false, .handleDespawn ⟨0⟩ false, .spawnPool ⟨1⟩ 1, .handleDeath ⟨0⟩ true]

theorem honoured_once_camp :
    honoured ⟨0⟩ (camp.perform .spawnAll) doubtfulReports = 1 ∧
      honoured ⟨0⟩ (camp.perform .spawnAll) doubtfulReports ≤ 1 ∧
      (doubtfulReports.foldl perform (camp.perform .spawnAll)).live.keys = [⟨1⟩, ⟨2⟩] :=
  ⟨by decide +kernel,
    (Reachable.honoured_once ((reachable_camp (fun _ => True)).step .spawnAll trivial) ⟨0⟩).1 _,
    by decide +kernel⟩

end Registry

end SpawnForest
