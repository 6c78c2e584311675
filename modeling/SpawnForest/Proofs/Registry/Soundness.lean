import SpawnForest.Proofs.Registry.Loading
import SpawnForest.Proofs.Registry.Operations
import SpawnForest.Proofs.Registry.Tracking

/-!
# Sound registries

A registry is sound if its plan holds, every reservation is for a candidate
that there is, and live entities and points name each other. Loading gives a
sound registry and every elementary change keeps it sound (`Change.sound`), so
that every reachable registry is sound (`Reachable.sound`).

Reservations come only from `reserve`; every other change keeps a reservation
or takes it away (`Settled`). Counts go with the reservations, so that a change
has three ways to touch either of them (`Change.tally`).

What a sound registry says about its live entities is that they and the points
that have one correspond to each other (`Reachable.live_iff_placed`).
-/

namespace SpawnForest

namespace Registry

variable {may : Registry → PoolId → PointId → Prop} {r s : Registry}

structure Sound (r : Registry) : Prop extends Planned r where
  held : ∀ {x p h}, r.points.get? x = some p → p.reservation = some h →
    r.hasCandidate h.kind h.pool h.entry = true
  tracking : Tracking r.points r.live r.host.handles.issued

theorem Fresh.sound (hr : r.Fresh) : r.Sound := by
  refine ⟨hr.planned, fun hp h => ?_, ?_⟩
  · rw [(hr.vacant hp).1] at h
    cases h
  · rw [hr.live]
    exact .of_vacant (fun hp => (hr.vacant hp).2.1) _

/-! ## Candidates of the plan -/

theorem candidate?_unpatched (p : Pool) (entry : UInt32) :
    (p.candidate? entry).map Candidate.kind
      = ((p.candidates.map Candidate.unpatched).find? (fun c => c.entry == entry)).map
        Candidate.kind := by
  rw [Pool.candidate?, List.find?_map, Option.map_map]
  have hkind : Candidate.kind ∘ Candidate.unpatched = Candidate.kind :=
    funext Candidate.kind_unpatched
  rw [hkind]
  rfl

theorem hasCandidate_iff {kind : SpawnKind} {pool : PoolId} {entry : UInt32} :
    r.hasCandidate kind pool entry = true ↔
      ∃ p c, r.forest.get? pool = some p ∧ p.candidate? entry = some c ∧ c.kind = kind := by
  unfold Registry.hasCandidate
  cases hp : r.forest.get? pool with
  | none => simp
  | some p =>
      rw [Option.bind_some]
      cases hc : p.candidate? entry with
      | none => simp [hc]
      | some c => simp [hc]

theorem SamePlan.hasCandidate (h : SamePlan r s) (kind : SpawnKind) (pool : PoolId)
    (entry : UInt32) : r.hasCandidate kind pool entry = s.hasCandidate kind pool entry := by
  have hkind : ∀ t : Registry, t.hasCandidate kind pool entry =
      (((t.forest.get? pool).map Pool.fixed).bind (fun p =>
        (p.candidates.find? (fun c => c.entry == entry)).map Candidate.kind)).any (· == kind) := by
    intro t
    unfold Registry.hasCandidate
    cases t.forest.get? pool with
    | none => rfl
    | some p =>
        have hfixed := candidate?_unpatched p entry
        rw [Option.bind_some, Option.map_some, Option.bind_some]
        show _ = (((p.candidates.map Candidate.unpatched).find? _).map Candidate.kind).any _
        rw [← hfixed]
        cases p.candidate? entry <;> rfl
  rw [hkind r, hkind s, h.forest.get? pool]

/-! ## Reservations that stay or go -/

/-- Every reservation after a change was there before it. -/
def Settled (points points' : Table PointId SpawnPoint) : Prop :=
  ∀ x q h, points'.get? x = some q → q.reservation = some h →
    ∃ p, points.get? x = some p ∧ p.reservation = some h

theorem settled_of_alike {points points' : Table PointId SpawnPoint}
    (h : points.Alike (fun p => (p.entity, p.reservation)) points') : Settled points points' := by
  intro x q held hq hheld
  obtain ⟨p, hp, hsame⟩ := h.symm.find hq
  exact ⟨p, hp, (Prod.mk.inj hsame).2.trans hheld⟩

theorem settled_modify (points : Table PointId SpawnPoint) (x : PointId)
    {change : SpawnPoint → SpawnPoint}
    (hchange : ∀ p h, (change p).reservation = some h → p.reservation = some h) :
    Settled points (points.modify x change) := by
  intro y q h hq hheld
  rcases Table.get?_modify_cases hq with ⟨rfl, a, ha, rfl⟩ | ⟨-, hq⟩
  · exact ⟨a, ha, hchange a h hheld⟩
  · exact ⟨q, hq, hheld⟩

theorem settled_detach (points : Table PointId SpawnPoint) (x : PointId) :
    Settled points (points.modify x (·.detach)) := settled_modify points x (fun _ _ h => h)

theorem settled_release (points : Table PointId SpawnPoint) (x : PointId) :
    Settled points (points.modify x (·.release)) :=
  settled_modify points x (fun _ _ h => by cases h)

theorem Settled.trans {points points' points'' : Table PointId SpawnPoint}
    (h : Settled points points') (h' : Settled points' points'') : Settled points points'' := by
  intro x q held hq hheld
  obtain ⟨p, hp, hheld⟩ := h' x q held hq hheld
  exact h x p held hp hheld

theorem Sound.of_settled (hr : r.Sound) (hplan : SamePlan r s)
    (hsettled : Settled r.points s.points)
    (htracking : Tracking s.points s.live s.host.handles.issued) : s.Sound := by
  refine ⟨hplan.planned hr.toPlanned, ?_, htracking⟩
  intro x q held hq hheld
  obtain ⟨p, hp, hheld⟩ := hsettled x q held hq hheld
  rw [← hplan.hasCandidate]
  exact hr.held hp hheld

/-! ## Each change -/

theorem destroy_issued (h : Host) (handle : EntityHandle) :
    (h.destroy handle).handles = h.handles := by
  unfold Host.destroy
  split <;> rfl

theorem hostChange_issued (h : Host) (change : HostChange) :
    (change.apply h).handles = h.handles := by
  cases change <;> rfl

theorem instantiate?_eq_some {h h' : Host} {request : SpawnRequest} {handle : EntityHandle}
    (hmade : h.instantiate? request = some (handle, h')) :
    handle = ⟨h.handles.issued⟩ ∧ h'.handles.issued = h.handles.issued + 1 := by
  unfold Host.instantiate? at hmade
  split at hmade
  · cases hmade
  · obtain ⟨rfl, rfl⟩ := Prod.mk.inj (Option.some.inj hmade)
    exact ⟨rfl, rfl⟩

theorem clearRemains_handles (r : Registry) (gone : Remains → Bool) :
    (r.clearRemains gone).2.host.handles = r.host.handles := by
  unfold clearRemains
  exact List.foldlRecOn _ _ (motive := fun h : Host => h.handles = r.host.handles) rfl
    (fun h hh remains _ => (destroy_issued h remains.handle).trans hh)

/-- Whether an entity only leaves or is destroyed with its point, points and live table are left
the same way. -/
theorem tracking_destroyAt (hr : r.Sound) {p : SpawnPoint} (hp : r.points.get? p.id = some p) :
    Tracking (r.destroyAt p).points (r.destroyAt p).live (r.destroyAt p).host.handles.issued ∧
      Settled r.points (r.destroyAt p).points ∧
      ∃ q, (r.destroyAt p).points.get? p.id = some q ∧ q.entity = none := by
  rcases r.destroyAt_cases p with ⟨hentity, h⟩ | ⟨handle, hentity, h⟩
  · rw [h]
    exact ⟨hr.tracking, settled_of_alike (.refl _ _), p, hp, hentity⟩
  · obtain ⟨spawn, hlive, hpoint⟩ := hr.tracking.placed hp hentity
    have hunlinked := hr.tracking.unlink hlive
    rw [hpoint] at hunlinked
    rw [h]
    refine ⟨?_, settled_detach r.points p.id, p.detach, Table.get?_modify_self hp, rfl⟩
    show Tracking _ _ (r.host.destroy handle).handles.issued
    rw [destroy_issued]
    exact hunlinked

theorem Sound.of_patch (hr : r.Sound) (hplan : SamePlan r s) {scope : PatchScope} {patch : Patch}
    (h : r.applyPatch? scope patch = some s) : s.Sound := by
  rcases applyPatch?_cases h with ⟨_, rfl⟩ | ⟨_, _, _, -, -, rfl⟩ | ⟨point, rfl⟩
  · exact hr.of_settled hplan (settled_of_alike (.refl _ _)) hr.tracking
  · exact hr.of_settled hplan (settled_of_alike (.refl _ _)) hr.tracking
  · have halike : r.points.Alike (fun p => (p.entity, p.reservation))
        (r.points.modify point (·.patched patch)) :=
      Table.alike_modify (fun _ _ => by cases patch <;> rfl)
    exact hr.of_settled hplan (settled_of_alike halike) (hr.tracking.of_alike halike)

/-- The one change that adds a reservation. -/
theorem Sound.reserve (hr : r.Sound) {point : PointId} {p : SpawnPoint} {held : Reservation}
    (hplan : SamePlan r (r.reserve point held))
    (hcandidate : r.hasCandidate held.kind held.pool held.entry = true)
    (hpoint : r.points.get? point = some p) (hfree : p.reservation = none) :
    (r.reserve point held).Sound := by
  refine ⟨hplan.planned hr.toPlanned, fun hq hheld => ?_, ?_⟩
  · rw [← hplan.hasCandidate]
    rcases Table.get?_modify_cases hq with ⟨rfl, a, -, rfl⟩ | ⟨-, hq⟩
    · obtain rfl := Option.some.inj hheld
      exact hcandidate
    · exact hr.held hq hheld
  · have hentity := hr.tracking.entity_of_free hpoint hfree
    exact hr.tracking.rereserve (·.reserve held) hpoint hentity hentity

theorem Sound.of_materialize (hr : r.Sound) (hplan : SamePlan r s) {point : PointId}
    (h : r.materialize? point = some s) : s.Sound := by
  rcases materialize?_cases h with rfl | ⟨p, request, handle, host, hp, he, hrequest, hmade, rfl⟩
  · exact hr
  · obtain ⟨pool, candidate, hheld, -, -, -⟩ := request?_eq_some hrequest
    obtain ⟨rfl, hissued⟩ := instantiate?_eq_some hmade
    refine hr.of_settled hplan (settled_modify r.points point (fun _ _ h => h)) ?_
    have hattached := hr.tracking.attach
      (s := ⟨request.kind, request.pool, point, request.entry⟩) hp he hheld
    show Tracking _ _ host.handles.issued
    rw [hissued]
    exact hattached

theorem Sound.bury (hr : r.Sound) {handle : EntityHandle} {spawn : LiveSpawn} {p : SpawnPoint}
    (hlive : r.live.get? handle = some spawn) (hpoint : r.points.get? spawn.point = some p)
    {corpseSecs : Nat} (hplan : SamePlan r (r.bury handle spawn corpseSecs)) :
    (r.bury handle spawn corpseSecs).Sound := by
  have hunlinked := hr.tracking.unlink hlive
  have hreleased := hunlinked.rereserve (·.release) (Table.get?_modify_self hpoint) rfl rfl
  refine hr.of_settled hplan (settled_modify r.points spawn.point (fun _ _ h => by cases h))
    (hreleased.of_alike ?_)
  intro x
  show _ = ((r.points.modify spawn.point _).get? x).map _
  by_cases hx : x = spawn.point
  · rw [hx, Table.get?_modify_self (Table.get?_modify_self hpoint), Table.get?_modify_self hpoint]
    rfl
  · rw [Table.get?_modify_of_ne hx, Table.get?_modify_of_ne hx, Table.get?_modify_of_ne hx]

/-- A live entity is at a point that there is, and was spawned from a pool that there is. -/
theorem Sound.not_lost (hr : r.Sound) {handle : EntityHandle} {spawn : LiveSpawn}
    (hlive : r.live.get? handle = some spawn) :
    ¬(r.points.get? spawn.point = none ∨ r.forest.get? spawn.pool = none) := by
  obtain ⟨p, hp, -, hheld⟩ := hr.tracking.tracked hlive
  have hcandidate := hr.held hp hheld
  rintro (hlost | hlost)
  · rw [hp] at hlost
    cases hlost
  · obtain ⟨q, -, hq, -⟩ := hasCandidate_iff.mp hcandidate
    rw [LiveSpawn.reservation, hlost] at hq
    cases hq

theorem Change.sound (h : Change may r s) (hr : r.Sound) : s.Sound := by
  have hplan := h.samePlan
  cases h with
  | draw random => exact hr.of_settled hplan (settled_of_alike (.refl _ _)) hr.tracking
  | schedule timers => exact hr.of_settled hplan (settled_of_alike (.refl _ _)) hr.tracking
  | host change =>
      refine hr.of_settled hplan (settled_of_alike (.refl _ _)) ?_
      show Tracking r.points r.live (change.apply r.host).handles.issued
      rw [hostChange_issued]
      exact hr.tracking
  | activate pool active => exact hr.of_settled hplan (settled_of_alike (.refl _ _)) hr.tracking
  | patch scope patch h => exact hr.of_patch hplan h
  | reserve hcandidate hpoint hfree hmay => exact hr.reserve hplan hcandidate hpoint hfree
  | materialize point h => exact hr.of_materialize hplan h
  | withdraw hpoint hheld hentity =>
      exact hr.of_settled hplan (settled_release _ _)
        (hr.tracking.rereserve (·.release) hpoint hentity hentity)
  | @vacate p held hpoint hheld =>
      rw [vacate_eq r hheld] at hplan ⊢
      obtain ⟨htracking, hsettled, q, hq, hentity⟩ := tracking_destroyAt hr hpoint
      exact hr.of_settled hplan (hsettled.trans (settled_release _ _))
        (htracking.rereserve (·.release) hq hentity hentity)
  | bury hlive hpoint corpseSecs => exact hr.bury hlive hpoint hplan
  | unlink hlive =>
      exact hr.of_settled hplan (settled_detach _ _) (hr.tracking.unlink hlive)
  | @unload handle spawn hlive =>
      refine hr.of_settled hplan (settled_detach _ _) ?_
      show Tracking _ _ (r.host.destroy handle).handles.issued
      rw [destroy_issued]
      exact hr.tracking.unlink hlive
  | @depart handle spawn p hlive hpoint =>
      have hunlinked := hr.tracking.unlink hlive
      exact hr.of_settled hplan
        ((settled_detach r.points spawn.point).trans (settled_release _ _))
        (hunlinked.rereserve (·.release) (Table.get?_modify_self hpoint) rfl rfl)
  | forget hlive hlost => exact absurd hlost (hr.not_lost hlive)
  | clear gone =>
      have halike : r.points.Alike (fun p => (p.entity, p.reservation))
          (r.points.map (fun _ p => p.clear gone)) := Table.alike_map (fun _ _ _ => rfl)
      refine hr.of_settled hplan (settled_of_alike halike) ?_
      rw [clearRemains_handles]
      exact hr.tracking.of_alike halike

theorem Steps.sound (h : Steps may r s) (hr : r.Sound) : s.Sound :=
  h.keep (fun change hr => change.sound hr) hr

/-! ## Counts and reservations -/


/-- A reservation names a pool that there is, and a candidate of it. -/
theorem Sound.candidate_of_held (hr : r.Sound) {x : PointId} {p : SpawnPoint} {held : Reservation}
    (hp : r.points.get? x = some p) (hheld : p.reservation = some held) :
    ∃ q c, r.forest.get? held.pool = some q ∧ c ∈ q.candidates := by
  obtain ⟨q, c, hq, hc, -⟩ := hasCandidate_iff.mp (hr.held hp hheld)
  exact ⟨q, c, hq, List.mem_of_find?_eq_some hc⟩

theorem alike_reservation_destroyAt (r : Registry) (p : SpawnPoint) :
    r.points.Alike (·.reservation) (r.destroyAt p).points := by
  rcases r.destroyAt_cases p with ⟨-, h⟩ | ⟨handle, -, h⟩
  · rw [h]
    exact .refl _ _
  · rw [h]
    exact Table.alike_modify (fun _ _ => rfl)

/-- What a change does to counts and reservations: nothing, or one reservation comes and is
counted, or one goes and is counted off. -/
inductive Tally (may : Registry → PoolId → PointId → Prop) (r s : Registry) : Prop
  | kept (hcounts : Forest.Alike (fun p => (p.ownCount, p.totalCount)) r.forest s.forest)
      (hpoints : r.points.Alike (·.reservation) s.points) : Tally may r s
  | gained {x : PointId} {p : SpawnPoint} {held : Reservation} (hp : r.points.get? x = some p)
      (hfree : p.reservation = none) (hmay : may r held.pool x)
      (hknown : r.forest.contains held.pool = true) (hforest : s.forest = r.forest.gain held.pool)
      (hpoints : s.points = r.points.modify x (·.reserve held)) : Tally may r s
  | lost {x : PointId} {p : SpawnPoint} {held : Reservation} {points : Table PointId SpawnPoint}
      (change : SpawnPoint → SpawnPoint) (hp : r.points.get? x = some p)
      (hheld : p.reservation = some held) (hforest : s.forest = r.forest.lose held.pool)
      (halike : r.points.Alike (·.reservation) points)
      (hchange : ∀ q, (change q).reservation = none) (hpoints : s.points = points.modify x change) :
      Tally may r s

theorem Change.tally (h : Change may r s) (hr : r.Sound) : Tally may r s := by
  cases h with
  | draw random => exact .kept (.refl _ _) (.refl _ _)
  | schedule timers => exact .kept (.refl _ _) (.refl _ _)
  | host change => exact .kept (.refl _ _) (.refl _ _)
  | activate pool active => exact .kept (Forest.alike_modify (fun _ _ => rfl)) (.refl _ _)
  | patch scope patch h =>
      rcases applyPatch?_cases h with ⟨_, rfl⟩ | ⟨_, _, _, -, -, rfl⟩ | ⟨point, rfl⟩
      · exact .kept (.refl _ _) (.refl _ _)
      · exact .kept (Forest.alike_modify (fun _ _ => rfl)) (.refl _ _)
      · exact .kept (.refl _ _) (Table.alike_modify (fun _ _ => by cases patch <;> rfl))
  | reserve hcandidate hpoint hfree hmay =>
      obtain ⟨q, -, hq, -⟩ := hasCandidate_iff.mp hcandidate
      exact .gained hpoint hfree hmay (Forest.contains_iff.mpr ⟨q, hq⟩) rfl rfl
  | materialize point h =>
      rcases materialize?_cases h with rfl | ⟨_, _, _, _, -, -, -, -, rfl⟩
      · exact .kept (.refl _ _) (.refl _ _)
      · exact .kept (.refl _ _) (Table.alike_modify (fun _ _ => rfl))
  | withdraw hpoint hheld hentity =>
      exact .lost (·.release) hpoint hheld rfl (.refl _ _) (fun _ => rfl) rfl
  | @vacate p held hpoint hheld =>
      rw [vacate_eq r hheld]
      refine .lost (·.release) hpoint hheld ?_ (alike_reservation_destroyAt r p) (fun _ => rfl) rfl
      show (r.destroyAt p).forest.lose held.pool = _
      rw [destroyAt_forest]
  | @bury handle spawn p hlive hpoint corpseSecs =>
      obtain ⟨q, hq, -, hheld⟩ := hr.tracking.tracked hlive
      exact .lost (fun p => (p.detach.retire ⟨handle, spawn.pool, r.now.plus corpseSecs⟩).release)
        hq hheld rfl (.refl _ _) (fun _ => rfl) rfl
  | unlink hlive => exact .kept (.refl _ _) (Table.alike_modify (fun _ _ => rfl))
  | unload hlive => exact .kept (.refl _ _) (Table.alike_modify (fun _ _ => rfl))
  | @depart handle spawn p hlive hpoint =>
      obtain ⟨q, hq, -, hheld⟩ := hr.tracking.tracked hlive
      have hdetach : r.points.Alike (·.reservation) (r.points.modify spawn.point (·.detach)) :=
        Table.alike_modify (fun _ _ => rfl)
      exact .lost (·.release) hq hheld rfl hdetach (fun _ => rfl) rfl
  | forget hlive hlost => exact .kept (.refl _ _) (.refl _ _)
  | clear gone => exact .kept (.refl _ _) (Table.alike_map (fun _ _ _ => rfl))

/-! ## Reachable registries -/

theorem Sound.perform (hr : r.Sound) (op : Operation) : (r.perform op).Sound :=
  (perform_steps hr.toPlanned op).sound hr

theorem Reachable.sound {rows : PoolRows} {allowed : Operation → Prop}
    (h : Reachable rows allowed r) : r.Sound := by
  induction h with
  | loaded h => exact (load_fresh h).fresh.sound
  | step _ op _ ih => exact ih.perform op

/-- The points of a reachable registry are those that its rows name. -/
theorem Reachable.contains_point {rows : PoolRows} {allowed : Operation → Prop}
    (h : Reachable rows allowed r) (x : PointId) :
    r.points.contains x = true ↔ x ∈ rows.points.map (·.point) := by
  induction h with
  | loaded h => exact (load_fresh h).known x
  | step hr op _ ih =>
      rw [← (perform_steps hr.sound.toPlanned op).samePlan.points.contains x]
      exact ih

/-- Something holds of every reachable registry if it holds of fresh ones and the allowed
operations keep it, change by change. -/
theorem Reachable.keep {rows : PoolRows} {allowed : Operation → Prop} {P : Registry → Prop}
    (hr : Reachable rows allowed r)
    (loaded : ∀ {r}, Reachable rows allowed r → r.Fresh → P r)
    (step : ∀ {r s op}, allowed op → Reachable rows allowed r → P r →
      Steps (MayReserve op) r s → P s) : P r := by
  induction hr with
  | loaded h => exact loaded (.loaded h) (load_fresh h).fresh
  | step hr op hallowed ih =>
      exact step hallowed hr ih (perform_steps hr.sound.toPlanned op)

/-- The same change by change, where what is kept may rely on soundness. -/
theorem Reachable.keep_change {rows : PoolRows} {allowed : Operation → Prop} {P : Registry → Prop}
    (hr : Reachable rows allowed r) (fresh : ∀ {r}, r.Fresh → P r)
    (change : ∀ {r s op}, allowed op → r.Sound → P r → Change (MayReserve op) r s → P s) : P r := by
  refine hr.keep (fun _ hfresh => fresh hfresh) (fun hallowed hr hP hsteps => ?_)
  have hboth := hsteps.keep (P := fun s => s.Sound ∧ P s) (fun hchange ⟨hsound, hP⟩ =>
    ⟨hchange.sound hsound, change hallowed hsound hP hchange⟩) ⟨hr.sound, hP⟩
  exact hboth.2

/-! ## Live entities and their points -/

/-- What a reservation names: a leaf, and a candidate of the leaf under its entry and of its
kind. -/
theorem Sound.leaf_of_held (hr : r.Sound) {x : PointId} {p : SpawnPoint} {held : Reservation}
    (hp : r.points.get? x = some p) (hheld : p.reservation = some held) :
    ∃ pool c, r.forest.get? held.pool = some pool ∧ pool.children = [] ∧
      pool.candidate? held.entry = some c ∧ c.kind = held.kind := by
  obtain ⟨pool, c, hpool, hc, hkind⟩ := hasCandidate_iff.mp (hr.held hp hheld)
  have hleaf := hr.leaf_of_candidate hpool (List.mem_of_find?_eq_some hc)
  exact ⟨pool, c, hpool, List.isEmpty_iff.mp hleaf, hc, hkind⟩

/-- A live entity has a point, a pool and a candidate that it came from. -/
theorem Sound.origin (hr : r.Sound) {handle : EntityHandle} {spawn : LiveSpawn}
    (hlive : r.live.get? handle = some spawn) :
    ∃ p q c, r.points.get? spawn.point = some p ∧ r.forest.get? spawn.pool = some q ∧
      q.candidate? spawn.entry = some c := by
  obtain ⟨p, hp, -, hheld⟩ := hr.tracking.tracked hlive
  obtain ⟨q, c, hq, -, hc, -⟩ := hr.leaf_of_held hp hheld
  exact ⟨p, q, c, hp, hq, hc⟩

/-- Live entities and points with an entity correspond to each other one to one, after any run of
operations, direct spawns and reported despawns included. An entity is alive as spawned from some
pool at some point just if that point has it and is reserved for what it was spawned from. Every
point with an entity is reserved, no two points have the same entity, and every reservation names a
leaf that has the candidate. -/
theorem Reachable.live_iff_placed {rows : PoolRows} (hr : Reachable rows (fun _ => True) r) :
    (∀ handle spawn, r.live.get? handle = some spawn ↔
      ∃ p, r.points.get? spawn.point = some p ∧ p.entity = some handle ∧
        p.reservation = some ⟨spawn.pool, spawn.entry, spawn.kind⟩) ∧
    (∀ x p handle, r.points.get? x = some p → p.entity = some handle →
      ∃ held, p.reservation = some held ∧
        r.live.get? handle = some ⟨held.kind, held.pool, x, held.entry⟩) ∧
    (∀ x y p q handle, r.points.get? x = some p → r.points.get? y = some q →
      p.entity = some handle → q.entity = some handle → x = y) ∧
    ∀ x p held, r.points.get? x = some p → p.reservation = some held →
      ∃ pool c, r.forest.get? held.pool = some pool ∧ pool.children = [] ∧
        pool.candidate? held.entry = some c ∧ c.kind = held.kind := by
  have hsound := hr.sound
  have hplaced : ∀ x p handle, r.points.get? x = some p → p.entity = some handle →
      ∃ held, p.reservation = some held ∧
        r.live.get? handle = some ⟨held.kind, held.pool, x, held.entry⟩ := by
    intro x p handle hp hentity
    obtain ⟨spawn, hlive, rfl⟩ := hsound.tracking.placed hp hentity
    obtain ⟨q, hq, -, hheld⟩ := hsound.tracking.tracked hlive
    obtain rfl := Option.some.inj (hp.symm.trans hq)
    exact ⟨spawn.reservation, hheld, hlive⟩
  refine ⟨fun handle spawn => ⟨hsound.tracking.tracked, ?_⟩, hplaced, ?_,
    fun x p held hp hheld => hsound.leaf_of_held hp hheld⟩
  · rintro ⟨p, hp, hentity, hheld⟩
    obtain ⟨held, hheld', hlive⟩ := hplaced spawn.point p handle hp hentity
    obtain rfl := Option.some.inj (hheld.symm.trans hheld')
    exact hlive
  · intro x y p q handle hp hq hentity hentity'
    obtain ⟨spawn, hlive, rfl⟩ := hsound.tracking.placed hp hentity
    exact hsound.tracking.point_eq hlive hq hentity'

/-- Two entities are spawned in the small map, and one of them is reported gone in bulk, so that its
point stays reserved: the other one is still found at its point. -/
theorem live_iff_placed_camp :
    ((camp.perform (.spawnPool ⟨1⟩ 2)).perform (.handleDespawn ⟨0⟩ true)).live.keys = [⟨1⟩] ∧
      ∀ spawn, ((camp.perform (.spawnPool ⟨1⟩ 2)).perform
          (.handleDespawn ⟨0⟩ true)).live.get? ⟨1⟩ = some spawn ↔
        ∃ p, ((camp.perform (.spawnPool ⟨1⟩ 2)).perform
            (.handleDespawn ⟨0⟩ true)).points.get? spawn.point = some p ∧
          p.entity = some ⟨1⟩ ∧ p.reservation = some ⟨spawn.pool, spawn.entry, spawn.kind⟩ := by
  refine ⟨by decide +kernel, ?_⟩
  have hspawned : Reachable campRows (fun _ => True) (camp.perform (.spawnPool ⟨1⟩ 2)) :=
    (reachable_camp _).step _ trivial
  exact (Reachable.live_iff_placed (hspawned.step (.handleDespawn ⟨0⟩ true) trivial)).1 ⟨1⟩

end Registry

end SpawnForest
