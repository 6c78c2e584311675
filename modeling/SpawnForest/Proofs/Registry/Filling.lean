import Mathlib.Data.List.Sublists
import SpawnForest.Proofs.Registry.Ledger
import SpawnForest.Proofs.Registry.Supply

/-!
# Filling a pool

If a pool is supplied, then filling it up spawns just as many entities as it has
room for. Each spawn either succeeds and spends one of the room, or it was tried
at the minimum, failed, and is tried again at the maximum, where it succeeds
(`Ready.exec_spawnSingle`). So after any number of spawns that the room allows,
that much of the room is spent (`Ready.filled`), whatever was drawn.

There is one way to break off: a selection among weights whose sum leaves no
finite range to draw from. If no weights below the pool can add up to such a
range, it does not occur (`FiniteWeights`).
-/

namespace SpawnForest

namespace Forest

/-- No selection below a pool, whichever children are open in it, draws from an infinite range. -/
def FiniteWeights (f : Forest) (pool : PoolId) : Prop :=
  ∀ x ∈ f.subtree pool,
    (∀ weights, weights.Sublist (((f.children x).filterMap f.get?).map (·.weight)) →
      Selectable weights) ∧
    ∀ p, f.get? x = some p → Selectable (p.candidates.map (·.weight))

theorem FiniteWeights.not_unselectable {f : Forest} {pool : PoolId} (h : f.FiniteWeights pool) :
    ¬f.Unselectable pool := by
  rintro ⟨x, hx, hselect | ⟨p, hp, hselect⟩⟩
  · refine hselect ((h x hx).1 _ (List.Sublist.map _ ?_))
    exact List.filter_sublist.filterMap _
  · exact hselect ((h x hx).2 p hp)

/-- What can be drawn from goes by the links and the weights alone. -/
theorem FiniteWeights.of_weights {f g : Forest} (hlinks : Alike Pool.links f g)
    (hpools : Alike Pool.weight f g)
    (hcandidates : Alike (fun p => p.candidates.map Candidate.weight) f g) {pool : PoolId}
    (h : f.FiniteWeights pool) : g.FiniteWeights pool := by
  have hweights : ∀ l : List PoolId,
      (l.filterMap g.get?).map (·.weight) = (l.filterMap f.get?).map (·.weight) := by
    intro l
    rw [List.map_filterMap, List.map_filterMap]
    refine List.filterMap_congr ?_
    intro c _
    exact (hpools c).symm
  intro x hx
  rw [← hlinks.subtree] at hx
  refine ⟨?_, ?_⟩
  · intro weights hsub
    rw [← hlinks.children, hweights] at hsub
    exact (h x hx).1 weights hsub
  · intro q hq
    obtain ⟨p, hp, hsame⟩ := Alike.find hcandidates.symm hq
    exact hsame ▸ (h x hx).2 p hp

theorem FiniteWeights.of_alike {f g : Forest} (hfg : Alike Pool.uncounted f g) {pool : PoolId}
    (h : f.FiniteWeights pool) : g.FiniteWeights pool :=
  h.of_weights (hfg.through Pool.links) (hfg.through Pool.weight)
    (hfg.through (fun p => p.candidates.map Candidate.weight))

/-- Switches and patches have no say in it either. -/
theorem FiniteWeights.of_fixed {f g : Forest} (hfg : Alike Pool.fixed f g) {pool : PoolId}
    (h : f.FiniteWeights pool) : g.FiniteWeights pool := by
  have hunpatched : (fun p => p.candidates.map Candidate.weight) ∘ Pool.fixed =
      fun p => p.candidates.map Candidate.weight :=
    funext (fun p => List.map_map)
  exact h.of_weights (hfg.through Pool.links) (hfg.through Pool.weight)
    (hunpatched ▸ hfg.through (fun p => p.candidates.map Candidate.weight))

end Forest

namespace Registry

variable {r : Registry} {pool : PoolId}

/-! ## One spawn -/

/-- A candidate is found again by its entry. -/
theorem Planned.exists_candidate (hr : r.Planned) {leaf : PoolId} {p : Pool} {c : Candidate}
    (hp : r.forest.get? leaf = some p) (hc : c ∈ p.candidates) :
    ∃ d, p.candidate? c.entry = some d ∧ d.kind = p.kind := by
  cases hfound : p.candidate? c.entry with
  | none =>
      have hnot := List.find?_eq_none.mp hfound c hc
      simp at hnot
  | some d => exact ⟨d, rfl, hr.kind_of_candidate hp (List.mem_of_find?_eq_some hfound)⟩

/-- A reservation of a candidate that the host accepts is never refused. -/
theorem materialize?_ne_none {x : PointId} {q : SpawnPoint} {held : Reservation} {p : Pool}
    {c : Candidate} (hq : r.points.get? x = some q) (hheld : q.reservation = some held)
    (hp : r.forest.get? held.pool = some p) (hc : p.candidate? held.entry = some c)
    (haccepted : r.host.rejected.contains held.entry = false) : r.materialize? x ≠ none := by
  unfold materialize?
  rw [hq]
  simp only [hheld]
  split
  · exact Option.some_ne_none r
  · have hrequest : ∃ request, r.request? q = some request ∧ request.entry = held.entry := by
      unfold request?
      rw [hheld, Option.bind_eq_bind, Option.bind_some, hp, Option.bind_eq_bind,
        Option.bind_some, hc]
      exact ⟨_, rfl, rfl⟩
    obtain ⟨request, hrequest, hentry⟩ := hrequest
    rw [hrequest]
    have hmade : r.host.instantiate? request ≠ none := by
      rw [Host.instantiate?, hentry, haccepted]
      simp
    obtain ⟨made, hmade⟩ := Option.ne_none_iff_exists'.mp hmade
    simp only [hmade]
    exact Option.some_ne_none _

/-- A spawn succeeds at a free point for a candidate that the host accepts. -/
theorem exec_spawnAt_of_accepted (hr : r.Sound) {leaf : PoolId} {p : Pool} {c : Candidate}
    {x : PointId} {q : SpawnPoint} (hp : r.forest.get? leaf = some p) (hc : c ∈ p.candidates)
    (hq : r.points.get? x = some q) (hfree : q.reservation = none)
    (haccepted : r.host.rejected.contains c.entry = false) :
    ∃ s, exec (spawnAt p.kind leaf c.entry x) r = (.ok true, s) ∧
      s.forest = r.forest.gain leaf ∧
      (r.points.modify x (·.reserve ⟨leaf, c.entry, p.kind⟩)).Alike (·.reservation) s.points ∧
      s.host.rejected = r.host.rejected := by
  obtain ⟨d, hfound, hkind⟩ := hr.toPlanned.exists_candidate hp hc
  have hcandidate : r.hasCandidate p.kind leaf c.entry = true :=
    hasCandidate_iff.mpr ⟨p, d, hp, hfound, hkind⟩
  rcases exec_spawnAt r p.kind leaf c.entry x with
    ⟨hnone, -⟩ | ⟨q', holder, hq', hheld, -⟩ | ⟨q', -, hq', -, h⟩
  · rcases hnone with hnone | hnone
    · rw [hcandidate] at hnone
      cases hnone
    · rw [hq] at hnone
      cases hnone
  · obtain rfl := Option.some.inj (hq.symm.trans hq')
    rw [hfree] at hheld
    cases hheld
  · rcases h with h | ⟨s, hmade, h⟩ | ⟨hrefused, -⟩
    · exact ⟨_, h, rfl, .refl _ _, rfl⟩
    · obtain ⟨hforest, hpoints, hrejected, -⟩ := materialize?_keeps hmade
      exact ⟨s, h, hforest, hpoints, hrejected⟩
    · -- the host would have made the entity
      exfalso
      obtain ⟨p', hp', hsame⟩ := Forest.Alike.find (r.forest.alike_adjust leaf 1 false) hp
      have hcandidates : p'.candidates = p.candidates := (congrArg Pool.candidates hsame :)
      have hfound' : p'.candidate? c.entry = some d := by
        rw [Pool.candidate?, hcandidates]
        exact hfound
      have hreserved : (r.reserve x ⟨leaf, c.entry, p.kind⟩).points.get? x
          = some (q'.reserve ⟨leaf, c.entry, p.kind⟩) := Table.get?_modify_self hq'
      exact materialize?_ne_none hreserved rfl hp' hfound' haccepted hrefused

/-- A balanced registry in which a pool is supplied. -/
structure Ready (r : Registry) (pool : PoolId) : Prop extends Balanced r where
  supplied : r.Supplied pool

theorem Ready.capacity_le (h : r.Ready pool) : r.forest.capacity pool ≤ Pool.unbounded := by
  have hle := h.supplied.capacity_le_size h.toPlanned
  have hsmall := h.small
  unfold Pool.unbounded
  omega

theorem Ready.drawn (h : r.Ready pool) (g : Pcg) : Ready { r with random := g } pool :=
  ⟨h.toBalanced.drawn g, h.supplied.candidates, h.supplied.accepted, h.supplied.points⟩

/-- One spawn where there is room: it comes to nothing at the minimum, breaks off at a draw, or
succeeds and spends one of the room. -/
theorem Ready.exec_spawnSingle (h : r.Ready pool) (hroom : r.forest.hasRoom pool .maximum = true)
    (mode : Mode) :
    (mode = .minimum ∧ ∃ g, exec (spawnSingle pool mode) r = (.ok false, { r with random := g })) ∨
    (r.forest.Unselectable pool ∧
      ∃ s, exec (spawnSingle pool mode) r = (.error .infiniteRange, s)) ∨
    ∃ s, exec (spawnSingle pool mode) r = (.ok true, s) ∧ s.Ready pool ∧
      Forest.Alike Pool.uncounted r.forest s.forest ∧
      s.forest.room pool .maximum + 1 = r.forest.room pool .maximum := by
  have hf := h.linked
  obtain ⟨g, hrun⟩ := Registry.exec_spawnSingle hf h.named pool mode
  rcases hrun with ⟨hbarren, hrun⟩ | ⟨hselect, hrun⟩ | ⟨leaf, p, c, x, hdescent, hp, hc, hx, hrun⟩
  · rcases hbarren with hnone | ⟨leaf, p, hdescent, hp, hnone⟩
    · cases mode with
      | minimum => exact .inl ⟨rfl, g, hrun⟩
      | maximum =>
          rw [hroom] at hnone
          cases hnone rfl
    · have hopen := hdescent.openLeaf hf
      rcases hnone with hnone | hnone
      · exact absurd hnone (h.supplied.freePoints_ne_nil h.toPlanned hopen hp
          (hdescent.hasRoom_leaf hroom))
      · exact absurd hnone (h.supplied.candidates hopen hp)
  · exact .inr (.inl ⟨hselect, _, hrun⟩)
  · have hopen := hdescent.openLeaf hf
    have hleafRoom := hdescent.hasRoom_leaf hroom
    obtain ⟨husable, hfreeAt⟩ := mem_freePoints.mp hx
    obtain ⟨q, hq, hfree⟩ := freeAt_iff.mp hfreeAt
    have hdrawn := h.drawn g
    obtain ⟨s, hspawned, hforest, hpoints, hrejected⟩ := exec_spawnAt_of_accepted
      (r := { r with random := g }) hdrawn.toSound hp hc hq hfree (h.supplied.accepted hopen hp hc)
    have hcounts := h.counts_up hq hfree leaf
    have hsteps : Steps (fun _ _ _ => True) { r with random := g } s := by
      have hspawn : Steps (fun _ _ _ => True) { r with random := g }
          (exec (spawnAt p.kind leaf c.entry x) { r with random := g }).2 :=
        spawnAt_steps admits_change.toSpawns trivial
      rwa [hspawned] at hspawn
    refine .inr (.inr ⟨s, hrun.trans hspawned, ⟨hsteps.balanced hdrawn.toBalanced, ?_⟩, ?_, ?_⟩)
    · exact h.supplied.of_gain h.toPlanned hcounts hopen husable hforest hpoints hrejected
    · rw [hforest]
      exact r.forest.alike_adjust leaf 1 false
    · rw [hforest]
      exact Forest.room_gain hf hcounts hopen hleafRoom (.inl h.capacity_le)

/-! ## Many spawns -/

/-- What filling comes to: it breaks off at a draw, or spawns just as many as asked for and spends
that much of the room. -/
def Filled (r : Registry) (pool : PoolId) (count : Nat) (ran : Except Fault Nat × Registry) :
    Prop :=
  (ran.1 = .error .infiniteRange ∧
    ∃ f, Forest.Alike Pool.uncounted r.forest f ∧ f.Unselectable pool) ∨
  (ran.1 = .ok count ∧ ran.2.forest.room pool .maximum + count = r.forest.room pool .maximum)

/-- One entity and then the rest. -/
theorem Filled.succ {s : Registry} {count : Nat} {mode : Mode}
    (halike : Forest.Alike Pool.uncounted r.forest s.forest)
    (hroom : s.forest.room pool .maximum + 1 = r.forest.room pool .maximum)
    (h : Filled s pool count (exec (fill pool count mode) s)) :
    Filled r pool (count + 1) (exec (do return (← fill pool count mode) + 1) s) := by
  rw [exec_bind]
  generalize exec (fill pool count mode) s = ran at h ⊢
  obtain ⟨answer, t⟩ := ran
  rcases h with ⟨hfault, f, hf, hselect⟩ | ⟨hanswer, hspent⟩
  · replace hfault : answer = .error .infiniteRange := hfault
    subst hfault
    exact .inl ⟨rfl, f, halike.trans hf, hselect⟩
  · replace hanswer : answer = .ok count := hanswer
    replace hspent : t.forest.room pool .maximum + count = s.forest.room pool .maximum := hspent
    subst hanswer
    refine .inr ⟨rfl, ?_⟩
    show t.forest.room pool .maximum + (count + 1) = _
    omega

theorem Ready.filled (h : r.Ready pool) {count : Nat}
    (hcount : count ≤ r.forest.room pool .maximum) (mode : Mode) :
    Filled r pool count (exec (fill pool count mode) r) := by
  induction count generalizing r mode with
  | zero =>
      rw [exec_fill_zero]
      exact .inr ⟨rfl, rfl⟩
  | succ count ih =>
      have hmaximum : ∀ {s : Registry}, s.Ready pool → s.forest = r.forest →
          Filled r pool (count + 1) (exec (do
            let spawned ← spawnSingle pool .maximum
            return (← fill pool count .maximum) + spawned.toNat) s) := by
        intro s hs hsame
        have hopen : s.forest.hasRoom pool .maximum = true := by
          rw [hsame, Forest.hasRoom, decide_eq_true_eq]
          omega
        rcases hs.exec_spawnSingle hopen .maximum with
          ⟨hmode, -⟩ | ⟨hselect, t, hrun⟩ | ⟨t, hrun, ht, halike, hroom⟩
        · cases hmode
        · rw [exec_bind_of_error hrun]
          exact .inl ⟨rfl, s.forest, hsame ▸ .refl _ _, hselect⟩
        · rw [exec_bind_of_ok hrun]
          rw [hsame] at halike hroom
          exact .succ halike hroom (ih ht (by omega) .maximum)
      cases mode with
      | maximum => exact hmaximum h rfl
      | minimum =>
          have hopen : r.forest.hasRoom pool .maximum = true := by
            rw [Forest.hasRoom, decide_eq_true_eq]
            omega
          rw [fill_minimum]
          rcases h.exec_spawnSingle hopen .minimum with
            ⟨-, g, hrun⟩ | ⟨hselect, t, hrun⟩ | ⟨t, hrun, ht, halike, hroom⟩
          · rw [exec_bind_of_ok hrun]
            exact hmaximum (h.drawn g) rfl
          · rw [exec_bind_of_error hrun]
            exact .inl ⟨rfl, r.forest, .refl _ _, hselect⟩
          · rw [exec_bind_of_ok hrun]
            exact .succ halike hroom (ih ht (by omega) .minimum)

/-! ## Reachable registries -/

theorem contains_of_isActive {f : Forest} {id : PoolId} (h : f.isActive id = true) :
    f.contains id = true := by
  rw [Forest.isActive, List.all_cons, Bool.and_eq_true] at h
  cases hp : f.get? id with
  | none =>
      rw [hp] at h
      cases h.1
  | some p => exact Forest.contains_iff.mpr ⟨p, hp⟩

/-- Spawning into a supplied pool without a count fills just the room that no timer below it waits
for, and all of it if there is no such timer, whatever the state of the random source. The one thing
that can break it off is a selection without a finite range to draw from, and it does not occur if
the weights are finite. -/
theorem Reachable.spawnPool_fills {rows : PoolRows}
    (hsmall : ((rows.points.map (·.point)).dedup).length < 2 ^ 32)
    (hr : Reachable rows (fun _ => True) r) (hactive : r.forest.isActive pool = true)
    (hsupplied : r.Supplied pool) (random : Pcg) :
    ((exec (spawnPool pool 0) { r with random := random }).1 ≠ .error .infiniteRange →
      (exec (spawnPool pool 0) { r with random := random }).1 =
        .ok (r.forest.room pool .maximum - r.timers.pendingIn (r.forest.subtree pool)) ∧
      (r.timers.pendingIn (r.forest.subtree pool) = 0 →
        (exec (spawnPool pool 0) { r with random := random }).2.forest.room pool .maximum = 0)) ∧
    (r.forest.FiniteWeights pool →
      (exec (spawnPool pool 0) { r with random := random }).1 ≠ .error .infiniteRange) := by
  have hready : r.Ready pool := ⟨hr.balanced hsmall, hsupplied⟩
  have hran : exec (spawnPool pool 0) { r with random := random } =
      exec (fill pool (r.forest.room pool .maximum - r.timers.pendingIn (r.forest.subtree pool))
        .minimum) { r with random := random } := by
    unfold spawnPool
    rw [exec_get_bind]
    simp only [contains_of_isActive hactive, hactive, Bool.not_true, Bool.or_self,
      Bool.false_eq_true, if_false, if_true]
    rfl
  have hfilled : Filled { r with random := random } pool
      (r.forest.room pool .maximum - r.timers.pendingIn (r.forest.subtree pool))
      (exec (fill pool (r.forest.room pool .maximum - r.timers.pendingIn (r.forest.subtree pool))
        .minimum) { r with random := random }) :=
    (hready.drawn random).filled (Nat.sub_le _ _) .minimum
  rw [hran]
  rcases hfilled with ⟨hfault, f, halike, hselect⟩ | ⟨hanswer, hspent⟩
  · refine ⟨fun hne => absurd hfault hne, ?_⟩
    intro hfinite
    exact absurd hselect (hfinite.of_alike halike).not_unselectable
  · refine ⟨fun _ => ⟨hanswer, ?_⟩, ?_⟩
    · intro hnone
      rw [hnone, Nat.sub_zero] at hspent
      rw [hnone, Nat.sub_zero]
      exact Nat.add_eq_right.mp hspent
    · intro _
      rw [hanswer]
      exact nofun

theorem supplied_camp : camp.Supplied ⟨1⟩ := by
  have hleaves : ∀ x ∈ camp.forest.subtree ⟨1⟩, ∀ p ∈ camp.forest.get? x, p.isLeaf = true →
      p.candidates ≠ [] ∧ (∀ c ∈ p.candidates, camp.host.rejected.contains c.entry = false) ∧
      p.maxLimit - p.ownCount ≤ p.points.countP (freeAt camp.points) := by decide +kernel
  have hopen : ∀ {leaf p}, camp.forest.OpenLeaf ⟨1⟩ leaf → camp.forest.get? leaf = some p → _ :=
    fun {leaf p} h hp => hleaves leaf h.below p hp ((Forest.isLeaf_iff hp).mpr h.childless)
  exact ⟨fun h hp => (hopen h hp).1, fun h hp => (hopen h hp).2.1 _, fun h hp => (hopen h hp).2.2⟩

theorem finiteWeights_camp : camp.forest.FiniteWeights ⟨1⟩ := by
  have hall : ∀ x ∈ camp.forest.subtree ⟨1⟩,
      (∀ weights ∈ (((camp.forest.children x).filterMap camp.forest.get?).map (·.weight)).sublists,
        Selectable weights) ∧
      ∀ p ∈ camp.forest.get? x, Selectable (p.candidates.map (·.weight)) := by decide +kernel
  intro x hx
  exact ⟨fun weights h => (hall x hx).1 weights (List.mem_sublists.mpr h), (hall x hx).2⟩

/-- The small map is filled with the two entities that its group allows. -/
theorem spawnPool_fills_camp :
    (exec (spawnPool ⟨1⟩ 0) { camp with random := .ofSeed 7 }).1 = .ok 2 := by
  have hfills := Reachable.spawnPool_fills (by decide) (reachable_camp _) (by decide +kernel)
    supplied_camp (.ofSeed 7)
  have hroom : camp.forest.room ⟨1⟩ .maximum
      - camp.timers.pendingIn (camp.forest.subtree ⟨1⟩) = 2 := by decide +kernel
  rw [hroom] at hfills
  exact (hfills.1 (hfills.2 finiteWeights_camp)).1

end Registry

end SpawnForest
