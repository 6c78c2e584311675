import SpawnForest.Proofs.Registry.Soundness

/-!
# Settled roots and bounded totals

The root of a pool is looked up when the edges are known and never again. It
stays right, since no edge comes or goes later: every pool of a reachable
registry is settled under the top of its own hierarchy (`Reachable.rooted`).

The totals are bounded by what they are stored in, whatever happens to them
(`Reachable.total_lt`).
-/

namespace SpawnForest

/-- The root settled for each pool is the top of its hierarchy. -/
def Forest.Rooted (f : Forest) : Prop := ∀ id p, f.get? id = some p → p.root = f.top id

namespace Forest

theorem Rooted.of_alike {f g : Forest} (hf : f.Rooted)
    (h : Alike (fun p => (p.links, p.root)) f g) : g.Rooted := by
  intro id q hq
  have hlinks : Alike Pool.links f g := h.through Prod.fst
  obtain ⟨p, hp, hsame⟩ := Alike.find h.symm hq
  rw [← (Prod.mk.inj hsame).2, hf id p hp]
  exact hlinks.top id

theorem rooted_settleRoots (f : Forest) : f.settleRoots.Rooted := by
  intro id q hq
  have hlinks : Alike Pool.links f f.settleRoots := alike_map (fun _ _ _ => rfl)
  rw [settleRoots, get?, Table.get?_map] at hq
  obtain ⟨p, -, rfl⟩ := Option.map_eq_some_iff.mp hq
  exact hlinks.top id

/-- A pool lies below its root. -/
theorem Rooted.mem_subtree {f : Forest} (hf : f.Rooted) (hlinked : f.WellLinked)
    {id root : PoolId} (h : f.rootOf? id = some root) : id ∈ f.subtree root := by
  obtain ⟨p, hp, rfl⟩ := Option.map_eq_some_iff.mp h
  rw [hf id p hp]
  exact hlinked.mem_subtree_top (contains_iff.mpr ⟨p, hp⟩)

end Forest

namespace Registry

variable {may : Registry → PoolId → PointId → Prop} {rows : PoolRows}
  {allowed : Operation → Prop} {r s : Registry}

theorem load_rooted {map : MapId} {host : Host} {config : RegistryConfig}
    (h : load map rows host config = .ok r) : r.forest.Rooted :=
  (Forest.rooted_settleRoots _).of_alike ((load_structure h).through Prod.fst)

/-- What is settled by loading holds from then on. -/
theorem Reachable.keep_plan {P : Registry → Prop} (hr : Reachable rows allowed r)
    (loaded : ∀ {map host config r}, load map rows host config = .ok r → P r)
    (keep : ∀ {r s}, SamePlan r s → P r → P s) : P r := by
  induction hr with
  | loaded h => exact loaded h
  | step hr op _ ih => exact keep (perform_steps hr.sound.toPlanned op).samePlan ih

theorem Reachable.rooted (hr : Reachable rows allowed r) : r.forest.Rooted :=
  hr.keep_plan (P := fun r => r.forest.Rooted) (fun h => load_rooted h)
    (fun h hr => hr.of_alike (h.forest.through (fun p => (p.links, p.root))))

theorem SamePlan.rootOf? (h : SamePlan r s) (id : PoolId) :
    s.forest.rootOf? id = r.forest.rootOf? id :=
  (h.forest.through Pool.root id).symm

/-! ## Totals -/

/-- Every total fits 32 bits. -/
def Bounded (r : Registry) : Prop := ∀ id p, r.forest.get? id = some p → p.totalCount < 2 ^ 32

theorem Change.bounded (h : Change may r s) (hr : r.Sound) (hbounded : r.Bounded) : s.Bounded := by
  have hadjusted : ∀ {pool delta id q}, (r.forest.adjust pool delta false).get? id = some q →
      q.totalCount < 2 ^ 32 := by
    intro pool delta id q hq
    obtain ⟨p, hp, -⟩ := Forest.Alike.find (r.forest.alike_adjust pool delta false).symm hq
    have hless := hbounded id p hp
    rcases hr.linked.totalCount_adjust hp hq with htotal | ⟨-, htotal⟩ <;> rw [htotal]
    · exact hless
    · exact Forest.bump_lt hless delta
  intro id q hq
  cases h.tally hr with
  | kept hcounts hpoints =>
      obtain ⟨p, hp, hsame⟩ := Forest.Alike.find hcounts.symm hq
      rw [← (Prod.mk.inj hsame).2]
      exact hbounded id p hp
  | gained hpoint hfree hallowed hknown hforest hpoints =>
      rw [hforest] at hq
      exact hadjusted hq
  | lost change hpoint hheld hforest halike hchange hpoints =>
      rw [hforest] at hq
      exact hadjusted hq

theorem Reachable.total_lt (hr : Reachable rows allowed r) : r.Bounded := by
  refine hr.keep_change ?_ (fun _ hsound hbounded hchange => hchange.bounded hsound hbounded)
  intro r hfresh id p hp
  rw [(hfresh.counts hp).2]
  exact Nat.two_pow_pos 32

end Registry

end SpawnForest
