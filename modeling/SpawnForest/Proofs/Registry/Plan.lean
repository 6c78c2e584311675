import SpawnForest.Proofs.Registry.Frame

/-!
# What loading settles

`Planned` collects what holds of the pools and points of a registry as soon as
they are there: links, numbers, candidates and assignments. None of it speaks
about counts, switches, reservations or entities, so a running registry keeps
all of it (`SamePlan.planned`).

While a registry is being loaded its pools change in other ways, but `Carries`
covers these as well: the pool before and the pool after agree in what the plan
speaks about, except that a pool without candidates may become a group.
-/

namespace SpawnForest

/-- What a pool takes over from its former self. -/
structure Pool.Carries (p q : Pool) : Prop where
  id : q.id = p.id
  kind : q.kind = p.kind
  points : q.points = p.points
  candidates : q.candidates.map Candidate.unpatched = p.candidates.map Candidate.unpatched
  leaf : p.candidates = [] ∨ q.isLeaf = p.isLeaf

theorem Pool.Carries.refl (p : Pool) : p.Carries p := ⟨rfl, rfl, rfl, rfl, .inr rfl⟩

theorem Pool.carries_of_fixed_eq {p q : Pool} (h : q.fixed = p.fixed) : p.Carries q :=
  ⟨(congrArg Pool.id h :), (congrArg Pool.kind h :), (congrArg Pool.points h :),
    (congrArg Pool.candidates h :), .inr (congrArg Pool.isLeaf h :)⟩

theorem Candidate.kind_unpatched (c : Candidate) : c.unpatched.kind = c.kind := by
  rw [Candidate.kind, Candidate.kind, Candidate.unpatched]
  cases c.data <;> rfl

/-- Each candidate was there before, but for its patch. -/
theorem Pool.Carries.exists_candidate {p q : Pool} (h : p.Carries q) {c : Candidate}
    (hc : c ∈ q.candidates) : ∃ d ∈ p.candidates, d.kind = c.kind := by
  have hmem : c.unpatched ∈ p.candidates.map Candidate.unpatched := by
    rw [← h.candidates]
    exact List.mem_map_of_mem hc
  obtain ⟨d, hd, hsame⟩ := List.mem_map.mp hmem
  refine ⟨d, hd, ?_⟩
  rw [← Candidate.kind_unpatched, hsame, Candidate.kind_unpatched]

namespace Registry

/-- What holds of pools and points from loading on. -/
structure Planned (r : Registry) : Prop where
  linked : r.forest.WellLinked
  named : r.forest.Named
  points_named : ∀ {x p}, r.points.get? x = some p → p.id = x
  leaf_of_candidate : ∀ {id p c}, r.forest.get? id = some p → c ∈ p.candidates → p.isLeaf = true
  kind_of_candidate : ∀ {id p c}, r.forest.get? id = some p → c ∈ p.candidates → c.kind = p.kind
  assigned_known : ∀ {id p x}, r.forest.get? id = some p → x ∈ p.points →
    r.points.contains x = true
  assigned_nodup : ∀ {id p}, r.forest.get? id = some p → p.points.Nodup
  /-- No point is assigned to two pools. -/
  assigned_once : ∀ {id other p q x}, r.forest.get? id = some p → r.forest.get? other = some q →
    x ∈ p.points → x ∈ q.points → id = other

/-- The plan passes to a registry whose pools carry over and whose points are at least those that
were there. -/
theorem Planned.of_carries {r s : Registry} (hr : r.Planned) (hlinked : s.forest.WellLinked)
    (hpools : ∀ {id q}, s.forest.get? id = some q →
      ∃ p, r.forest.get? id = some p ∧ p.Carries q)
    (hknown : ∀ {x}, r.points.contains x = true → s.points.contains x = true)
    (hnamed : ∀ {x p}, s.points.get? x = some p → p.id = x) : s.Planned := by
  refine ⟨hlinked, ?_, hnamed, ?_, ?_, ?_, ?_, ?_⟩
  · intro id q hq
    obtain ⟨p, hp, h⟩ := hpools hq
    rw [h.id, hr.named hp]
  · intro id q c hq hc
    obtain ⟨p, hp, h⟩ := hpools hq
    obtain ⟨d, hd, -⟩ := h.exists_candidate hc
    rcases h.leaf with hnone | hleaf
    · rw [hnone] at hd
      cases hd
    · rw [hleaf]
      exact hr.leaf_of_candidate hp hd
  · intro id q c hq hc
    obtain ⟨p, hp, h⟩ := hpools hq
    obtain ⟨d, hd, hkind⟩ := h.exists_candidate hc
    rw [← hkind, h.kind]
    exact hr.kind_of_candidate hp hd
  · intro id q x hq hx
    obtain ⟨p, hp, h⟩ := hpools hq
    exact hknown (hr.assigned_known hp (h.points ▸ hx))
  · intro id q hq
    obtain ⟨p, hp, h⟩ := hpools hq
    rw [h.points]
    exact hr.assigned_nodup hp
  · intro id other q q' x hq hq' hx hx'
    obtain ⟨p, hp, h⟩ := hpools hq
    obtain ⟨p', hp', h'⟩ := hpools hq'
    exact hr.assigned_once hp hp' (h.points ▸ hx) (h'.points ▸ hx')

theorem SamePlan.planned {r s : Registry} (hrs : SamePlan r s) (hr : r.Planned) : s.Planned := by
  refine hr.of_carries (hr.linked.of_alike (hrs.forest.through Pool.links)) ?_ ?_ ?_
  · intro id q hq
    obtain ⟨p, hp, hfixed⟩ := Forest.Alike.find hrs.forest.symm hq
    exact ⟨p, hp, Pool.carries_of_fixed_eq hfixed.symm⟩
  · intro x hx
    rwa [← hrs.points.contains x]
  · intro x q hq
    obtain ⟨p, hp, hfixed⟩ := hrs.points.symm.find hq
    rw [← hr.points_named hp]
    exact (congrArg SpawnPoint.id hfixed.symm :)

/-- The plan is about pools and points alone. -/
theorem Planned.of_eq {r s : Registry} (hr : r.Planned) (hforest : s.forest = r.forest)
    (hpoints : s.points = r.points) : s.Planned := by
  refine SamePlan.planned ⟨?_, ?_⟩ hr
  · rw [hforest]
    exact .refl _ _
  · rw [hpoints]
    exact .refl _ _

theorem Planned.timed {r : Registry} (hr : r.Planned) (timers : Schedule) :
    Planned { r with timers := timers } := hr.of_eq rfl rfl

end Registry

end SpawnForest
