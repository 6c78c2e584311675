import SpawnForest.Proofs.Registry.Plan
import SpawnForest.Registry.Load

/-!
# Loaded registries

A registry is built row by row, and every accepted row keeps it `Fresh`: the
plan holds, nothing is counted, every point is vacant and nothing is alive.
Edges may turn leaves into groups, which is why no pool may have candidates
while they are read (`Bare`); candidates come later and go to leaves only.

So a registry that loads is fresh, and its points are those that the rows name
(`load_fresh`).
-/

namespace SpawnForest

namespace Registry

/-- Nothing has happened in a registry yet. -/
structure Fresh (r : Registry) : Prop where
  planned : r.Planned
  counts : ∀ {id p}, r.forest.get? id = some p → p.ownCount = 0 ∧ p.totalCount = 0
  vacant : ∀ {x p}, r.points.get? x = some p →
    p.reservation = none ∧ p.entity = none ∧ p.remains = []
  live : r.live = .empty

/-- No pool has a candidate yet. -/
def Bare (r : Registry) : Prop := ∀ id p, r.forest.get? id = some p → p.candidates = []

theorem fresh_empty (map : MapId) (host : Host) (config : RegistryConfig) :
    (empty map host config).Fresh := by
  have hpool : ∀ {id p}, (empty map host config).forest.get? id = some p → False := by
    intro id p h
    cases h
  refine ⟨⟨Forest.wellLinked_empty, ?_, ?_, ?_, ?_, ?_, ?_, ?_⟩, ?_, ?_, rfl⟩
  · exact fun h => (hpool h).elim
  · exact fun h => by cases h
  · exact fun h _ => (hpool h).elim
  · exact fun h _ => (hpool h).elim
  · exact fun h _ => (hpool h).elim
  · exact fun h => (hpool h).elim
  · exact fun h _ _ _ => (hpool h).elim
  · exact fun h => (hpool h).elim
  · exact fun h => by cases h

/-- Freshness passes to a registry whose pools carry over with their counts and whose points are
vacant, the known ones among them. -/
theorem Fresh.of_carries {r s : Registry} (hr : r.Fresh) (hlinked : s.forest.WellLinked)
    (hpools : ∀ {id q}, s.forest.get? id = some q → ∃ p, r.forest.get? id = some p ∧ p.Carries q ∧
      q.ownCount = p.ownCount ∧ q.totalCount = p.totalCount)
    (hpoints : s.points = r.points) (hlive : s.live = r.live) : s.Fresh := by
  refine ⟨hr.planned.of_carries hlinked ?_ ?_ ?_, ?_, ?_, hlive.trans hr.live⟩
  · intro id q hq
    obtain ⟨p, hp, h, -, -⟩ := hpools hq
    exact ⟨p, hp, h⟩
  · intro x hx
    rwa [hpoints]
  · intro x p hp
    rw [hpoints] at hp
    exact hr.planned.points_named hp
  · intro id q hq
    obtain ⟨p, hp, -, hown, htotal⟩ := hpools hq
    rw [hown, htotal]
    exact hr.counts hp
  · intro x p hp
    rw [hpoints] at hp
    exact hr.vacant hp

theorem Fresh.skip {r : Registry} (hr : r.Fresh) : r.skip.Fresh :=
  hr.of_carries hr.planned.linked (fun hq => ⟨_, hq, Pool.Carries.refl _, rfl, rfl⟩) rfl rfl

/-! ## One row

A row is skipped, or it changes its own part of the registry and is counted. Proofs about loading
go by these cases and do not unfold the reading of a row again. -/

theorem addPoint_cases (r : Registry) (row : PointRow) :
    r.points.contains row.point = true ∧ r.addPoint row = r.skip ∨
    ∃ p, p = SpawnPoint.vacant row.point r.map row.position row.rotation
        (Region.ofPosition row.position).grid (Region.ofPosition row.position).zone ∧
      r.points.get? row.point = none ∧
      r.addPoint row = { r with
        points := r.points.insert row.point p
        report := { r.report with points := r.report.points + 1 } } := by
  unfold addPoint
  cases hknown : r.points.contains row.point with
  | true => exact .inl ⟨rfl, rfl⟩
  | false => exact .inr ⟨_, rfl, by simpa [Table.contains] using hknown, rfl⟩

theorem addTemplate_cases (r : Registry) (row : TemplateRow) :
    r.addTemplate row = r.skip ∨
    ∃ t forest, row.template? r.map = some t ∧
      r.forest.insert? (.ofTemplate t) = some forest ∧
      r.addTemplate row = { r with
        forest := forest
        report := { r.report with templates := r.report.templates + 1 } } := by
  unfold addTemplate
  cases hforest : (row.template? r.map).bind (fun t => r.forest.insert? (.ofTemplate t)) with
  | none => exact .inl rfl
  | some forest =>
      obtain ⟨t, ht, hinsert⟩ := Option.bind_eq_some_iff.mp hforest
      exact .inr ⟨t, forest, ht, hinsert, rfl⟩

theorem addEdge_cases (r : Registry) (row : EdgeRow) :
    r.addEdge row = r.skip ∨
    ∃ forest, r.forest.link row.pool row.child row.chance = .ok forest ∧
      r.addEdge row = { r with
        forest := forest
        report := { r.report with edges := r.report.edges + 1 } } := by
  unfold addEdge
  cases hforest : r.forest.link row.pool row.child row.chance with
  | error e => exact .inl rfl
  | ok forest => exact .inr ⟨forest, rfl, rfl⟩

theorem addAssignment_cases (r : Registry) (row : AssignmentRow) :
    ¬(r.points.contains row.point = true ∧ r.isAssigned row.point = false ∧
      r.forest.contains row.pool = true) ∧ r.addAssignment row = r.skip ∨
    (r.points.contains row.point = true ∧ r.isAssigned row.point = false ∧
      r.forest.contains row.pool = true) ∧
      r.addAssignment row = { r with
        forest := r.forest.modify row.pool (fun p => { p with points := p.points ++ [row.point] })
        report := { r.report with assignments := r.report.assignments + 1 } } := by
  unfold addAssignment
  cases r.points.contains row.point <;> cases r.isAssigned row.point <;>
    cases r.forest.contains row.pool <;> simp

theorem addCandidate_cases {r s : Registry} {c : Candidate} (h : r.addCandidate c = .ok s) :
    (∀ p, r.forest.get? c.pool = some p → p.kind = c.kind → p.candidate? c.entry ≠ none) ∧
      s = r.skip ∨
    ∃ p, r.forest.get? c.pool = some p ∧ p.isLeaf = true ∧ p.kind = c.kind ∧
      p.candidate? c.entry = none ∧
      s = { r with
        forest := r.forest.modify c.pool (fun p => { p with candidates := p.candidates ++ [c] })
        report := { r.report with candidates := r.report.candidates + 1 } } := by
  unfold addCandidate at h
  cases hp : r.forest.get? c.pool with
  | none =>
      rw [hp] at h
      exact .inl ⟨nofun, (Except.ok.inj h).symm⟩
  | some p =>
      rw [hp] at h
      dsimp only at h
      cases hleaf : p.isLeaf with
      | false =>
          rw [hleaf, Bool.not_false, if_pos rfl] at h
          cases h
      | true =>
          rw [hleaf, Bool.not_true, if_neg Bool.false_ne_true] at h
          by_cases hsuits : p.kind = c.kind ∧ p.candidate? c.entry = none
          · rw [if_neg (by simp [hsuits])] at h
            exact .inr ⟨p, rfl, hleaf, hsuits.1, hsuits.2, (Except.ok.inj h).symm⟩
          · rw [if_pos] at h
            · refine .inl ⟨?_, (Except.ok.inj h).symm⟩
              rintro q hq hkind hnone
              obtain rfl := Option.some.inj hq
              exact hsuits ⟨hkind, hnone⟩
            · rw [not_and_or, ← ne_eq, ← ne_eq, Option.ne_none_iff_isSome] at hsuits
              simpa using hsuits

theorem addPatch_cases (r : Registry) (scope : PatchScope) (patch : Patch) :
    r.addPatch scope patch = r.skip ∨
    ∃ s, r.applyPatch? scope patch = some s ∧
      r.addPatch scope patch = { s with
        report := { s.report with patches := s.report.patches + 1 } } := by
  unfold addPatch
  cases hs : r.applyPatch? scope patch with
  | none => exact .inl rfl
  | some s => exact .inr ⟨s, rfl, rfl⟩

/-! ## Points -/

theorem addPoint_contains (r : Registry) (row : PointRow) (x : PointId) :
    (r.addPoint row).points.contains x = true ↔ r.points.contains x = true ∨ x = row.point := by
  obtain ⟨hknown, hskip⟩ | ⟨p, -, -, hadd⟩ := r.addPoint_cases row
  · rw [hskip]
    constructor
    · exact .inl
    · rintro (h | rfl)
      · exact h
      · exact hknown
  · rw [hadd, Table.contains]
    by_cases hx : x = row.point
    · simp [hx]
    · rw [Table.get?_insert_of_ne _ _ hx]
      simp [hx, Table.contains]

theorem Fresh.addPoint {r : Registry} (hr : r.Fresh) (row : PointRow) : (r.addPoint row).Fresh := by
  have hknown : ∀ {x}, r.points.contains x = true → (r.addPoint row).points.contains x = true :=
    fun h => (addPoint_contains r row _).mpr (.inl h)
  obtain ⟨-, hskip⟩ | ⟨vacant, hvacant, -, hadd⟩ := r.addPoint_cases row
  · rw [hskip]
    exact hr.skip
  · rw [hadd] at hknown ⊢
    have hpoint : ∀ {x p}, (r.points.insert row.point vacant).get? x = some p →
        p.id = x ∧ p.reservation = none ∧ p.entity = none ∧ p.remains = [] := by
      intro x p hp
      obtain ⟨rfl, rfl⟩ | ⟨-, hp⟩ := Table.get?_insert_cases hp
      · rw [hvacant]
        exact ⟨rfl, rfl, rfl, rfl⟩
      · exact ⟨hr.planned.points_named hp, hr.vacant hp⟩
    exact ⟨hr.planned.of_carries hr.planned.linked (fun hq => ⟨_, hq, Pool.Carries.refl _⟩) hknown
      (fun hp => (hpoint hp).1), hr.counts, fun hp => (hpoint hp).2, hr.live⟩

/-! ## Pools -/

theorem not_mem_of_not_isAssigned {r : Registry} {x : PointId} (h : ¬r.isAssigned x = true)
    {id : PoolId} {p : Pool} (hp : r.forest.get? id = some p) : x ∉ p.points := by
  intro hx
  refine h (List.any_eq_true.mpr ⟨p, Forest.mem_all.mpr ⟨id, hp⟩, ?_⟩)
  exact List.contains_iff_mem.mpr hx

/-- A pool that a row may put into a fresh registry. Its points are its former ones, or known points
of no pool, and the latter only if it is the pool that the row is about. -/
structure Grown (r : Registry) (target id : PoolId) (q : Pool) : Prop where
  named : q.id = id
  leaf : ∀ c ∈ q.candidates, q.isLeaf = true
  kind : ∀ c ∈ q.candidates, c.kind = q.kind
  assigned : ∀ x ∈ q.points, (∃ p, r.forest.get? id = some p ∧ x ∈ p.points) ∨
    id = target ∧ r.points.contains x = true ∧ ¬r.isAssigned x = true
  nodup : q.points.Nodup
  counts : q.ownCount = 0 ∧ q.totalCount = 0

theorem Fresh.grown {r : Registry} (hr : r.Fresh) (target : PoolId) {id : PoolId} {p : Pool}
    (hp : r.forest.get? id = some p) : r.Grown target id p where
  named := hr.planned.named hp
  leaf _ hc := hr.planned.leaf_of_candidate hp hc
  kind _ hc := hr.planned.kind_of_candidate hp hc
  assigned _ hx := .inl ⟨p, hp, hx⟩
  nodup := hr.planned.assigned_nodup hp
  counts := hr.counts hp

theorem Fresh.of_grown {r s : Registry} (hr : r.Fresh) (target : PoolId)
    (hlinked : s.forest.WellLinked)
    (h : ∀ {id q}, s.forest.get? id = some q → r.Grown target id q) (hpoints : s.points = r.points)
    (hlive : s.live = r.live) : s.Fresh := by
  refine ⟨⟨hlinked, fun hq => (h hq).named, fun hp => ?_, fun hq hc => (h hq).leaf _ hc,
    fun hq hc => (h hq).kind _ hc, fun hq hx => ?_, fun hq => (h hq).nodup,
    fun hq hq' hx hx' => ?_⟩, fun hq => (h hq).counts, fun hp => ?_, hlive.trans hr.live⟩
  · rw [hpoints] at hp
    exact hr.planned.points_named hp
  · rw [hpoints]
    rcases (h hq).assigned _ hx with ⟨p, hp, hx⟩ | ⟨-, hknown, -⟩
    · exact hr.planned.assigned_known hp hx
    · exact hknown
  · rcases (h hq).assigned _ hx with ⟨p, hp, hx⟩ | ⟨htarget, -, hfree⟩
    · rcases (h hq').assigned _ hx' with ⟨p', hp', hx'⟩ | ⟨-, -, hfree⟩
      · exact hr.planned.assigned_once hp hp' hx hx'
      · exact absurd hx (not_mem_of_not_isAssigned hfree hp)
    · rcases (h hq').assigned _ hx' with ⟨p', hp', hx'⟩ | ⟨htarget', -, -⟩
      · exact absurd hx' (not_mem_of_not_isAssigned hfree hp')
      · rw [htarget, htarget']
  · rw [hpoints] at hp
    exact hr.vacant hp

theorem Fresh.addTemplate {r : Registry} (hr : r.Fresh) (hbare : r.Bare) (row : TemplateRow) :
    (r.addTemplate row).Fresh ∧ (r.addTemplate row).Bare := by
  obtain hskip | ⟨template, forest, -, hforest, hadd⟩ := r.addTemplate_cases row
  · rw [hskip]
    exact ⟨hr.skip, hbare⟩
  · rw [hadd]
    have hlinked := hr.planned.linked.insert hforest rfl rfl
    obtain ⟨-, rfl⟩ := Forest.insert?_eq_some hforest
    -- a pool is the new one, which is empty, or it was there before
    have hpool : ∀ {id p}, Forest.get? ⟨r.forest.pools.insert (Pool.ofTemplate template).id
        (Pool.ofTemplate template)⟩ id = some p →
        (p = .ofTemplate template ∧ id = p.id) ∨ r.forest.get? id = some p := by
      intro id p hp
      obtain ⟨rfl, rfl⟩ | ⟨-, hp⟩ := Table.get?_insert_cases hp
      · exact .inl ⟨rfl, rfl⟩
      · exact .inr hp
    refine ⟨hr.of_grown row.pool hlinked ?_ rfl rfl, ?_⟩
    · intro id q hq
      rcases hpool hq with ⟨rfl, rfl⟩ | hp
      · exact ⟨rfl, nofun, nofun, nofun, .nil, rfl, rfl⟩
      · exact hr.grown _ hp
    · intro id q hq
      rcases hpool hq with ⟨rfl, rfl⟩ | hp
      · rfl
      · exact hbare _ _ hp

/-! ## Edges -/

/-- A pool after an edge was accepted, whether or not the edge is one of its own. -/
theorem link_carries {f g : Forest} {parent child : PoolId} {chance : Single}
    (h : f.Linked parent child chance g) (hbare : ∀ id p, f.get? id = some p → p.candidates = [])
    {id : PoolId} {q : Pool} (hq : g.get? id = some q) :
    ∃ p, f.get? id = some p ∧ p.Carries q ∧ q.ownCount = p.ownCount ∧ q.totalCount = p.totalCount ∧
      q.candidates = p.candidates := by
  rw [h.result, Forest.get?_modify, Forest.get?_modify] at hq
  cases hp : f.get? id with
  | none => simp [hp] at hq
  | some p =>
      refine ⟨p, rfl, ?_⟩
      have hnone := hbare _ _ hp
      rw [hp] at hq
      split at hq
      · rw [if_neg (fun hid => h.ne (hid.trans ‹child = id›.symm))] at hq
        obtain rfl := Option.some.inj hq
        exact ⟨⟨rfl, rfl, rfl, rfl, .inl hnone⟩, rfl, rfl, rfl⟩
      · split at hq
        · obtain rfl := Option.some.inj hq
          exact ⟨⟨rfl, rfl, rfl, rfl, .inl hnone⟩, rfl, rfl, rfl⟩
        · obtain rfl := Option.some.inj hq
          exact ⟨.refl _, rfl, rfl, rfl⟩

theorem Fresh.addEdge {r : Registry} (hr : r.Fresh) (hbare : r.Bare) (row : EdgeRow) :
    (r.addEdge row).Fresh ∧ (r.addEdge row).Bare := by
  obtain hskip | ⟨forest, hforest, hadd⟩ := r.addEdge_cases row
  · rw [hskip]
    exact ⟨hr.skip, hbare⟩
  · rw [hadd]
    have hlink := hr.planned.linked.linked hforest
    refine ⟨hr.of_carries (hr.planned.linked.link hforest) (fun hq => ?_) rfl rfl,
      fun _ _ hq => ?_⟩
    · obtain ⟨p, hp, hcarries, hown, htotal, -⟩ := link_carries hlink hbare hq
      exact ⟨p, hp, hcarries, hown, htotal⟩
    · obtain ⟨p, hp, -, -, -, hsame⟩ := link_carries hlink hbare hq
      rw [hsame]
      exact hbare _ _ hp

theorem Fresh.settleRoots {r : Registry} (hr : r.Fresh) (hbare : r.Bare) :
    Fresh { r with forest := r.forest.settleRoots } ∧
      Bare { r with forest := r.forest.settleRoots } := by
  have hpool : ∀ {id q}, r.forest.settleRoots.get? id = some q →
      ∃ p, r.forest.get? id = some p ∧ q = { p with root := r.forest.top id } := by
    intro id q hq
    rw [Forest.settleRoots, Forest.get?, Table.get?_map] at hq
    obtain ⟨p, hp, rfl⟩ := Option.map_eq_some_iff.mp hq
    exact ⟨p, hp, rfl⟩
  have hlinks : Forest.Alike Pool.links r.forest r.forest.settleRoots :=
    Forest.alike_map (fun _ _ _ => rfl)
  refine ⟨hr.of_carries (hr.planned.linked.of_alike hlinks) (fun hq => ?_) rfl rfl,
    fun _ _ hq => ?_⟩
  · obtain ⟨p, hp, rfl⟩ := hpool hq
    exact ⟨p, hp, ⟨rfl, rfl, rfl, rfl, .inr rfl⟩, rfl, rfl⟩
  · obtain ⟨p, hp, rfl⟩ := hpool hq
    exact (hbare _ _ hp :)

/-! ## Assignments and candidates -/

theorem Fresh.addAssignment {r : Registry} (hr : r.Fresh) (row : AssignmentRow) :
    (r.addAssignment row).Fresh := by
  obtain ⟨-, hskip⟩ | ⟨⟨hknown, hassigned, -⟩, hadd⟩ := r.addAssignment_cases row
  · rw [hskip]
    exact hr.skip
  · rw [hadd]
    have hfree : ¬r.isAssigned row.point = true := Bool.eq_false_iff.mp hassigned
    have hlinks : Forest.Alike Pool.links r.forest (r.forest.modify row.pool (fun p =>
        { p with points := p.points ++ [row.point] })) := Forest.alike_modify (fun _ _ => rfl)
    refine hr.of_grown row.pool (hr.planned.linked.of_alike hlinks) (fun hq => ?_) rfl rfl
    rcases Table.get?_modify_cases hq with ⟨rfl, p, hp, rfl⟩ | ⟨-, hp⟩
    · have hgrown := hr.grown row.pool hp
      refine ⟨hgrown.named, hgrown.leaf, hgrown.kind, ?_, ?_, hgrown.counts⟩
      · intro x hx
        rcases List.mem_append.mp hx with hx | hx
        · exact hgrown.assigned x hx
        · rw [List.mem_singleton.mp hx]
          exact .inr ⟨rfl, hknown, hfree⟩
      · refine List.nodup_append.mpr ⟨hgrown.nodup, List.nodup_singleton _, ?_⟩
        intro x hx y hy hxy
        rw [List.mem_singleton.mp hy] at hxy
        exact not_mem_of_not_isAssigned hfree hp (hxy ▸ hx)
    · exact hr.grown _ hp

theorem Fresh.addCandidate {r s : Registry} (hr : r.Fresh) {c : Candidate}
    (h : r.addCandidate c = .ok s) : s.Fresh := by
  obtain ⟨-, rfl⟩ | ⟨pool, hpool, hleaf, hkind, -, rfl⟩ := addCandidate_cases h
  · exact hr.skip
  · have hlinks : Forest.Alike Pool.links r.forest (r.forest.modify c.pool (fun p =>
        { p with candidates := p.candidates ++ [c] })) := Forest.alike_modify (fun _ _ => rfl)
    refine hr.of_grown c.pool (hr.planned.linked.of_alike hlinks) (fun hq => ?_) rfl rfl
    rcases Table.get?_modify_cases hq with ⟨rfl, p, hp, rfl⟩ | ⟨-, hp⟩
    · obtain rfl := Option.some.inj (hp.symm.trans hpool)
      have hgrown := hr.grown c.pool hp
      refine ⟨hgrown.named, fun _ _ => hleaf, ?_, hgrown.assigned, hgrown.nodup,
        hgrown.counts⟩
      intro d hd
      rcases List.mem_append.mp hd with hd | hd
      · exact hgrown.kind d hd
      · rw [List.mem_singleton.mp hd]
        exact hkind.symm
    · exact hr.grown _ hp

/-! ## Patches and handing down -/

theorem Fresh.applyPatch? {r s : Registry} (hr : r.Fresh) {scope : PatchScope} {patch : Patch}
    (h : r.applyPatch? scope patch = some s) : s.Fresh := by
  have hchange : Change (fun _ _ _ => True) r s := .patch scope patch h
  have hplan := hchange.samePlan
  have hcases := applyPatch?_cases h
  refine ⟨hplan.planned hr.planned, fun hq => ?_, fun hq => ?_, ?_⟩
  · have hcounts : Forest.Alike (fun p => (p.ownCount, p.totalCount)) r.forest s.forest := by
      rcases hcases with ⟨_, rfl⟩ | ⟨_, _, _, -, -, rfl⟩ | ⟨_, rfl⟩
      · exact .refl _ _
      · exact Forest.alike_modify (fun _ _ => rfl)
      · exact .refl _ _
    obtain ⟨p, hp, hsame⟩ := Forest.Alike.find (Table.Alike.symm hcounts) hq
    obtain ⟨hown, htotal⟩ := Prod.mk.inj hsame
    rw [← hown, ← htotal]
    exact hr.counts hp
  · have hpoints : r.points.Alike (fun p => (p.reservation, p.entity, p.remains)) s.points := by
      rcases hcases with ⟨_, rfl⟩ | ⟨_, _, _, -, -, rfl⟩ | ⟨_, rfl⟩
      · exact .refl _ _
      · exact .refl _ _
      · exact Table.alike_modify (fun _ _ => by cases patch <;> rfl)
    obtain ⟨p, hp, hsame⟩ := hpoints.symm.find hq
    simp only [Prod.mk.injEq] at hsame
    obtain ⟨hheld, hentity, hremains⟩ := hsame
    rw [← hheld, ← hentity, ← hremains]
    exact hr.vacant hp
  · rcases hcases with ⟨_, rfl⟩ | ⟨_, _, _, -, -, rfl⟩ | ⟨_, rfl⟩ <;> exact hr.live

theorem Fresh.addPatch {r : Registry} (hr : r.Fresh) (scope : PatchScope) (patch : Patch) :
    (r.addPatch scope patch).Fresh := by
  obtain hskip | ⟨s, h, hadd⟩ := r.addPatch_cases scope patch
  · rw [hskip]
    exact hr.skip
  · rw [hadd]
    have hs := hr.applyPatch? h
    exact hs.of_carries hs.planned.linked (fun hq => ⟨_, hq, .refl _, rfl, rfl⟩) rfl rfl

/-- What handing down leaves alone. -/
theorem alike_untemplated (f : Forest) :
    Forest.Alike (fun p => ((p.links, p.root), p.id, p.kind, p.points, p.candidates, p.ownCount,
      p.totalCount)) f f.trickle := by
  refine Forest.alike_trickle ?_ f
  intro parent cap pool
  obtain h | ⟨_, -, -, -, h⟩ := Forest.inheritFrom_cases parent cap pool <;> (rw [h]; rfl)

theorem Fresh.finish {r : Registry} (hr : r.Fresh) : r.finish.Fresh := by
  have halike := alike_untemplated r.forest
  have hlinks : Forest.Alike Pool.links r.forest r.forest.trickle :=
    halike.through (fun seen => seen.1.1)
  refine hr.of_carries (hr.planned.linked.of_alike hlinks) ?_ rfl rfl
  intro id q hq
  obtain ⟨p, hp, hsame⟩ := Forest.Alike.find (Table.Alike.symm halike) hq
  simp only [Prod.mk.injEq] at hsame
  obtain ⟨⟨hlink, -⟩, hid, hkind, hpoints, hcandidates, hown, htotal⟩ := hsame
  have hleaf : q.isLeaf = p.isLeaf := by
    rw [Pool.isLeaf, Pool.isLeaf, show q.children = p.children from congrArg Prod.snd hlink.symm]
  exact ⟨p, hp, ⟨hid.symm, hkind.symm, hpoints.symm, by rw [hcandidates], .inr hleaf⟩, hown.symm,
    htotal.symm⟩

/-! ## Loading -/

/-- What a fold over rows keeps, if every row keeps it. -/
theorem foldlM_keep {α : Type} {P : Registry → Prop} {f : Registry → α → Except PoolError Registry}
    (keep : ∀ {r s a}, P r → f r a = .ok s → P s) {l : List α} {r s : Registry} (hr : P r)
    (h : l.foldlM f r = .ok s) : P s := by
  induction l generalizing r with
  | nil =>
      obtain rfl := Except.ok.inj h
      exact hr
  | cons a l ih =>
      rw [List.foldlM_cons] at h
      cases hstep : f r a with
      | error e =>
          rw [hstep] at h
          cases h
      | ok t =>
          rw [hstep] at h
          exact ih (keep hr hstep) h

theorem foldl_addPoint_contains (rows : List PointRow) (r : Registry) (x : PointId) :
    (rows.foldl addPoint r).points.contains x = true ↔
      r.points.contains x = true ∨ x ∈ rows.map (·.point) := by
  induction rows generalizing r with
  | nil => simp
  | cons row rows ih =>
      simp [ih, addPoint_contains, or_assoc]

theorem addStructure_fresh {r : Registry} (hr : r.Fresh) (hbare : r.Bare) (rows : PoolRows) :
    (r.addStructure rows).Fresh ∧
      (r.addStructure rows).points = (rows.points.foldl addPoint r).points := by
  unfold addStructure
  have hpoints : (rows.points.foldl addPoint r).Fresh ∧ (rows.points.foldl addPoint r).Bare := by
    refine List.foldlRecOn rows.points addPoint (motive := fun s => s.Fresh ∧ s.Bare) ⟨hr, hbare⟩
      (fun s hs row _ => ⟨hs.1.addPoint row, ?_⟩)
    have hsame : (s.addPoint row).forest = s.forest := by
      obtain ⟨-, hadd⟩ | ⟨_, -, -, hadd⟩ := s.addPoint_cases row <;>
        exact (congrArg Registry.forest hadd :)
    rw [Bare, hsame]
    exact hs.2
  have hpools := List.foldlRecOn rows.templates addTemplate
    (motive := fun s => (s.Fresh ∧ s.Bare) ∧ s.points = (rows.points.foldl addPoint r).points)
    ⟨hpoints, rfl⟩ (fun s hs row _ => ⟨hs.1.1.addTemplate hs.1.2 row, by
      obtain hadd | ⟨_, _, -, -, hadd⟩ := s.addTemplate_cases row <;>
        exact (congrArg Registry.points hadd).trans hs.2⟩)
  have hedges := List.foldlRecOn rows.edges addEdge
    (motive := fun s => (s.Fresh ∧ s.Bare) ∧ s.points = (rows.points.foldl addPoint r).points)
    hpools (fun s hs row _ => ⟨hs.1.1.addEdge hs.1.2 row, by
      obtain hadd | ⟨_, -, hadd⟩ := s.addEdge_cases row <;>
        exact (congrArg Registry.points hadd).trans hs.2⟩)
  exact ⟨(hedges.1.1.settleRoots hedges.1.2).1, hedges.2⟩

/-- A fresh registry with the points that some rows name. -/
structure FreshWith (rows : PoolRows) (r : Registry) : Prop where
  fresh : r.Fresh
  known : ∀ x, r.points.contains x = true ↔ x ∈ rows.points.map (·.point)

theorem FreshWith.addCandidate {rows : PoolRows} {r s : Registry} (hr : FreshWith rows r)
    {c : Candidate} (h : r.addCandidate c = .ok s) : FreshWith rows s := by
  refine ⟨hr.fresh.addCandidate h, ?_⟩
  intro x
  rw [← hr.known x]
  obtain ⟨-, rfl⟩ | ⟨_, -, -, -, -, rfl⟩ := addCandidate_cases h <;> rfl

theorem FreshWith.addPatch {rows : PoolRows} {r : Registry} (hr : FreshWith rows r)
    (scope : PatchScope) (patch : Patch) : FreshWith rows (r.addPatch scope patch) := by
  refine ⟨hr.fresh.addPatch scope patch, ?_⟩
  intro x
  rw [← hr.known x]
  obtain hskip | ⟨s, hs, hadd⟩ := r.addPatch_cases scope patch
  · rw [hskip]
    rfl
  · have hchange : Change (fun _ _ _ => True) r s := .patch scope patch hs
    rw [hadd, hchange.samePlan.points.contains x]

section

variable {map : MapId} {rows : PoolRows} {host : Host} {config : RegistryConfig} {r : Registry}
  (h : load map rows host config = .ok r) {P : Registry → Prop}
  (linked : P ((empty map host config).addStructure rows))
  (assignment : ∀ {r} row, P r → P (r.addAssignment row))
  (candidate : ∀ {r s c}, P r → r.addCandidate c = .ok s → P s)
  (patch : ∀ {r} scope patch, P r → P (r.addPatch scope patch))

include h linked assignment candidate patch

/-- What holds once the pools are linked holds of the registry that is finished, if the other rows
keep it. -/
theorem load_finish : ∃ s, P s ∧ r = s.finish := by
  have hassigned := List.foldlRecOn rows.assignments addAssignment (motive := P) linked
    (fun _ hs row _ => assignment row hs)
  rw [load] at h
  cases hcandidates : (candidates rows).foldlM addCandidate
      (rows.assignments.foldl addAssignment ((empty map host config).addStructure rows)) with
  | error e =>
      rw [hcandidates] at h
      cases h
  | ok s =>
      rw [hcandidates] at h
      have hs : P s := foldlM_keep candidate hassigned hcandidates
      exact ⟨_, List.foldlRecOn (scopedPatches rows)
        (fun (r : Registry) row => r.addPatch row.1 row.2) (motive := P) hs
        (fun _ ht row _ => patch row.1 row.2 ht), (Except.ok.inj h).symm⟩

/-- The same for the loaded registry, if handing down keeps it as well. -/
theorem load_keep (finish : ∀ {r}, P r → P r.finish) : P r := by
  obtain ⟨s, hs, rfl⟩ := load_finish h linked assignment candidate patch
  exact finish hs

end

/-- A registry that loads is fresh, and its points are those that the rows name. -/
theorem load_fresh {map : MapId} {rows : PoolRows} {host : Host} {config : RegistryConfig}
    {r : Registry} (h : load map rows host config = .ok r) : FreshWith rows r := by
  refine load_keep h ?_ ?_ (fun hs h => hs.addCandidate h) (fun scope patch hs =>
    hs.addPatch scope patch) (fun hs => ⟨hs.fresh.finish, hs.known⟩)
  · obtain ⟨hfresh, hpoints⟩ := addStructure_fresh (fresh_empty map host config)
      (fun _ _ h => by cases h) rows
    refine ⟨hfresh, ?_⟩
    intro x
    rw [hpoints, foldl_addPoint_contains]
    exact or_iff_right (by simp [empty, Table.contains])
  · intro s row hs
    refine ⟨hs.fresh.addAssignment row, fun x => ?_⟩
    have hpoints : (s.addAssignment row).points = s.points := by
      obtain ⟨-, hadd⟩ | ⟨-, hadd⟩ := s.addAssignment_cases row <;>
        exact (congrArg Registry.points hadd :)
    rw [hpoints, hs.known x]

/-- The rows that come after the structure leave to a pool its links and its root, and whether it
is switched on or waits to be. -/
theorem load_structure {map : MapId} {rows : PoolRows} {host : Host} {config : RegistryConfig}
    {r : Registry} (h : load map rows host config = .ok r) :
    Forest.Alike (fun p => ((p.links, p.root), p.active, p.template.flags))
      ((empty map host config).addStructure rows).forest r.forest := by
  refine load_keep h (P := fun s => Forest.Alike _ _ s.forest) (.refl _ _) ?_ ?_ ?_ ?_
  · intro s row hs
    obtain ⟨-, hskip⟩ | ⟨-, hadd⟩ := s.addAssignment_cases row
    · rw [hskip]
      exact hs
    · rw [hadd]
      exact hs.trans (Forest.alike_modify (fun _ _ => rfl))
  · intro s t c hs hc
    obtain ⟨-, rfl⟩ | ⟨_, -, -, -, -, rfl⟩ := addCandidate_cases hc
    · exact hs
    · exact hs.trans (Forest.alike_modify (fun _ _ => rfl))
  · intro s scope patch hs
    obtain hskip | ⟨t, ht, hadd⟩ := s.addPatch_cases scope patch
    · rw [hskip]
      exact hs
    · rw [hadd]
      rcases applyPatch?_cases ht with ⟨_, rfl⟩ | ⟨_, _, _, -, -, rfl⟩ | ⟨_, rfl⟩
      · exact hs
      · exact hs.trans (Forest.alike_modify (fun _ _ => rfl))
      · exact hs
  · intro s hs
    refine hs.trans (Forest.alike_trickle ?_ s.forest)
    intro parent cap pool
    obtain h | ⟨_, -, -, -, h⟩ := Forest.inheritFrom_cases parent cap pool <;> (rw [h]; rfl)

/-! ## Beside the pools -/

/-- What a registry is given to start with and no row has a part in. -/
def surroundings (r : Registry) : MapId × RegistryConfig × Host × Schedule :=
  (r.map, r.config, r.host, r.timers)

theorem addStructure_surroundings (r : Registry) (rows : PoolRows) :
    (r.addStructure rows).surroundings = r.surroundings := by
  have hpoints := List.foldlRecOn rows.points addPoint
    (motive := fun s => s.surroundings = r.surroundings) rfl
    (fun s hs row _ => by
      obtain ⟨-, hadd⟩ | ⟨_, -, -, hadd⟩ := s.addPoint_cases row <;> rw [← hs, hadd] <;> rfl)
  have htemplates := List.foldlRecOn rows.templates addTemplate
    (motive := fun s => s.surroundings = r.surroundings) hpoints
    (fun s hs row _ => by
      obtain hadd | ⟨_, _, -, -, hadd⟩ := s.addTemplate_cases row <;> rw [← hs, hadd] <;> rfl)
  exact List.foldlRecOn rows.edges addEdge
    (motive := fun s => s.surroundings = r.surroundings) htemplates
    (fun s hs row _ => by
      obtain hadd | ⟨_, -, hadd⟩ := s.addEdge_cases row <;> rw [← hs, hadd] <;> rfl)

/-- Loading starts no timer, and asks nothing of the host. -/
theorem load_surroundings {map : MapId} {rows : PoolRows} {host : Host} {config : RegistryConfig}
    {r : Registry} (h : load map rows host config = .ok r) :
    r.surroundings = (map, config, host, .empty config.recheckSecs) := by
  refine load_keep h (P := fun s => s.surroundings = _) (addStructure_surroundings _ rows) ?_ ?_ ?_
    (fun hs => hs)
  · intro s row hs
    obtain ⟨-, hadd⟩ | ⟨-, hadd⟩ := s.addAssignment_cases row <;> rw [← hs, hadd] <;> rfl
  · intro s t c hs hc
    obtain ⟨-, rfl⟩ | ⟨_, -, -, -, -, rfl⟩ := addCandidate_cases hc <;> exact hs
  · intro s scope patch hs
    rw [← hs]
    obtain hskip | ⟨t, ht, hadd⟩ := s.addPatch_cases scope patch
    · rw [hskip]
      rfl
    · rw [hadd]
      rcases applyPatch?_cases ht with ⟨_, rfl⟩ | ⟨_, _, _, -, -, rfl⟩ | ⟨_, rfl⟩ <;> rfl

theorem load_map {map : MapId} {rows : PoolRows} {host : Host} {config : RegistryConfig}
    {r : Registry} (h : load map rows host config = .ok r) : r.map = map :=
  congrArg (·.1) (load_surroundings h)

theorem load_host {map : MapId} {rows : PoolRows} {host : Host} {config : RegistryConfig}
    {r : Registry} (h : load map rows host config = .ok r) : r.host = host :=
  congrArg (·.2.2.1) (load_surroundings h)

theorem load_timers {map : MapId} {rows : PoolRows} {host : Host} {config : RegistryConfig}
    {r : Registry} (h : load map rows host config = .ok r) : r.timers = .empty config.recheckSecs :=
  congrArg (·.2.2.2) (load_surroundings h)

end Registry

end SpawnForest
