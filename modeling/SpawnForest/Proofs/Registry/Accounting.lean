import Mathlib.Algebra.BigOperators.Group.List.Basic
import Mathlib.Algebra.Ring.Nat
import SpawnForest.Proofs.Registry.Loading

/-!
# What becomes of every row

Loading goes through the rows of eight sorts, and each row either shows in the
registry and is reported under its sort, or is skipped and reported as that. A
step that takes some rows adds as many to the report, and the numbers that it
reports stay those of the registry (`Takes`).

One mistake alone breaks the loading off: a candidate for a pool with children.
Which pools have children is settled with the edges, before any candidate is
read, so the first such candidate can be told from the linked pools and the
rows (`foldlM_addCandidate`). All other rows are accounted for
(`load_accounts`).
-/

namespace SpawnForest

/-! ## Adding values of a table up -/

namespace Table

variable {κ α β : Type} [Key κ]

theorem sum_modify {t : Table κ α} {key : κ} {a : α} (ha : t.get? key = some a) (f : α → α)
    (w : α → Nat) :
    ((t.modify key f).values.map w).sum + w a = (t.values.map w).sum + w (f a) := by
  obtain ⟨rest, hbefore, hafter⟩ := values_modify_perm ha f
  rw [(hbefore.map w).sum_nat, (hafter.map w).sum_nat, List.map_cons, List.map_cons, List.sum_cons,
    List.sum_cons]
  omega

theorem sum_insert {t : Table κ α} {key : κ} (hnew : t.get? key = none) (a : α) (w : α → Nat) :
    ((t.insert key a).values.map w).sum = (t.values.map w).sum + w a := by
  rw [values, values, (((insert_perm hnew a).map Prod.snd).map w).sum_nat, List.map_cons,
    List.map_cons, List.sum_cons, Nat.add_comm]

/-- What a view shows adds up alike. -/
theorem Alike.sum {view : α → β} {t u : Table κ α} (h : Alike view t u) (w : β → Nat) :
    (t.values.map (fun a => w (view a))).sum = (u.values.map (fun a => w (view a))).sum := by
  have hsum := congrArg (fun m => (m.values.map w).sum) h.map_eq
  simpa only [values, map, List.map_map, Function.comp_def] using hsum

end Table

/-! ## What there is to report -/

/-- What a forest has that a report counts: pools, pools with a parent, points assigned to pools,
and candidates. -/
@[ext]
structure Forest.Inventory where
  pools : Nat
  linked : Nat
  assigned : Nat
  candidates : Nat

namespace Forest

def inventory (f : Forest) : Inventory where
  pools := f.size
  linked := f.all.countP (fun p => p.parent.isSome)
  assigned := (f.all.map (fun p => p.points.length)).sum
  candidates := (f.all.map (fun p => p.candidates.length)).sum

/-- The part of a pool that is counted. -/
def counted (p : Pool) : Bool × Nat × Nat := (p.parent.isSome, p.points.length, p.candidates.length)

variable {f g : Forest}

theorem inventory_of_alike (h : Alike counted f g) : f.inventory = g.inventory := by
  have hlinked := Table.Alike.countP h (fun seen => seen.1)
  have hassigned := Table.Alike.sum h (fun seen => seen.2.1)
  have hcandidates := Table.Alike.sum h (fun seen => seen.2.2)
  rw [inventory, inventory, Inventory.mk.injEq]
  exact ⟨h.size, hlinked, hassigned, hcandidates⟩

theorem inventory_insert {pool : Pool} (h : f.insert? pool = some g) (hparent : pool.parent = none)
    (hpoints : pool.points = []) (hcandidates : pool.candidates = []) :
    g.inventory = { f.inventory with pools := f.inventory.pools + 1 } := by
  obtain ⟨hnew, rfl⟩ := insert?_eq_some h
  rw [inventory, Inventory.mk.injEq]
  refine ⟨Table.size_insert hnew pool, ?_, ?_, ?_⟩
  · rw [all, Table.countP_insert hnew, hparent]
    rfl
  · rw [all, Table.sum_insert hnew, hpoints]
    rfl
  · rw [all, Table.sum_insert hnew, hcandidates]
    rfl

/-- What a change of one pool does to the inventory. -/
theorem inventory_modify {id : PoolId} {p : Pool} (hp : f.get? id = some p) (change : Pool → Pool) :
    (f.modify id change).inventory.pools = f.inventory.pools ∧
      (f.modify id change).inventory.linked + p.parent.isSome.toNat
        = f.inventory.linked + (change p).parent.isSome.toNat ∧
      (f.modify id change).inventory.assigned + p.points.length
        = f.inventory.assigned + (change p).points.length ∧
      (f.modify id change).inventory.candidates + p.candidates.length
        = f.inventory.candidates + (change p).candidates.length := by
  exact ⟨Table.size_modify _ _ _, Table.countP_modify hp change _, Table.sum_modify hp change _,
    Table.sum_modify hp change _⟩

theorem inventory_link {parent child : PoolId} {chance : Single}
    (h : f.link parent child chance = .ok g) :
    g.inventory = { f.inventory with linked := f.inventory.linked + 1 } := by
  obtain ⟨pool, -, hpool, -, hfree, rfl⟩ := link_eq_ok h
  -- the parent gains a child, which is not counted; the child gains its parent
  have hparent : Alike counted f (f.modify parent (fun p =>
      { p with children := p.children ++ [child] })) := alike_modify (fun _ _ => rfl)
  obtain ⟨p, hp, hsame⟩ := hparent.find hpool
  obtain ⟨hpools, hlinked, hassigned, hcandidates⟩ := inventory_modify hp
    (fun c => { c with parent := some parent, chance := chance })
  obtain ⟨hlone, -⟩ := Prod.mk.inj hsame
  rw [hfree, Option.isSome_none] at hlone
  rw [hlone, Option.isSome_some, Bool.toNat_true, Bool.toNat_false] at hlinked
  rw [inventory_of_alike hparent]
  dsimp only at hassigned hcandidates
  ext <;> dsimp only <;> omega

/-- Whether a pool exists and has children. -/
def isGroup (f : Forest) (id : PoolId) : Bool := !(f.children id).isEmpty

theorem isGroup_of_get {id : PoolId} {p : Pool} (hp : f.get? id = some p) :
    f.isGroup id = !p.isLeaf := by
  rw [isGroup, children_of_get hp, Pool.isLeaf]

end Forest

namespace Registry

/-- How many rows a report speaks of, accepted or not. -/
def rowsTaken (r : Registry) : Nat :=
  r.report.templates + r.report.edges + r.report.points + r.report.assignments
    + r.report.candidates + r.report.patches + r.report.skipped

/-- What the report says that the forest has. -/
def reported (r : Registry) : Forest.Inventory :=
  ⟨r.report.templates, r.report.edges, r.report.assignments, r.report.candidates⟩

/-- The numbers reported are those of the registry. -/
structure Counted (r : Registry) : Prop where
  forest : r.reported = r.forest.inventory
  points : r.report.points = r.points.size

/-- A step that takes `n` rows: it reports as many, and goes on reporting what there is. -/
structure Takes (n : Nat) (r s : Registry) : Prop where
  rows : s.rowsTaken = r.rowsTaken + n
  counted : r.Counted → s.Counted

namespace Takes

variable {m n : Nat} {r s t : Registry}

theorem refl (r : Registry) : Takes 0 r r := ⟨rfl, id⟩

theorem trans (hrs : Takes m r s) (hst : Takes n s t) : Takes (m + n) r t :=
  ⟨by rw [hst.rows, hrs.rows, Nat.add_assoc], fun h => hst.counted (hrs.counted h)⟩

theorem foldl {α : Type} {f : Registry → α → Registry} (step : ∀ r a, Takes 1 r (f r a))
    (l : List α) (r : Registry) : Takes l.length r (l.foldl f r) := by
  induction l generalizing r with
  | nil => exact refl r
  | cons a l ih =>
      rw [List.foldl_cons, List.length_cons, Nat.add_comm]
      exact (step r a).trans (ih _)

theorem skip (r : Registry) : Takes 1 r r.skip := ⟨rfl, fun h => ⟨h.forest, h.points⟩⟩

/-- A change of the forest that its inventory does not show. -/
theorem of_alike {f : Forest} (h : Forest.Alike Forest.counted r.forest f) :
    Takes 0 r { r with forest := f } :=
  ⟨rfl, fun hr => ⟨hr.forest.trans (Forest.inventory_of_alike h), hr.points⟩⟩

end Takes

/-! ## One row -/

theorem takes_addPoint (r : Registry) (row : PointRow) : Takes 1 r (r.addPoint row) := by
  obtain ⟨-, hskip⟩ | ⟨p, -, hnew, hadd⟩ := r.addPoint_cases row
  · rw [hskip]
    exact .skip r
  · rw [hadd]
    refine ⟨by simp only [rowsTaken]; omega, fun h => ⟨h.forest, ?_⟩⟩
    show r.report.points + 1 = _
    rw [h.points, Table.size_insert hnew]

theorem takes_addTemplate (r : Registry) (row : TemplateRow) : Takes 1 r (r.addTemplate row) := by
  obtain hskip | ⟨template, forest, -, hinsert, hadd⟩ := r.addTemplate_cases row
  · rw [hskip]
    exact .skip r
  · rw [hadd]
    refine ⟨by simp only [rowsTaken]; omega, fun h => ⟨?_, h.points⟩⟩
    rw [Forest.inventory_insert hinsert rfl rfl rfl, ← h.forest]
    rfl

theorem takes_addEdge (r : Registry) (row : EdgeRow) : Takes 1 r (r.addEdge row) := by
  obtain hskip | ⟨forest, hlink, hadd⟩ := r.addEdge_cases row
  · rw [hskip]
    exact .skip r
  · rw [hadd]
    refine ⟨by simp only [rowsTaken]; omega, fun h => ⟨?_, h.points⟩⟩
    rw [Forest.inventory_link hlink, ← h.forest]
    rfl

theorem takes_addAssignment (r : Registry) (row : AssignmentRow) :
    Takes 1 r (r.addAssignment row) := by
  obtain ⟨-, hskip⟩ | ⟨⟨-, -, hpool⟩, hadd⟩ := r.addAssignment_cases row
  · rw [hskip]
    exact .skip r
  · rw [hadd]
    obtain ⟨p, hp⟩ := Forest.contains_iff.mp hpool
    refine ⟨by simp only [rowsTaken]; omega, fun h => ⟨?_, h.points⟩⟩
    obtain ⟨hpools, hlinked, hassigned, hcandidates⟩ := Forest.inventory_modify hp
      (fun p => { p with points := p.points ++ [row.point] })
    rw [List.length_append, List.length_singleton] at hassigned
    have hforest := h.forest
    rw [reported, Forest.Inventory.ext_iff] at hforest ⊢
    simp only at hforest hlinked hcandidates ⊢
    omega

/-- A candidate ends the loading if its pool has children, and is one row more if not. In either
case no link has changed. -/
theorem addCandidate_takes (r : Registry) (c : Candidate) :
    if r.forest.isGroup c.pool then r.addCandidate c = .error (.candidateOnGroup c.pool c.entry)
    else ∃ s, r.addCandidate c = .ok s ∧ Takes 1 r s ∧
      Forest.Alike Pool.links r.forest s.forest := by
  unfold addCandidate
  cases hp : r.forest.get? c.pool with
  | none =>
      have hlone : r.forest.isGroup c.pool = false := by
        rw [Forest.isGroup, Forest.children_eq, hp]
        rfl
      rw [hlone]
      exact ⟨r.skip, rfl, .skip r, .refl _ _⟩
  | some p =>
      rw [Forest.isGroup_of_get hp]
      dsimp only
      split
      · rfl
      · split
        · exact ⟨r.skip, rfl, .skip r, .refl _ _⟩
        · refine ⟨_, rfl, ⟨by simp only [rowsTaken]; omega, fun h => ⟨?_, h.points⟩⟩,
            Forest.alike_modify (fun _ _ => rfl)⟩
          obtain ⟨hpools, hlinked, hassigned, hcandidates⟩ := Forest.inventory_modify hp
            (fun p => { p with candidates := p.candidates ++ [c] })
          rw [List.length_append, List.length_singleton] at hcandidates
          have hforest := h.forest
          rw [reported, Forest.Inventory.ext_iff] at hforest ⊢
          simp only at hforest hlinked hassigned ⊢
          omega

theorem takes_addPatch (r : Registry) (scope : PatchScope) (patch : Patch) :
    Takes 1 r (r.addPatch scope patch) := by
  obtain hskip | ⟨s, h, hadd⟩ := r.addPatch_cases scope patch
  · rw [hskip]
    exact .skip r
  · rw [hadd]
    rcases applyPatch?_cases h with ⟨_, rfl⟩ | ⟨id, p, candidates, hp, hsame, rfl⟩ | ⟨x, rfl⟩
    · exact ⟨by simp only [rowsTaken]; omega, fun h => ⟨h.forest, h.points⟩⟩
    · refine ⟨by simp only [rowsTaken]; omega, fun h => ⟨?_, h.points⟩⟩
      refine h.forest.trans (Forest.inventory_of_alike (Forest.alike_modify (fun q hq => ?_)))
      obtain rfl := Option.some.inj (hp.symm.trans hq)
      have hlength := congrArg List.length hsame
      rw [List.length_map, List.length_map] at hlength
      simp only [Forest.counted, hlength]
    · refine ⟨by simp only [rowsTaken, modifyPoint]; omega, fun h => ⟨h.forest, ?_⟩⟩
      exact h.points.trans (Table.size_modify _ _ _).symm

/-! ## All rows -/

theorem takes_addStructure (r : Registry) (rows : PoolRows) :
    Takes (rows.points.length + rows.templates.length + rows.edges.length) r
      (r.addStructure rows) := by
  have hsettled : ∀ r : Registry, Takes 0 r { r with forest := r.forest.settleRoots } := fun r =>
    .of_alike (Forest.alike_map (fun _ _ _ => rfl))
  exact (((Takes.foldl takes_addPoint rows.points r).trans
    (Takes.foldl takes_addTemplate rows.templates _)).trans
      (Takes.foldl takes_addEdge rows.edges _)).trans (hsettled _)

theorem takes_finish (r : Registry) : Takes 0 r r.finish := by
  have halike : Forest.Alike Forest.counted r.forest r.forest.trickle :=
    (alike_untemplated r.forest).through (fun seen =>
      (seen.1.1.1.isSome, seen.2.2.2.1.length, seen.2.2.2.2.1.length))
  have htrickled := Takes.of_alike halike
  exact ⟨rfl, fun h => ⟨(htrickled.counted h).forest, (htrickled.counted h).points⟩⟩

/-- The candidates break off with the first one for a pool with children, and all are taken if
there is none. -/
theorem foldlM_addCandidate (l : List Candidate) (r : Registry) :
    match l.find? (fun c => r.forest.isGroup c.pool) with
    | some c => l.foldlM addCandidate r = .error (.candidateOnGroup c.pool c.entry)
    | none => ∃ s, l.foldlM addCandidate r = .ok s ∧ Takes l.length r s := by
  induction l generalizing r with
  | nil => exact ⟨r, rfl, .refl r⟩
  | cons c l ih =>
      have hcases := addCandidate_takes r c
      rw [List.find?_cons, List.foldlM_cons]
      cases hgroup : r.forest.isGroup c.pool with
      | true =>
          rw [hgroup, if_pos rfl] at hcases
          rw [hcases]
          rfl
      | false =>
          rw [hgroup, if_neg Bool.false_ne_true] at hcases
          obtain ⟨s, hs, htakes, hlinks⟩ := hcases
          have hgroups : (fun c : Candidate => s.forest.isGroup c.pool)
              = (fun c => r.forest.isGroup c.pool) :=
            funext (fun c => by rw [Forest.isGroup, Forest.isGroup, hlinks.children])
          have hrest := ih s
          rw [hgroups] at hrest
          rw [hs]
          dsimp only
          cases hfound : l.find? (fun c => r.forest.isGroup c.pool) with
          | some d =>
              rw [hfound] at hrest
              exact hrest
          | none =>
              rw [hfound] at hrest
              obtain ⟨t, ht, hmore⟩ := hrest
              refine ⟨t, ht, ?_⟩
              rw [List.length_cons, Nat.add_comm]
              exact htakes.trans hmore

theorem counted_empty (map : MapId) (host : Host) (config : RegistryConfig) :
    (empty map host config).Counted := ⟨rfl, rfl⟩

theorem length_candidates (rows : PoolRows) :
    (candidates rows).length = rows.creatures.length + rows.gameObjects.length := by
  rw [candidates, List.length_append, List.length_map, List.length_map]

theorem length_scopedPatches (rows : PoolRows) :
    (scopedPatches rows).length = rows.creaturePatches.length + rows.gameObjectPatches.length := by
  rw [scopedPatches, List.length_append, List.length_map, List.length_map]

/-- Which pools have children is not for assignments to say. -/
theorem isGroup_assignments (rows : List AssignmentRow) (r : Registry) (id : PoolId) :
    (rows.foldl addAssignment r).forest.isGroup id = r.forest.isGroup id := by
  have hlinks : Forest.Alike Pool.links r.forest (rows.foldl addAssignment r).forest := by
    refine List.foldlRecOn rows addAssignment
      (motive := fun s => Forest.Alike Pool.links r.forest s.forest) (.refl _ _)
      (fun s hs row _ => ?_)
    obtain ⟨-, hskip⟩ | ⟨-, hadd⟩ := s.addAssignment_cases row
    · rw [hskip]
      exact hs
    · rw [hadd]
      exact hs.trans (Forest.alike_modify (fun _ _ => rfl))
  rw [Forest.isGroup, Forest.isGroup, hlinks.children]

/-- Loading breaks off just if some candidate is for a pool that has children once all edges are
there, and names the first such candidate, creatures first. Otherwise there is a registry, every
row is reported once, and the numbers reported are those of its pools, points, edges, assignments
and candidates. -/
theorem load_accounts (map : MapId) (rows : PoolRows) (host : Host) (config : RegistryConfig) :
    match (candidates rows).find? (fun c =>
      ((empty map host config).addStructure rows).forest.isGroup c.pool) with
    | some c => load map rows host config = .error (.candidateOnGroup c.pool c.entry)
    | none => ∃ r, load map rows host config = .ok r ∧
        r.report.templates + r.report.edges + r.report.points + r.report.assignments
          + r.report.candidates + r.report.patches + r.report.skipped = rows.total ∧
        r.report.templates = r.forest.size ∧
        r.report.points = r.points.size ∧
        r.report.edges = r.forest.all.countP (fun p => p.parent.isSome) ∧
        r.report.assignments = (r.forest.all.map (fun p => p.points.length)).sum ∧
        r.report.candidates = (r.forest.all.map (fun p => p.candidates.length)).sum := by
  have hassigned := (takes_addStructure (empty map host config) rows).trans
    (Takes.foldl takes_addAssignment rows.assignments _)
  have hcandidates := foldlM_addCandidate (candidates rows)
    (rows.assignments.foldl addAssignment ((empty map host config).addStructure rows))
  simp only [isGroup_assignments] at hcandidates
  cases hfound : (candidates rows).find? (fun c =>
      ((empty map host config).addStructure rows).forest.isGroup c.pool) with
  | some c =>
      rw [hfound] at hcandidates
      rw [load, hcandidates]
      rfl
  | none =>
      rw [hfound] at hcandidates
      obtain ⟨s, hs, htakes⟩ := hcandidates
      have hpatched := Takes.foldl (fun (r : Registry) (row : PatchScope × Patch) =>
        takes_addPatch r row.1 row.2) (scopedPatches rows) s
      have hall := ((hassigned.trans htakes).trans hpatched).trans (takes_finish _)
      obtain ⟨hforest, hpoints⟩ := hall.counted (counted_empty map host config)
      refine ⟨_, by rw [load, hs]; rfl, ?_, congrArg (·.pools) hforest, hpoints,
        congrArg (·.linked) hforest, congrArg (·.assigned) hforest,
        congrArg (·.candidates) hforest⟩
      have hnothing : rowsTaken (empty map host config) = 0 := rfl
      have hrows := hall.rows
      rw [length_candidates, length_scopedPatches, hnothing] at hrows
      rw [PoolRows.total, ← rowsTaken, hrows]
      omega

end Registry

end SpawnForest
