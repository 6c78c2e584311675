import SpawnForest.Proofs.Forest.Hierarchy
import SpawnForest.Proofs.Registry.Dormancy
import SpawnForest.Proofs.Registry.Roots
import SpawnForest.Proofs.Registry.Supply

/-!
# What a loaded registry consists of

The rows of a map may repeat each other and name things that are not there, and
they come in any order. Which of them count is settled by one rule: the first
row of its kind that fits. So every part of a loaded registry can be told from
the rows by a search for the first one (`firstTemplate?`, `firstOwner?`,
`firstCandidate?`), whatever was skipped in between.

Each sort of rows is followed on its own, by induction over the rows that are
still to come: a look-up after them is the look-up before them, and if that
finds nothing, the first row that fits. The sorts read later leave alone what
the earlier ones have settled, but for the fields of a template that are handed
down. Those are filled where they were open (`Template.Completes`).
-/

namespace SpawnForest

/-! ## Fields that are handed down -/

/-- A value that stays as it was, unless it was open. Zero stands for an open one. -/
def Stays {α : Type} [OfNat α 0] (own value : α) : Prop := own ≠ 0 → value = own

namespace Stays

variable {α : Type} [OfNat α 0] {a b c : α}

theorem refl (a : α) : Stays a a := fun _ => rfl

theorem trans (hab : Stays a b) (hbc : Stays b c) : Stays a c := by
  intro ha
  have hb := hab ha
  rw [hbc (hb ▸ ha), hb]

end Stays

namespace Template

theorem stays_inheritWord (own parent : UInt32) : Stays own (inheritWord own parent) := by
  intro h
  rw [inheritWord, if_neg h]

/-- The fields of a template that are never handed down. -/
def fixed (t : Template) : MapId × PoolId × SpawnKind × UInt8 × Single × String × PoolFlags :=
  (t.map, t.pool, t.kind, t.movementType, t.spawnDist, t.description, t.flags)

/-- A template whose open fields may have been filled. Limits are open together, where there is no
maximum. -/
structure Completes (own t : Template) : Prop where
  fixed : t.fixed = own.fixed
  phaseMask : Stays own.phaseMask t.phaseMask
  spawnMask : Stays own.spawnMask t.spawnMask
  minSecs : Stays own.spawnTimes.minSecs t.spawnTimes.minSecs
  maxSecs : Stays own.spawnTimes.maxSecs t.spawnTimes.maxSecs
  fastSecs : Stays own.spawnTimes.fastSecs t.spawnTimes.fastSecs
  lootedSecs : Stays own.corpseTimes.lootedSecs t.corpseTimes.lootedSecs
  unlootedSecs : Stays own.corpseTimes.unlootedSecs t.corpseTimes.unlootedSecs
  maxLimit : Stays own.maxLimit t.maxLimit
  minLimit : own.maxLimit ≠ 0 → t.minLimit = own.minLimit

namespace Completes

variable {s t u : Template}

theorem refl (t : Template) : t.Completes t :=
  ⟨rfl, .refl _, .refl _, .refl _, .refl _, .refl _, .refl _, .refl _, .refl _, fun _ => rfl⟩

theorem trans (hst : s.Completes t) (htu : t.Completes u) : s.Completes u where
  fixed := htu.fixed.trans hst.fixed
  phaseMask := hst.phaseMask.trans htu.phaseMask
  spawnMask := hst.spawnMask.trans htu.spawnMask
  minSecs := hst.minSecs.trans htu.minSecs
  maxSecs := hst.maxSecs.trans htu.maxSecs
  fastSecs := hst.fastSecs.trans htu.fastSecs
  lootedSecs := hst.lootedSecs.trans htu.lootedSecs
  unlootedSecs := hst.unlootedSecs.trans htu.unlootedSecs
  maxLimit := hst.maxLimit.trans htu.maxLimit
  minLimit h := (htu.minLimit (hst.maxLimit h ▸ h)).trans (hst.minLimit h)

theorem inherit (own parent : Template) : own.Completes (own.inherit parent) where
  fixed := rfl
  phaseMask := stays_inheritWord _ _
  spawnMask h := if_neg h
  minSecs := stays_inheritWord _ _
  maxSecs := stays_inheritWord _ _
  fastSecs := stays_inheritWord _ _
  lootedSecs := stays_inheritWord _ _
  unlootedSecs := stays_inheritWord _ _
  maxLimit := .refl _
  minLimit _ := rfl

/-- Limits are set where there was no maximum. -/
theorem limits {t : Template} (h : t.maxLimit = 0) (least greatest : UInt32) :
    t.Completes { t with minLimit := least, maxLimit := greatest } :=
  ⟨rfl, .refl _, .refl _, .refl _, .refl _, .refl _, .refl _, .refl _, fun h' => absurd h h',
    fun h' => absurd h h'⟩

end Completes

end Template

namespace Forest

theorem completes_inheritFrom (parent : Template) (cap : Option UInt32) (p : Pool) :
    p.template.Completes (inheritFrom parent cap p).template := by
  obtain h | ⟨_, -, -, hmax, h⟩ := inheritFrom_cases parent cap p
  · rw [h]
    exact .inherit _ _
  · have hzero : (p.template.inherit parent).maxLimit = 0 := hmax
    rw [h]
    exact (Template.Completes.inherit _ _).trans (.limits hzero _ _)

/-- Handing down fills open fields and does nothing else to a template. -/
theorem completes_trickle (f : Forest) {id : PoolId} {q : Pool} (hq : f.trickle.get? id = some q) :
    ∃ p, f.get? id = some p ∧ p.template.Completes q.template := by
  unfold trickle at hq
  generalize f.roots.flatMap (fun root => f.subtree root.id) = ids at hq
  induction ids generalizing f with
  | nil => exact ⟨q, hq, .refl _⟩
  | cons next ids ih =>
      obtain ⟨p, hp, hcompletes⟩ := ih (f.settle next) hq
      unfold settle at hp
      split at hp
      · exact ⟨p, hp, hcompletes⟩
      · rcases Table.get?_modify_cases hp with ⟨rfl, own, hown, rfl⟩ | ⟨-, hown⟩
        · exact ⟨own, hown, (completes_inheritFrom _ _ _).trans hcompletes⟩
        · exact ⟨p, hown, hcompletes⟩

end Forest

theorem Forest.top_mem_path (f : Forest) (id : PoolId) : f.top id ∈ id :: f.ancestors id := by
  rw [Forest.top]
  cases hlast : (f.ancestors id).getLast? with
  | none => exact List.mem_cons_self
  | some top => exact List.mem_cons_of_mem _ (List.mem_of_getLast? hlast)

/-! ## The first row that fits -/

/-- The template of the first row of a pool with a known type code. -/
def firstTemplate? (map : MapId) (rows : List TemplateRow) (id : PoolId) : Option Template :=
  rows.findSome? (fun row => if row.pool = id then row.template? map else none)

/-- The pool of the first row that gives a point to an existing pool. -/
def firstOwner? (f : Forest) (rows : List AssignmentRow) (x : PointId) : Option PoolId :=
  (rows.find? (fun row => row.point == x && f.contains row.pool)).map (·.pool)

/-- The first candidate of a kind for a pool and an entry. -/
def firstCandidate? (l : List Candidate) (id : PoolId) (kind : SpawnKind) (entry : UInt32) :
    Option Candidate :=
  l.find? (fun c => c.pool == id && c.kind == kind && c.entry == entry)

namespace Registry

variable {map : MapId} {rows : PoolRows} {host : Host} {config : RegistryConfig} {r s : Registry}

/-! ### Templates -/

theorem addTemplate_map (r : Registry) (row : TemplateRow) : (r.addTemplate row).map = r.map := by
  obtain hadd | ⟨_, _, -, -, hadd⟩ := r.addTemplate_cases row <;> exact (congrArg (·.map) hadd :)

theorem get?_addTemplate (r : Registry) (row : TemplateRow) (id : PoolId) :
    (r.addTemplate row).forest.get? id = (r.forest.get? id).or
      ((if row.pool = id then row.template? r.map else none).map Pool.ofTemplate) := by
  unfold addTemplate
  cases htemplate : row.template? r.map with
  | none => simp [skip]
  | some t =>
      have hid : (Pool.ofTemplate t).id = row.pool := by
        obtain ⟨kind, -, rfl⟩ := Option.map_eq_some_iff.mp htemplate
        rfl
      rw [Option.bind_some]
      cases hinsert : r.forest.insert? (.ofTemplate t) with
      | none =>
          -- the pool is there already, so the row adds nothing to what is found
          have hknown : r.forest.contains row.pool = true := by
            rw [← hid]
            by_contra hnew
            rw [Forest.insert?, if_neg hnew] at hinsert
            cases hinsert
          obtain ⟨p, hp⟩ := Forest.contains_iff.mp hknown
          by_cases hrow : row.pool = id
          · subst hrow
            simp [skip, hp]
          · simp [skip, hrow]
      | some forest =>
          obtain ⟨hnew, rfl⟩ := Forest.insert?_eq_some hinsert
          show Forest.get? ⟨r.forest.pools.insert (Pool.ofTemplate t).id (.ofTemplate t)⟩ id = _
          rw [Forest.get?_insert]
          by_cases hrow : row.pool = id
          · subst hrow
            rw [hid] at hnew ⊢
            simp [hnew]
          · rw [if_neg (fun same => hrow (hid ▸ same.symm)), if_neg hrow]
            simp

/-- The first row of a pool puts it into the forest, and the later ones change nothing. -/
theorem get?_foldl_addTemplate (rows : List TemplateRow) (r : Registry) (id : PoolId) :
    (rows.foldl addTemplate r).forest.get? id =
      (r.forest.get? id).or ((firstTemplate? r.map rows id).map Pool.ofTemplate) := by
  induction rows generalizing r with
  | nil => simp [firstTemplate?]
  | cons row rows ih =>
      rw [List.foldl_cons, ih, get?_addTemplate, addTemplate_map, Option.or_assoc]
      congr 1
      rw [firstTemplate?, firstTemplate?, List.findSome?_cons]
      cases (if row.pool = id then row.template? r.map else none) <;> rfl

/-- A pool but for its links. -/
def unlinked (p : Pool) : Pool :=
  { p with parent := none, root := p.id, children := [], chance := .zero }

/-- Once the edges are there, each pool is the one of its first row, but for its links. -/
theorem addStructure_pools (map : MapId) (rows : PoolRows) (host : Host) (config : RegistryConfig)
    (id : PoolId) :
    (((empty map host config).addStructure rows).forest.get? id).map unlinked
      = (firstTemplate? map rows.templates id).map Pool.ofTemplate := by
  have hpoints : (rows.points.foldl addPoint (empty map host config)).map = map ∧
      (rows.points.foldl addPoint (empty map host config)).forest = .empty := by
    refine List.foldlRecOn rows.points addPoint (motive := fun s => s.map = map ∧ s.forest = .empty)
      (b := empty map host config) ⟨rfl, rfl⟩ (fun s hs row _ => ?_)
    obtain ⟨-, hadd⟩ | ⟨_, -, -, hadd⟩ := s.addPoint_cases row <;> exact hadd ▸ hs
  generalize hstart : rows.points.foldl addPoint (empty map host config) = start at hpoints
  have hedges : Forest.Alike unlinked (rows.templates.foldl addTemplate start).forest
      (rows.edges.foldl addEdge (rows.templates.foldl addTemplate start)).forest := by
    refine List.foldlRecOn rows.edges addEdge (b := rows.templates.foldl addTemplate start)
      (motive := fun s => Forest.Alike unlinked (rows.templates.foldl addTemplate start).forest
        s.forest) (.refl _ _) (fun s hs row _ => ?_)
    obtain hskip | ⟨forest, hlink, hadd⟩ := s.addEdge_cases row
    · rw [hskip]
      exact hs
    · rw [hadd]
      exact hs.trans (Forest.alike_link (fun _ _ => rfl) (fun _ _ _ => rfl) hlink)
  have hsettled : Forest.Alike unlinked (rows.templates.foldl addTemplate start).forest
      ((empty map host config).addStructure rows).forest := by
    unfold addStructure
    rw [hstart]
    exact hedges.trans (Forest.alike_map (fun _ _ _ => rfl))
  rw [← hsettled.get? id, get?_foldl_addTemplate, hpoints.1, hpoints.2]
  show (Option.or none _).map unlinked = _
  rw [Option.none_or, Option.map_map]
  rfl

/-! ### Assignments -/

theorem isAssigned_iff {x : PointId} :
    r.isAssigned x = true ↔ ∃ id, x ∈ r.forest.assigned id := by
  simp only [isAssigned, List.any_eq_true, List.contains_iff_mem, Forest.mem_all,
    Forest.mem_assigned]
  exact ⟨fun ⟨p, ⟨id, hp⟩, hx⟩ => ⟨id, p, hp, hx⟩, fun ⟨id, p, hp, hx⟩ => ⟨p, ⟨id, hp⟩, hx⟩⟩

/-- What assignments leave alone. -/
theorem alike_addAssignment (r : Registry) (row : AssignmentRow) :
    Forest.Alike (fun p => { p with points := [] }) r.forest (r.addAssignment row).forest ∧
      (r.addAssignment row).points = r.points := by
  obtain ⟨-, hskip⟩ | ⟨-, hadd⟩ := r.addAssignment_cases row
  · rw [hskip]
    exact ⟨.refl _ _, rfl⟩
  · rw [hadd]
    exact ⟨Forest.alike_modify (fun _ _ => rfl), rfl⟩

/-- A row gives its point to its pool, if both are there and the point is nobody's yet. -/
theorem mem_assigned_addAssignment (r : Registry) (row : AssignmentRow) (id : PoolId)
    (x : PointId) :
    x ∈ (r.addAssignment row).forest.assigned id ↔ x ∈ r.forest.assigned id ∨
      (r.isAssigned x = false ∧ r.points.contains x = true) ∧
        (row.point = x ∧ r.forest.contains row.pool = true) ∧ row.pool = id := by
  obtain ⟨hrefused, hskip⟩ | ⟨⟨hknown, hfree, hpool⟩, hadd⟩ := r.addAssignment_cases row
  · rw [hskip]
    refine (or_iff_left ?_).symm
    rintro ⟨⟨hfree, hknown⟩, ⟨rfl, hpool⟩, -⟩
    exact hrefused ⟨hknown, hfree, hpool⟩
  · rw [hadd]
    obtain ⟨p, hp⟩ := Forest.contains_iff.mp hpool
    by_cases hid : row.pool = id
    · subst hid
      have hgrown : (r.forest.modify row.pool (fun p =>
          { p with points := p.points ++ [row.point] })).get? row.pool = _ :=
        Table.get?_modify_self hp
      rw [Forest.assigned_of_get hgrown, Forest.assigned_of_get hp, List.mem_append,
        List.mem_singleton]
      constructor
      · rintro (hx | rfl)
        · exact .inl hx
        · exact .inr ⟨⟨hfree, hknown⟩, ⟨rfl, hpool⟩, rfl⟩
      · rintro (hx | ⟨-, ⟨rfl, -⟩, -⟩)
        · exact .inl hx
        · exact .inr rfl
    · have hother : (r.forest.modify row.pool (fun p =>
          { p with points := p.points ++ [row.point] })).get? id = r.forest.get? id :=
        Table.get?_modify_of_ne (fun same => hid same.symm)
      simp only [Forest.assigned, hother, hid, and_false, or_false]

/-- A point goes to the first existing pool that a row gives it to, unless it has one already. -/
theorem mem_assigned_foldl (rows : List AssignmentRow) (r : Registry) (id : PoolId) (x : PointId) :
    x ∈ (rows.foldl addAssignment r).forest.assigned id ↔ x ∈ r.forest.assigned id ∨
      (r.isAssigned x = false ∧ r.points.contains x = true) ∧
        firstOwner? r.forest rows x = some id := by
  induction rows generalizing r with
  | nil => simp [firstOwner?]
  | cons row rows ih =>
      obtain ⟨halike, hpoints⟩ := alike_addAssignment r row
      have hcontains : (r.addAssignment row).forest.contains = r.forest.contains :=
        funext (fun id => (halike.contains id).symm)
      have howner : firstOwner? (r.addAssignment row).forest rows x
          = firstOwner? r.forest rows x := by
        rw [firstOwner?, firstOwner?, hcontains]
      have hassigned : (r.addAssignment row).isAssigned x = true ↔ r.isAssigned x = true ∨
          (r.isAssigned x = false ∧ r.points.contains x = true) ∧
            row.point = x ∧ r.forest.contains row.pool = true := by
        simp only [isAssigned_iff, mem_assigned_addAssignment, exists_or]
        simp
      rw [List.foldl_cons, ih, mem_assigned_addAssignment, hpoints, howner, firstOwner?,
        firstOwner?, List.find?_cons]
      cases hfits : row.point == x && r.forest.contains row.pool with
      | true =>
          -- from now on the point has a pool, and no later row matters
          rw [Bool.and_eq_true, beq_iff_eq] at hfits
          have hlater :
              ¬((r.addAssignment row).isAssigned x = false ∧ r.points.contains x = true) := by
            rintro ⟨hfree, hknown⟩
            have hbefore : r.isAssigned x = false := by
              refine Bool.eq_false_iff.mpr (fun h => ?_)
              rw [hassigned.mpr (.inl h)] at hfree
              cases hfree
            rw [hassigned.mpr (.inr ⟨⟨hbefore, hknown⟩, hfits⟩)] at hfree
            cases hfree
          rw [or_iff_left (fun h => hlater h.1)]
          simp [hfits]
      | false =>
          have hmisses : ¬(row.point = x ∧ r.forest.contains row.pool = true) := by
            rintro ⟨hpoint, hpool⟩
            rw [hpool, beq_iff_eq.mpr hpoint] at hfits
            cases hfits
          have hsame : (r.addAssignment row).isAssigned x = r.isAssigned x :=
            Bool.eq_iff_iff.mpr (hassigned.trans (or_iff_left (fun h => hmisses h.2)))
          simp only [hsame, hmisses, false_and, and_false, or_false]

/-! ### Candidates -/

/-- What candidates leave alone. -/
theorem alike_addCandidate {c : Candidate} (h : r.addCandidate c = .ok s) :
    Forest.Alike (fun p => { p with candidates := [] }) r.forest s.forest ∧
      s.points = r.points := by
  obtain ⟨-, rfl⟩ | ⟨_, -, -, -, -, rfl⟩ := addCandidate_cases h
  · exact ⟨.refl _ _, rfl⟩
  · exact ⟨Forest.alike_modify (fun _ _ => rfl), rfl⟩

/-- What candidates of some rows do to a pool: it takes those of its kind for its number, one for
each entry that it does not have yet. -/
structure Fills (l : List Candidate) (id : PoolId) (p q : Pool) : Prop where
  rest : { q with candidates := [] } = { p with candidates := [] }
  found : ∀ entry, q.candidate? entry = (p.candidate? entry).or (firstCandidate? l id p.kind entry)
  nodup : (p.candidates.map (·.entry)).Nodup → (q.candidates.map (·.entry)).Nodup

theorem Fills.kind {l : List Candidate} {id : PoolId} {p q : Pool} (h : Fills l id p q) :
    q.kind = p.kind :=
  (congrArg Pool.kind h.rest :)

theorem Fills.trans {l m : List Candidate} {id : PoolId} {p q t : Pool} (hpq : Fills l id p q)
    (hqt : Fills m id q t) : Fills (l ++ m) id p t where
  rest := hqt.rest.trans hpq.rest
  found entry := by
    rw [hqt.found, hpq.found, hpq.kind, Option.or_assoc, firstCandidate?, firstCandidate?,
      firstCandidate?, List.find?_append]
  nodup h := hqt.nodup (hpq.nodup h)

theorem fills_of_none {c : Candidate} {id : PoolId} {p : Pool}
    (h : ∀ entry, p.candidate? entry = none → firstCandidate? [c] id p.kind entry = none) :
    Fills [c] id p p where
  rest := rfl
  found entry := by
    cases hfound : p.candidate? entry with
    | none => rw [h entry hfound, Option.or_none]
    | some d => rfl
  nodup h := h

theorem firstCandidate?_singleton (c : Candidate) (id : PoolId) (kind : SpawnKind)
    (entry : UInt32) :
    firstCandidate? [c] id kind entry =
      if c.pool = id ∧ c.kind = kind ∧ c.entry = entry then some c else none := by
  rw [firstCandidate?, List.find?_singleton]
  simp [and_assoc]

/-- A pool after one more candidate, which may have been for another one. -/
theorem fills_addCandidate {c : Candidate} (h : r.addCandidate c = .ok s) {id : PoolId} {q : Pool}
    (hq : s.forest.get? id = some q) : ∃ p, r.forest.get? id = some p ∧ Fills [c] id p q := by
  obtain ⟨hrefused, rfl⟩ | ⟨pool, hpool, -, hkind, hnew, rfl⟩ := addCandidate_cases h
  · refine ⟨q, hq, fills_of_none (fun entry hnone => ?_)⟩
    rw [firstCandidate?_singleton, if_neg]
    rintro ⟨rfl, hkind, rfl⟩
    exact hrefused q hq hkind.symm hnone
  · rcases Table.get?_modify_cases hq with ⟨rfl, p, hp, rfl⟩ | ⟨hne, hp⟩
    · obtain rfl := Option.some.inj (hpool.symm.trans hp)
      refine ⟨_, hp, rfl, fun entry => ?_, fun hnodup => ?_⟩
      · rw [firstCandidate?_singleton, Pool.candidate?, List.find?_append, List.find?_singleton]
        simp only [hkind, true_and, beq_iff_eq]
        rfl
      · rw [List.map_append, List.nodup_append]
        refine ⟨hnodup, List.nodup_singleton _, ?_⟩
        intro entry hentry other hother same
        rw [List.map_singleton, List.mem_singleton] at hother
        obtain ⟨d, hd, rfl⟩ := List.mem_map.mp hentry
        refine List.find?_eq_none.mp hnew d hd ?_
        rw [beq_iff_eq, same, hother]
    · refine ⟨q, hp, fills_of_none (fun entry _ => ?_)⟩
      rw [firstCandidate?_singleton, if_neg (fun h => hne h.1.symm)]

theorem fills_foldlM {l : List Candidate} (h : l.foldlM addCandidate r = .ok s) {id : PoolId}
    {q : Pool} (hq : s.forest.get? id = some q) :
    ∃ p, r.forest.get? id = some p ∧ Fills l id p q := by
  induction l generalizing r with
  | nil =>
      obtain rfl := Except.ok.inj h
      exact ⟨q, hq, rfl, fun _ => (Option.or_none).symm, fun h => h⟩
  | cons c l ih =>
      rw [List.foldlM_cons] at h
      cases hstep : r.addCandidate c with
      | error e =>
          rw [hstep] at h
          cases h
      | ok t =>
          rw [hstep] at h
          obtain ⟨p, hp, hfills⟩ := ih h
          obtain ⟨o, ho, hfirst⟩ := fills_addCandidate hstep hp
          exact ⟨o, ho, hfirst.trans hfills⟩

/-- Candidates come from the rows without a patch. -/
theorem unpatched_of_mem_candidates {c : Candidate} (h : c ∈ candidates rows) :
    c.unpatched = c := by
  rcases List.mem_append.mp h with h | h
  · obtain ⟨row, -, rfl⟩ := List.mem_map.mp h
    rfl
  · obtain ⟨row, -, rfl⟩ := List.mem_map.mp h
    rfl

/-- A pool finds the candidate of an entry wherever its candidates are told apart by it, patched or
not. -/
theorem candidate?_map_unpatched (p : Pool) (entry : UInt32) :
    (p.candidate? entry).map Candidate.unpatched
      = (p.candidates.map Candidate.unpatched).find? (fun c => c.entry == entry) := by
  rw [List.find?_map]
  rfl

/-! ### What comes after -/

/-- A pool without the patches of its candidates. -/
def unpatched (p : Pool) : Pool :=
  { p with candidates := p.candidates.map Candidate.unpatched }

/-- The part of a pool that patches and handing down leave alone. -/
def assorted (p : Pool) : SpawnKind × List PointId × List Candidate :=
  (p.kind, p.points, p.candidates.map Candidate.unpatched)

theorem alike_addPatch (r : Registry) (scope : PatchScope) (patch : Patch) :
    Forest.Alike unpatched r.forest (r.addPatch scope patch).forest := by
  obtain hskip | ⟨s, h, hadd⟩ := r.addPatch_cases scope patch
  · rw [hskip]
    exact .refl _ _
  · rw [hadd]
    rcases applyPatch?_cases h with ⟨_, rfl⟩ | ⟨_, p, candidates, hp, hsame, rfl⟩ | ⟨_, rfl⟩
    · exact .refl _ _
    · refine Forest.alike_modify (fun q hq => ?_)
      obtain rfl := Option.some.inj (hp.symm.trans hq)
      simp only [unpatched, hsame]
    · exact .refl _ _

/-- A registry that loads was linked, given its assignments and its candidates, and left as
assorted as it was then. -/
theorem load_stages (h : load map rows host config = .ok r) :
    ∃ t, (candidates rows).foldlM addCandidate (rows.assignments.foldl addAssignment
        ((empty map host config).addStructure rows)) = .ok t ∧
      Forest.Alike assorted t.forest r.forest := by
  rw [load] at h
  cases hcandidates : (candidates rows).foldlM addCandidate
      (rows.assignments.foldl addAssignment ((empty map host config).addStructure rows)) with
  | error e =>
      rw [hcandidates] at h
      cases h
  | ok t =>
      rw [hcandidates] at h
      obtain rfl := Except.ok.inj h
      refine ⟨t, rfl, ?_⟩
      have hpatched := List.foldlRecOn (scopedPatches rows)
        (fun (r : Registry) row => r.addPatch row.1 row.2)
        (motive := fun (s : Registry) => Forest.Alike assorted t.forest s.forest) (.refl _ _)
        (fun s hs row _ => Table.Alike.trans hs ((alike_addPatch s row.1 row.2).through
          (fun p => (p.kind, p.points, p.candidates))))
      exact hpatched.trans ((alike_untemplated _).through (fun seen =>
        (seen.2.2.1, seen.2.2.2.1, seen.2.2.2.2.1.map Candidate.unpatched)))

/-- Once the edges are there, no pool has a point or a candidate. -/
theorem blank_addStructure {p : Pool} {id : PoolId}
    (hp : ((empty map host config).addStructure rows).forest.get? id = some p) :
    p.points = [] ∧ p.candidates = [] := by
  have hpools := addStructure_pools map rows host config id
  rw [hp, Option.map_some] at hpools
  obtain ⟨own, -, hown⟩ := Option.map_eq_some_iff.mp hpools.symm
  exact ⟨(congrArg Pool.points hown :).symm, (congrArg Pool.candidates hown :).symm⟩

theorem alike_assignments (l : List AssignmentRow) (r : Registry) :
    Forest.Alike (fun p => { p with points := [] }) r.forest (l.foldl addAssignment r).forest := by
  induction l generalizing r with
  | nil => exact .refl _ _
  | cons row l ih => exact Table.Alike.trans (alike_addAssignment r row).1 (ih _)

/-- How a loaded pool came by what it has: it had its points before it took its candidates, and it
is left as assorted as it was then. -/
theorem load_pool (h : load map rows host config = .ok r) {id : PoolId} {q : Pool}
    (hq : r.forest.get? id = some q) :
    ∃ o p, (rows.assignments.foldl addAssignment
        ((empty map host config).addStructure rows)).forest.get? id = some o ∧
      o.candidates = [] ∧ Fills (candidates rows) id o p ∧ assorted q = assorted p := by
  obtain ⟨t, ht, hlater⟩ := load_stages h
  obtain ⟨p, hp, hassorted⟩ := Forest.Alike.find (Table.Alike.symm hlater) hq
  obtain ⟨o, ho, hfills⟩ := fills_foldlM ht hp
  obtain ⟨b, hb, hsame⟩ := Forest.Alike.find (Table.Alike.symm (alike_assignments _ _)) ho
  refine ⟨o, p, ho, ?_, hfills, hassorted.symm⟩
  rw [← (blank_addStructure hb).2]
  exact (congrArg Pool.candidates hsame :).symm

theorem load_points (h : load map rows host config = .ok r) {id : PoolId} {q : Pool}
    (hq : r.forest.get? id = some q) (x : PointId) :
    q.points.count x =
      if r.points.contains x = true ∧ firstOwner? r.forest rows.assignments x = some id then 1
      else 0 := by
  have hloaded := load_fresh h
  obtain ⟨o, p, ho, -, hfills, hassorted⟩ := load_pool h hq
  have hpoints : q.points = o.points := calc
    q.points = p.points := (congrArg (·.2.1) hassorted :)
    _ = o.points := (congrArg Pool.points hfills.rest :)
  have hknown : ((empty map host config).addStructure rows).points.contains x
      = r.points.contains x := by
    rw [Bool.eq_iff_iff, hloaded.known, (addStructure_fresh (fresh_empty map host config)
      (fun _ _ h => by cases h) rows).2, foldl_addPoint_contains]
    exact or_iff_right (by simp [empty, Table.contains])
  have howner : firstOwner? ((empty map host config).addStructure rows).forest rows.assignments x
      = firstOwner? r.forest rows.assignments x := by
    rw [firstOwner?, firstOwner?, funext (Forest.Alike.contains (load_structure h))]
  have hnobody : ∀ id, x ∉ ((empty map host config).addStructure rows).forest.assigned id := by
    intro id hx
    obtain ⟨b, hb, hx⟩ := Forest.mem_assigned.mp hx
    rw [(blank_addStructure hb).1] at hx
    cases hx
  have hfree : ((empty map host config).addStructure rows).isAssigned x = false :=
    Bool.eq_false_iff.mpr (fun hx => by
      obtain ⟨id, hx⟩ := isAssigned_iff.mp hx
      exact hnobody id hx)
  have hmem := mem_assigned_foldl rows.assignments ((empty map host config).addStructure rows) id x
  rw [Forest.assigned_of_get ho, or_iff_right (hnobody id), hfree, hknown, howner] at hmem
  rw [(hloaded.fresh.planned.assigned_nodup hq).count, hpoints]
  simp only [hmem, true_and]

theorem load_entries (h : load map rows host config = .ok r) {id : PoolId} {q : Pool}
    (hq : r.forest.get? id = some q) : (q.candidates.map (·.entry)).Nodup := by
  obtain ⟨o, p, -, hnone, hfills, hassorted⟩ := load_pool h hq
  have hentries := congrArg (fun seen => seen.2.2.map (·.entry)) hassorted
  simp only [assorted, List.map_map] at hentries
  have hnodup := hfills.nodup (by rw [hnone]; exact .nil)
  exact hentries ▸ hnodup

theorem load_candidate (h : load map rows host config = .ok r) {id : PoolId} {q : Pool}
    (hq : r.forest.get? id = some q) (entry : UInt32) :
    (q.candidate? entry).map Candidate.unpatched
      = firstCandidate? (candidates rows) id q.kind entry := by
  obtain ⟨o, p, -, hnone, hfills, hassorted⟩ := load_pool h hq
  have hkind : q.kind = p.kind := congrArg (·.1) hassorted
  have hcandidates : q.candidates.map Candidate.unpatched = p.candidates.map Candidate.unpatched :=
    congrArg (·.2.2) hassorted
  have hempty : o.candidate? entry = none := by
    rw [Pool.candidate?, hnone]
    rfl
  rw [candidate?_map_unpatched, hcandidates, ← candidate?_map_unpatched, hfills.found, hempty,
    Option.none_or, hkind, hfills.kind]
  cases hfirst : firstCandidate? (candidates rows) id o.kind entry with
  | none => rfl
  | some c => rw [Option.map_some, unpatched_of_mem_candidates (List.mem_of_find?_eq_some hfirst)]

/-! ### Templates that were filled -/

/-- Each pool has the template of its first row, with open fields filled, and there are no other
pools. -/
def Templated (map : MapId) (rows : PoolRows) (f : Forest) : Prop :=
  ∀ id, Option.Rel Template.Completes (firstTemplate? map rows.templates id)
    ((f.get? id).map Pool.template)

theorem Templated.of_alike {f g : Forest} (hf : Templated map rows f)
    (h : Forest.Alike Pool.template f g) : Templated map rows g := by
  intro id
  rw [← h.get? id]
  exact hf id

theorem Templated.trickle {f : Forest} (hf : Templated map rows f) :
    Templated map rows f.trickle := by
  intro id
  have hbefore := hf id
  cases hq : f.trickle.get? id with
  | none =>
      have hnone := (alike_untemplated f).get? id
      rw [hq, Option.map_none, Option.map_eq_none_iff] at hnone
      rwa [hnone] at hbefore
  | some q =>
      obtain ⟨p, hp, hcompletes⟩ := f.completes_trickle hq
      rw [hp] at hbefore
      cases hfirst : firstTemplate? map rows.templates id with
      | none =>
          rw [hfirst] at hbefore
          cases hbefore
      | some own =>
          rw [hfirst] at hbefore
          cases hbefore with
          | some hown => exact .some (hown.trans hcompletes)

theorem templated_addStructure (map : MapId) (rows : PoolRows) (host : Host)
    (config : RegistryConfig) :
    Templated map rows ((empty map host config).addStructure rows).forest := by
  intro id
  have hpools := congrArg (Option.map Pool.template) (addStructure_pools map rows host config id)
  rw [Option.map_map, Option.map_map] at hpools
  rw [show Pool.template = Pool.template ∘ unlinked from rfl, hpools]
  cases firstTemplate? map rows.templates id with
  | none => exact .none
  | some own => exact .some (.refl own)

theorem load_templated (h : load map rows host config = .ok r) : Templated map rows r.forest :=
  load_keep h (P := fun s => Templated map rows s.forest)
    (templated_addStructure map rows host config)
    (fun row hs => hs.of_alike ((alike_addAssignment _ row).1.through Pool.template))
    (fun hs hc => hs.of_alike ((alike_addCandidate hc).1.through Pool.template))
    (fun scope patch hs => hs.of_alike ((alike_addPatch _ scope patch).through Pool.template))
    (fun hs => hs.trickle)

/-! ### Regions -/

/-- Every point lies in the regions of its position. -/
def Located (r : Registry) : Prop := ∀ x p, r.points.get? x = some p →
  p.grid = (Region.ofPosition p.position).grid ∧ p.zone = (Region.ofPosition p.position).zone

theorem Located.of_points (hr : r.Located) (h : s.points = r.points) : s.Located := by
  rw [Located, h]
  exact hr

theorem Located.addPoint (hr : r.Located) (row : PointRow) : (r.addPoint row).Located := by
  rcases r.addPoint_cases row with ⟨-, h⟩ | ⟨q, rfl, -, h⟩
  · rw [h]
    exact hr
  · rw [h]
    intro x p hp
    rcases Table.get?_insert_cases hp with ⟨-, rfl⟩ | ⟨-, hold⟩
    · exact ⟨rfl, rfl⟩
    · exact hr x p hold

/-- Points never move. -/
theorem SamePlan.located (h : SamePlan r s) (hr : r.Located) : s.Located := by
  intro x q hq
  obtain ⟨p, hp, hsame⟩ := h.points.symm.find hq
  have hplace := hr x p hp
  rwa [show p.grid = q.grid from (congrArg SpawnPoint.grid hsame :),
    show p.zone = q.zone from (congrArg SpawnPoint.zone hsame :),
    show p.position = q.position from (congrArg SpawnPoint.position hsame :)] at hplace

theorem load_located (h : load map rows host config = .ok r) : r.Located := by
  refine load_keep h (P := Located) ?_ ?_ ?_ ?_ (fun hs => hs)
  · have hpoints := List.foldlRecOn rows.points addPoint (motive := Located)
      (b := empty map host config) (fun _ _ h => by cases h) (fun _ hs row _ => hs.addPoint row)
    exact hpoints.of_points (addStructure_fresh (fresh_empty map host config)
      (fun _ _ h => by cases h) rows).2
  · exact fun row hs => hs.of_points (alike_addAssignment _ row).2
  · exact fun hs hc => hs.of_points (alike_addCandidate hc).2
  · intro s scope patch hs
    obtain hskip | ⟨t, ht, hadd⟩ := s.addPatch_cases scope patch
    · rw [hskip]
      exact hs
    · rw [hadd]
      have hchange : Change (fun _ _ _ => True) s t := .patch scope patch ht
      exact hchange.samePlan.located hs

/-! ## Loaded registries -/

/-- What a loaded registry has, told from the rows, and that nothing has happened in it yet. -/
structure WellFormed (map : MapId) (rows : PoolRows) (r : Registry) : Prop where
  /-- A pool is there just if some row with a known type code names it. -/
  pools : ∀ id, r.forest.contains id = (firstTemplate? map rows.templates id).isSome
  /-- It has the template of the first such row, with open fields filled. -/
  template : ∀ {id p}, r.forest.get? id = some p →
    ∃ own, firstTemplate? map rows.templates id = some own ∧ own.Completes p.template
  /-- The root of a pool is itself or above it, and has no parent. -/
  root : ∀ {id p}, r.forest.get? id = some p →
    p.root ∈ id :: r.forest.ancestors id ∧ r.forest.parent? p.root = none
  /-- A known point is listed once by the first existing pool that a row gives it to, and by no
  other one. -/
  points : ∀ {id p}, r.forest.get? id = some p → ∀ x, p.points.count x =
    if r.points.contains x = true ∧ firstOwner? r.forest rows.assignments x = some id then 1 else 0
  /-- A pool with candidates has no children, and they are of its kind. -/
  leaf : ∀ {id p}, r.forest.get? id = some p → ∀ c ∈ p.candidates,
    p.children = [] ∧ c.kind = p.kind
  /-- A pool has one candidate for each entry at most. -/
  entries : ∀ {id p}, r.forest.get? id = some p → (p.candidates.map (·.entry)).Nodup
  /-- It is the first one of its kind that the rows name, but for a patch. -/
  candidate : ∀ {id p}, r.forest.get? id = some p → ∀ entry,
    (p.candidate? entry).map Candidate.unpatched
      = firstCandidate? (candidates rows) id p.kind entry
  /-- Points are those of the rows, in the regions of their positions. -/
  known : ∀ x, r.points.contains x = true ↔ x ∈ rows.points.map (·.point)
  located : r.Located
  counts : ∀ {id p}, r.forest.get? id = some p → p.ownCount = 0 ∧ p.totalCount = 0
  vacant : ∀ {x p}, r.points.get? x = some p →
    p.reservation = none ∧ p.entity = none ∧ p.remains = []
  live : r.live = .empty
  timers : r.timers.all = []
  active : ∀ {id p}, r.forest.get? id = some p → p.active = !p.template.isManual

/-- A registry that loads is well formed, whatever the rows are like. -/
theorem load_wellFormed (h : load map rows host config = .ok r) : r.WellFormed map rows := by
  have hloaded := load_fresh h
  have hlinked := hloaded.fresh.planned.linked
  have htemplate : ∀ {id p}, r.forest.get? id = some p →
      ∃ own, firstTemplate? map rows.templates id = some own ∧ own.Completes p.template := by
    intro id p hp
    have hrel := load_templated h id
    rw [hp] at hrel
    cases hfirst : firstTemplate? map rows.templates id with
    | none =>
        rw [hfirst] at hrel
        cases hrel
    | some own =>
        rw [hfirst] at hrel
        cases hrel with
        | some hcompletes => exact ⟨own, rfl, hcompletes⟩
  refine
    { pools := ?_
      template := htemplate
      root := ?_
      points := fun hp x => load_points h hp x
      leaf := fun hp c hc => ⟨List.isEmpty_iff.mp (hloaded.fresh.planned.leaf_of_candidate hp hc),
        hloaded.fresh.planned.kind_of_candidate hp hc⟩
      entries := load_entries h
      candidate := fun hp entry => load_candidate h hp entry
      known := hloaded.known
      located := load_located h
      counts := hloaded.fresh.counts
      vacant := hloaded.fresh.vacant
      live := hloaded.fresh.live
      timers := by rw [load_timers h]; rfl
      active := load_unswitched h _ _ }
  · intro id
    have hrel := load_templated h id
    rw [Forest.contains, Table.contains, ← Forest.get?]
    cases hp : r.forest.get? id with
    | none =>
        rw [hp] at hrel
        cases hfirst : firstTemplate? map rows.templates id with
        | none => rfl
        | some own =>
            rw [hfirst] at hrel
            cases hrel
    | some p =>
        obtain ⟨own, hown, -⟩ := htemplate hp
        rw [hown]
        rfl
  · intro id p hp
    rw [load_rooted h id p hp]
    exact ⟨Forest.top_mem_path _ _, hlinked.parent?_top id⟩

/-- The small map with five rows that do not count: a pool of no known kind, a leaf again, a point
given to the pool that is missing, and later to a second one, and an entry again. -/
def crookedRows : PoolRows :=
  { campRows with
    templates := { (default : TemplateRow) with pool := ⟨9⟩, typeCode := 7 } :: campRows.templates
      ++ [{ (default : TemplateRow) with pool := ⟨2⟩, maxLimit := 1 }]
    assignments := ⟨⟨9⟩, ⟨1⟩⟩ :: campRows.assignments ++ [⟨⟨3⟩, ⟨1⟩⟩]
    creatures := campRows.creatures ++ [⟨⟨2⟩, 7, .zero, default⟩] }

theorem load_wellFormed_crooked : ∃ r, load default crookedRows .fresh default = .ok r ∧
    r.report.skipped = 5 ∧ r.WellFormed default crookedRows := by
  have hskipped : (load default crookedRows .fresh default).toOption.map (·.report.skipped)
      = some 5 := by decide +kernel
  cases hloaded : load default crookedRows .fresh default with
  | error e =>
      rw [hloaded] at hskipped
      cases hskipped
  | ok r =>
      rw [hloaded] at hskipped
      exact ⟨r, rfl, Option.some.inj hskipped, load_wellFormed hloaded⟩

end Registry

end SpawnForest
