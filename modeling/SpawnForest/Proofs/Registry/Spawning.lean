import SpawnForest.Proofs.Forest.Spending
import SpawnForest.Proofs.Random.Draws
import SpawnForest.Proofs.Registry.Frame
import SpawnForest.Registry.Population

/-!
# One spawn

A spawn is a descent, three draws and a reservation. Everything before the
reservation changes the random source only, so one spawn either stops with the
registry as it was but for the draws, or is a `spawnAt` at a leaf that the
descent may reach, at a free point the leaf may use, for a candidate of the
leaf (`exec_spawnSingle`). What made it stop is kept, since some ways of
stopping can be excluded later: nothing to draw from, or a draw without a
finite range.
-/

namespace SpawnForest

namespace Forest

/-- A way down from a pool to a leaf. Every pool on it has room as asked for, and every pool that
is entered from above has room up to its maximum as well. -/
inductive Descent (f : Forest) (mode : Mode) : PoolId → PoolId → Prop
  | here {id : PoolId} {p : Pool} (hroom : f.hasRoom id mode = true) (hp : f.get? id = some p)
      (hleaf : p.isLeaf = true) : Descent f mode id id
  | down {id c leaf : PoolId} {p : Pool} (hroom : f.hasRoom id mode = true)
      (hp : f.get? id = some p) (hgroup : p.isLeaf = false) (hchild : c ∈ f.children id)
      (hopen : f.hasRoom c .maximum = true) (below : Descent f mode c leaf) :
      Descent f mode id leaf

theorem Descent.mem_subtree {f : Forest} (hf : f.WellLinked) {mode : Mode} {id leaf : PoolId}
    (h : f.Descent mode id leaf) : leaf ∈ f.subtree id := by
  induction h with
  | here hroom hp hleaf => exact hf.self_mem_subtree (contains_iff.mpr ⟨_, hp⟩)
  | down hroom hp hgroup hchild hopen below ih =>
      exact hf.subtree_trans (hf.mem_subtree_of_child
        (hf.self_mem_subtree (contains_iff.mpr ⟨_, hp⟩)) hchild) ih

theorem Descent.leaf_get {f : Forest} {mode : Mode} {id leaf : PoolId}
    (h : f.Descent mode id leaf) :
    ∃ p, f.get? leaf = some p ∧ p.isLeaf = true ∧ f.hasRoom leaf mode = true := by
  induction h with
  | here hroom hp hleaf => exact ⟨_, hp, hleaf, hroom⟩
  | down hroom hp hgroup hchild hopen below ih => exact ih

/-- A selection of a child or of a candidate, somewhere below a pool, that has no finite range to
draw from. -/
def Unselectable (f : Forest) (pool : PoolId) : Prop :=
  ∃ x ∈ f.subtree pool, ¬Selectable ((f.openChildren x).map (·.weight)) ∨
    ∃ p, f.get? x = some p ∧ ¬Selectable (p.candidates.map (·.weight))

/-! ## Choosing -/

theorem mem_openChildren {f : Forest} (hnamed : f.Named) {id : PoolId} {p : Pool}
    (hp : p ∈ f.openChildren id) : p.id ∈ f.children id ∧ f.hasRoom p.id .maximum = true := by
  rw [openChildren, List.mem_filterMap] at hp
  obtain ⟨c, hc, hget⟩ := hp
  rw [hnamed hget]
  exact List.mem_filter.mp hc

theorem openChildren_ne_nil {f : Forest} (hf : f.WellLinked) {id c : PoolId}
    (hc : c ∈ f.children id) (hopen : f.hasRoom c .maximum = true) : f.openChildren id ≠ [] := by
  obtain ⟨p, hp⟩ := contains_iff.mp (hf.contains_child hc)
  have hmem : p ∈ f.openChildren id := by
    rw [openChildren, List.mem_filterMap]
    exact ⟨c, List.mem_filter.mpr ⟨hc, hopen⟩, hp⟩
  exact List.ne_nil_of_mem hmem

/-- The choice of a child: there is none to choose, the draw fails, or it is an open child. -/
theorem pickChild_cases {f : Forest} (hnamed : f.Named) (id : PoolId) (g : Pcg) :
    (f.openChildren id = [] ∧ f.pickChild id g = .ok (none, g)) ∨
    (¬Selectable ((f.openChildren id).map (·.weight)) ∧ f.pickChild id g = .error .infiniteRange) ∨
    ∃ c g', c ∈ f.children id ∧ f.hasRoom c .maximum = true ∧
      f.pickChild id g = .ok (some c, g') := by
  unfold pickChild
  dsimp only
  rcases weightedPick_cases (f.openChildren id) (·.weight) g with
    ⟨hnone, hpick⟩ | ⟨hselect, hpick⟩ | ⟨i, g', hi, hpick⟩
  · exact .inl ⟨hnone, by rw [hpick]; rfl⟩
  · exact .inr (.inl ⟨hselect, by rw [hpick]; rfl⟩)
  · obtain ⟨hchild, hroom⟩ := mem_openChildren hnamed (List.getElem_mem hi)
    refine .inr (.inr ⟨_, g', hchild, hroom, ?_⟩)
    simp only [hpick, bind, Except.bind, pure, Except.pure, Option.bind,
      List.getElem?_eq_getElem hi, Option.map_some]

/-- The choice of an entry: there is none to choose, the draw fails, or a candidate has it. -/
theorem pickEntry_cases {f : Forest} {id : PoolId} {p : Pool} (hp : f.get? id = some p) (g : Pcg) :
    (p.candidates = [] ∧ f.pickEntry id g = .ok (none, g)) ∨
    (¬Selectable (p.candidates.map (·.weight)) ∧ f.pickEntry id g = .error .infiniteRange) ∨
    ∃ c g', c ∈ p.candidates ∧ f.pickEntry id g = .ok (some c.entry, g') := by
  unfold pickEntry
  rw [hp, Option.map_some, Option.getD_some]
  dsimp only
  rcases weightedPick_cases p.candidates (·.weight) g with
    ⟨hnone, hpick⟩ | ⟨hselect, hpick⟩ | ⟨i, g', hi, hpick⟩
  · exact .inl ⟨hnone, by rw [hpick]; rfl⟩
  · exact .inr (.inl ⟨hselect, by rw [hpick]; rfl⟩)
  · refine .inr (.inr ⟨p.candidates[i], g', List.getElem_mem hi, ?_⟩)
    simp only [hpick, bind, Except.bind, pure, Except.pure, Option.bind,
      List.getElem?_eq_getElem hi, Option.map_some]

end Forest

namespace Registry

/-- Any member of a list is chosen, if there is one. -/
theorem exec_chooseAny {α : Type} (items : List α) (r : Registry) :
    (items = [] ∧ exec (chooseAny items) r = (.ok none, r)) ∨
    ∃ a g, a ∈ items ∧ exec (chooseAny items) r = (.ok (some a), { r with random := g }) := by
  unfold chooseAny
  by_cases hnone : items = []
  · exact .inl ⟨hnone, by rw [hnone]; rfl⟩
  have hpos := List.length_pos_iff.mpr hnone
  have hle : (Pcg.natIn 0 (items.length - 1) r.random).1 < items.length := by
    have hdraw := Pcg.natIn_le 0 (items.length - 1) r.random
    omega
  refine .inr ⟨items[(Pcg.natIn 0 (items.length - 1) r.random).1],
    (Pcg.natIn 0 (items.length - 1) r.random).2, List.getElem_mem hle, ?_⟩
  have hempty : items.isEmpty = false := by simpa using hnone
  have hchosen : exec (choose (fun random =>
      .ok (RandomSource.natIn 0 (items.length - 1) random))) r =
        (.ok (Pcg.natIn 0 (items.length - 1) r.random).1,
          { r with random := (Pcg.natIn 0 (items.length - 1) r.random).2 }) := exec_choose_of_ok rfl
  rw [hempty]
  simp only [Bool.false_eq_true, if_false]
  rw [exec_bind_of_ok hchosen, List.getElem?_eq_getElem hle]
  rfl

/-! ## The descent -/

/-- Where a descent comes to: nowhere, which up to the maximums takes a start without room, to a
leaf that it may reach, or to a draw at which it breaks off. -/
inductive Landing (r : Registry) (mode : Mode) (id : PoolId) :
    Except Fault (Option PoolId) × Registry → Prop
  | nowhere (g : Pcg) (hroom : mode = .maximum → r.forest.hasRoom id .maximum = false) :
      Landing r mode id (.ok none, { r with random := g })
  | leaf (g : Pcg) {leaf : PoolId} (hdescent : r.forest.Descent mode id leaf) :
      Landing r mode id (.ok (some leaf), { r with random := g })
  | broken (g : Pcg) (hselect : r.forest.Unselectable id) :
      Landing r mode id (.error .infiniteRange, { r with random := g })

/-- Where the descent from an open child comes to, the descent from its parent comes to. -/
theorem Landing.of_child {r : Registry} (hf : r.forest.WellLinked) {mode : Mode} {id c : PoolId}
    {p : Pool} {g : Pcg} {ran : Except Fault (Option PoolId) × Registry}
    (hroom : r.forest.hasRoom id mode = true) (hp : r.forest.get? id = some p)
    (hgroup : p.isLeaf = false) (hchild : c ∈ r.forest.children id)
    (hopen : r.forest.hasRoom c .maximum = true) (h : Landing { r with random := g } mode c ran) :
    Landing r mode id ran := by
  cases h with
  | nowhere g' hnone =>
      refine .nowhere g' ?_
      intro hmode
      rw [hopen] at hnone
      cases hnone hmode
  | leaf g' hdescent => exact .leaf g' (.down hroom hp hgroup hchild hopen hdescent)
  | broken g' hselect =>
      obtain ⟨x, hx, hselect⟩ := hselect
      have hself := hf.self_mem_subtree (Forest.contains_iff.mpr ⟨p, hp⟩)
      exact .broken g' ⟨x, hf.subtree_trans (hf.mem_subtree_of_child hself hchild) hx, hselect⟩

theorem exec_descendToLeaf {r : Registry} (hf : r.forest.WellLinked) (hnamed : r.forest.Named)
    (mode : Mode) {bound : Nat} {id : PoolId}
    (hbound : r.forest.size < bound + (r.forest.ancestors id).length) :
    Landing r mode id (exec (descendToLeaf mode bound id) r) := by
  induction bound generalizing r id with
  | zero =>
      refine .nowhere r.random ?_
      intro _
      by_contra hroom
      obtain ⟨p, hp⟩ := Forest.get?_of_hasRoom (Bool.eq_true_of_not_eq_false hroom)
      have hlevel := hf.length_ancestors_lt (Forest.contains_iff.mpr ⟨p, hp⟩)
      omega
  | succ bound ih =>
      unfold descendToLeaf
      rw [exec_get_bind]
      by_cases hroom : r.forest.hasRoom id mode = true
      · obtain ⟨p, hp⟩ := Forest.get?_of_hasRoom hroom
        simp only [hroom, hp, Bool.not_true, Bool.false_eq_true, if_false]
        cases hleaf : p.isLeaf with
        | true => exact .leaf r.random (.here hroom hp hleaf)
        | false =>
            simp only [Bool.false_eq_true, if_false]
            rcases Forest.pickChild_cases hnamed id r.random with
              ⟨hnone, hpick⟩ | ⟨hselect, hpick⟩ | ⟨c, g, hchild, hopen, hpick⟩
            · rw [exec_bind_of_ok (exec_choose_of_ok hpick)]
              refine .nowhere r.random ?_
              intro hmode
              subst hmode
              obtain ⟨c, hc, hopen⟩ := Forest.exists_open_child hf hroom hp hleaf
              exact absurd hnone (Forest.openChildren_ne_nil hf hc hopen)
            · rw [exec_bind_of_error (exec_choose_of_error hpick)]
              have hself := hf.self_mem_subtree (Forest.contains_iff.mpr ⟨p, hp⟩)
              exact .broken r.random ⟨id, hself, .inl hselect⟩
            · rw [exec_bind_of_ok (exec_choose_of_ok hpick)]
              have hlower : r.forest.size < bound + (r.forest.ancestors c).length := by
                rw [hf.ancestors_of_child hchild, List.length_cons]
                omega
              exact .of_child hf hroom hp hleaf hchild hopen
                (ih (r := { r with random := g }) hf hnamed hlower)
      · rw [Bool.not_eq_true] at hroom
        simp only [hroom, Bool.not_false, if_true]
        exact .nowhere r.random (fun hmode => hmode ▸ hroom)

/-! ## The reservation -/

/-- A direct spawn finds nothing to spawn, finds the point taken, or reserves it. A reserved point
waits for its grid, gets its entity, or is given up again. -/
theorem exec_spawnAt (r : Registry) (kind : SpawnKind) (pool : PoolId) (entry : UInt32)
    (point : PointId) :
    ((r.hasCandidate kind pool entry = false ∨ r.points.get? point = none) ∧
      exec (spawnAt kind pool entry point) r = (.ok false, r)) ∨
    (∃ p holder, r.points.get? point = some p ∧ p.reservation = some holder ∧
      exec (spawnAt kind pool entry point) r = (.error (.alreadyReserved point holder), r)) ∨
    ∃ p, r.hasCandidate kind pool entry = true ∧ r.points.get? point = some p ∧
      p.reservation = none ∧
      (exec (spawnAt kind pool entry point) r = (.ok true, r.reserve point ⟨pool, entry, kind⟩) ∨
      (∃ made, (r.reserve point ⟨pool, entry, kind⟩).materialize? point = some made ∧
        exec (spawnAt kind pool entry point) r = (.ok true, made)) ∨
      ((r.reserve point ⟨pool, entry, kind⟩).materialize? point = none ∧
        exec (spawnAt kind pool entry point) r =
          (.ok false, (r.reserve point ⟨pool, entry, kind⟩).release point pool))) := by
  unfold spawnAt
  rw [exec_get_bind]
  cases hcandidate : r.hasCandidate kind pool entry with
  | false => exact .inl ⟨.inl rfl, rfl⟩
  | true =>
      simp only [Bool.not_true, Bool.false_eq_true, if_false]
      cases hpoint : r.points.get? point with
      | none => exact .inl ⟨.inr rfl, rfl⟩
      | some p =>
          dsimp only
          cases hheld : p.reservation with
          | some holder => exact .inr (.inl ⟨p, holder, rfl, hheld, rfl⟩)
          | none =>
              refine .inr (.inr ⟨p, trivial, rfl, hheld, ?_⟩)
              dsimp only
              split
              · exact .inl rfl
              · cases hmade : (r.reserve point ⟨pool, entry, kind⟩).materialize? point with
                | some made => exact .inr (.inl ⟨made, rfl, rfl⟩)
                | none => exact .inr (.inr ⟨rfl, rfl⟩)

/-- Why a spawn may come to nothing before anything is reserved: the descent ended nowhere, which
up to the maximums takes a pool without room, or the leaf has no free point or no candidate. -/
def Barren (r : Registry) (pool : PoolId) (mode : Mode) : Prop :=
  (mode = .maximum → r.forest.hasRoom pool .maximum = false) ∨
  ∃ leaf p, r.forest.Descent mode pool leaf ∧ r.forest.get? leaf = some p ∧
    (r.forest.freePoints leaf r.points = [] ∨ p.candidates = [])

/-- One spawn: it comes to nothing, breaks off at a draw, or is a direct spawn that suits the
leaf of a descent. -/
theorem exec_spawnSingle {r : Registry} (hf : r.forest.WellLinked) (hnamed : r.forest.Named)
    (pool : PoolId) (mode : Mode) :
    ∃ g, (r.Barren pool mode ∧
        exec (spawnSingle pool mode) r = (.ok false, { r with random := g })) ∨
      (r.forest.Unselectable pool ∧
        exec (spawnSingle pool mode) r = (.error .infiniteRange, { r with random := g })) ∨
      ∃ leaf p c point, r.forest.Descent mode pool leaf ∧ r.forest.get? leaf = some p ∧
        c ∈ p.candidates ∧ point ∈ r.forest.freePoints leaf r.points ∧
        exec (spawnSingle pool mode) r =
          exec (spawnAt p.kind leaf c.entry point) { r with random := g } := by
  unfold spawnSingle
  rw [exec_get_bind]
  have hbound : r.forest.size < r.forest.size + 1 + (r.forest.ancestors pool).length := by omega
  have hlanding := exec_descendToLeaf hf hnamed mode hbound
  generalize hran : exec (descendToLeaf mode (r.forest.size + 1) pool) r = ran at hlanding
  cases hlanding with
  | nowhere g hnone =>
      rw [exec_bind_of_ok hran]
      exact ⟨g, .inl ⟨.inl hnone, rfl⟩⟩
  | broken g hselect =>
      rw [exec_bind_of_error hran]
      exact ⟨g, .inr (.inl ⟨hselect, rfl⟩)⟩
  | @leaf g leaf hdescent =>
      rw [exec_bind_of_ok hran]
      dsimp only
      rw [exec_get_bind]
      obtain ⟨p, hp, -, -⟩ := hdescent.leaf_get
      rcases exec_chooseAny (r.forest.freePoints leaf r.points) { r with random := g } with
        ⟨hnone, hany⟩ | ⟨point, g₁, hpoint, hany⟩
      · rw [exec_bind_of_ok hany]
        exact ⟨g, .inl ⟨.inr ⟨leaf, p, hdescent, hp, .inl hnone⟩, rfl⟩⟩
      · rw [exec_bind_of_ok hany]
        dsimp only
        rcases Forest.pickEntry_cases hp g₁ with
          ⟨hnone, hpick⟩ | ⟨hselect, hpick⟩ | ⟨c, g₂, hc, hpick⟩
        · rw [exec_bind_of_ok (exec_choose_of_ok hpick)]
          exact ⟨g₁, .inl ⟨.inr ⟨leaf, p, hdescent, hp, .inr hnone⟩, rfl⟩⟩
        · rw [exec_bind_of_error (exec_choose_of_error hpick)]
          exact ⟨g₁, .inr (.inl ⟨⟨leaf, hdescent.mem_subtree hf, .inr ⟨p, hp, hselect⟩⟩, rfl⟩)⟩
        · rw [exec_bind_of_ok (exec_choose_of_ok hpick)]
          refine ⟨g₂, .inr (.inr ⟨leaf, p, c, point, hdescent, hp, hc, hpoint, ?_⟩)⟩
          simp only [hp]

end Registry

end SpawnForest
