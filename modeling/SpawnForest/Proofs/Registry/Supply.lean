import Mathlib.Data.List.Nodup
import SpawnForest.Proofs.Registry.Plan
import SpawnForest.Proofs.Registry.Spawning

/-!
# Enough of everything

A pool is supplied if every open leaf below it can be filled up to its maximum:
it has a candidate, the host refuses none of them, and there are free points of
its own for whatever the maximum still allows. Points of the groups above are
not counted on, since other leaves may take them.

Supply does not run out on the way. A leaf that gains an entity needs one point
less than before and has lost at most one, and the other leaves have lost none
of theirs, even if the point came from a group above (`Supplied.of_gain`). What
is supplied also fits 32 bits, because a point is assigned only once
(`Supplied.capacity_le_size`).
-/

namespace SpawnForest

/-- Whether a point is there and free. -/
def freeAt (points : Table PointId SpawnPoint) (x : PointId) : Bool :=
  match points.get? x with
  | some p => p.isFree
  | none => false

/-! ## Counting free points -/

section

variable {points points' : Table PointId SpawnPoint}

theorem freeAt_iff {x : PointId} :
    freeAt points x = true ↔ ∃ p, points.get? x = some p ∧ p.reservation = none := by
  unfold freeAt
  cases points.get? x with
  | none => simp
  | some p => simp [SpawnPoint.isFree]

theorem freeAt_congr {x : PointId}
    (h : (points.get? x).map (·.reservation) = (points'.get? x).map (·.reservation)) :
    freeAt points x = freeAt points' x := by
  have hview : ∀ t : Table PointId SpawnPoint, freeAt t x =
      ((t.get? x).map (·.reservation)).any (·.isNone) := by
    intro t
    unfold freeAt
    cases t.get? x <;> rfl
  rw [hview, hview, h]

/-- Points other than the one that was reserved are as free as before. -/
theorem freeAt_of_reserve {x : PointId} {held : Reservation}
    (h : (points.modify x (·.reserve held)).Alike (·.reservation) points') {y : PointId}
    (hne : y ≠ x) : freeAt points' y = freeAt points y := by
  refine freeAt_congr ?_
  rw [← h y, Table.get?_modify_of_ne hne]

/-- A free point stays free, unless it is the changed one and that gets a reservation. -/
theorem freeAt_modify {x y : PointId} {change : SpawnPoint → SpawnPoint}
    (h : y = x → ∀ p, p.reservation = none → (change p).reservation = none)
    (hy : freeAt points y = true) : freeAt (points.modify x change) y = true := by
  obtain ⟨p, hp, hfree⟩ := freeAt_iff.mp hy
  by_cases hself : y = x
  · subst hself
    exact freeAt_iff.mpr ⟨change p, Table.get?_modify_self hp, h rfl p hfree⟩
  · exact freeAt_iff.mpr ⟨p, by rwa [Table.get?_modify_of_ne hself], hfree⟩

theorem countP_le_succ {q q' : PointId → Bool} {l : List PointId} (hl : l.Nodup) {x : PointId}
    (h : ∀ y, y ≠ x → q' y = q y) : l.countP q ≤ l.countP q' + 1 := by
  induction l with
  | nil => exact Nat.zero_le _
  | cons y l ih =>
      obtain ⟨hnew, hl⟩ := List.nodup_cons.mp hl
      rw [List.countP_cons, List.countP_cons]
      by_cases hy : y = x
      · subst hy
        have hrest : l.countP q' = l.countP q := List.countP_congr (fun z hz => by
          rw [h z (fun same => hnew (same ▸ hz))])
        rw [hrest]
        split <;> omega
      · have hle := ih hl
        rw [h y hy]
        omega

theorem mem_freePoints {f : Forest} {id : PoolId} {x : PointId} :
    x ∈ f.freePoints id points ↔ x ∈ f.usablePoints id ∧ freeAt points x = true :=
  List.mem_filter

end

namespace Forest

/-- Leaves that are open are told by links and switches alone. -/
theorem OpenLeaf.of_alike {f g : Forest} (h : Alike Pool.uncounted f g) {id leaf : PoolId}
    (hleaf : f.OpenLeaf id leaf) : g.OpenLeaf id leaf := by
  have hlinks : Alike Pool.links f g := h.through Pool.links
  refine ⟨?_, ?_, ?_⟩
  · rw [← hlinks.subtree]
    exact hleaf.below
  · rw [← hlinks.children]
    exact hleaf.childless
  · intro x hx hbelow q hq
    rw [← hlinks.subtree] at hx hbelow
    obtain ⟨p, hp, hsame⟩ := Alike.find h.symm hq
    rw [← hleaf.active x hx hbelow p hp]
    exact (congrArg Pool.active hsame :).symm

/-! ## Where a descent ends -/

theorem Descent.openLeaf {f : Forest} (hf : f.WellLinked) {mode : Mode} {id leaf : PoolId}
    (h : f.Descent mode id leaf) : f.OpenLeaf id leaf := by
  induction h with
  | here hroom hp hleaf => exact hf.openLeaf_self hp (active_of_hasRoom hroom hp) hleaf
  | down hroom hp hgroup hchild hopen below ih =>
      exact hf.openLeaf_of_child hchild hp (active_of_hasRoom hroom hp) ih

/-- A descent from a pool with room up to its maximum ends in a leaf with such room, whichever
limits it goes by. -/
theorem Descent.hasRoom_leaf {f : Forest} {mode : Mode} {id leaf : PoolId}
    (h : f.Descent mode id leaf) (hroom : f.hasRoom id .maximum = true) :
    f.hasRoom leaf .maximum = true := by
  induction h with
  | here _ hp hleaf => exact hroom
  | down _ hp hgroup hchild hopen below ih => exact ih hopen

/-! ## Assigned points -/

/-- The points of a pool, none if it is unknown. -/
def assigned (f : Forest) (id : PoolId) : List PointId := ((f.get? id).map (·.points)).getD []

theorem assigned_of_get {f : Forest} {id : PoolId} {p : Pool} (hp : f.get? id = some p) :
    f.assigned id = p.points := by
  simp [assigned, hp]

theorem mem_assigned {f : Forest} {id : PoolId} {x : PointId} :
    x ∈ f.assigned id ↔ ∃ p, f.get? id = some p ∧ x ∈ p.points := by
  cases hp : f.get? id with
  | none => simp [assigned, hp]
  | some p => simp [assigned, hp]

/-- A pool may use the points that are assigned to it or to a group above it. -/
theorem mem_usablePoints {f : Forest} {id : PoolId} {x : PointId} :
    x ∈ f.usablePoints id ↔ ∃ g ∈ id :: f.ancestors id, x ∈ f.assigned g := by
  simp only [usablePoints, List.mem_flatMap, List.mem_filterMap, mem_assigned]
  constructor
  · rintro ⟨p, ⟨g, hg, hp⟩, hx⟩
    exact ⟨g, hg, p, hp, hx⟩
  · rintro ⟨g, hg, p, hp, hx⟩
    exact ⟨p, ⟨g, hg, hp⟩, hx⟩

theorem own_subset_usable {f : Forest} {id : PoolId} {p : Pool} (hp : f.get? id = some p) :
    p.points ⊆ f.usablePoints id := fun _ hx =>
  mem_usablePoints.mpr ⟨id, List.mem_cons_self, mem_assigned.mpr ⟨p, hp, hx⟩⟩

end Forest

namespace Registry

variable {r s : Registry} {pool : PoolId}

/-- Every open leaf below a pool can be filled up to its maximum. -/
structure Supplied (r : Registry) (pool : PoolId) : Prop where
  candidates : ∀ {leaf p}, r.forest.OpenLeaf pool leaf → r.forest.get? leaf = some p →
    p.candidates ≠ []
  accepted : ∀ {leaf p c}, r.forest.OpenLeaf pool leaf → r.forest.get? leaf = some p →
    c ∈ p.candidates → r.host.rejected.contains c.entry = false
  points : ∀ {leaf p}, r.forest.OpenLeaf pool leaf → r.forest.get? leaf = some p →
    p.maxLimit - p.ownCount ≤ p.points.countP (freeAt r.points)

/-- An open leaf with room finds a point. -/
theorem Supplied.freePoints_ne_nil (hs : r.Supplied pool) (hr : r.Planned) {leaf : PoolId}
    {p : Pool} (hleaf : r.forest.OpenLeaf pool leaf) (hp : r.forest.get? leaf = some p)
    (hroom : r.forest.hasRoom leaf .maximum = true) : r.forest.freePoints leaf r.points ≠ [] := by
  have hlt := Forest.own_lt_of_hasRoom hr.linked hroom hp
    ((Forest.isLeaf_iff hp).mpr hleaf.childless)
  have hfree := hs.points hleaf hp
  obtain ⟨x, hx, hfreeAt⟩ := List.countP_pos_iff.mp
    (show 0 < p.points.countP (freeAt r.points) by omega)
  exact List.ne_nil_of_mem (mem_freePoints.mpr ⟨Forest.own_subset_usable hp hx, hfreeAt⟩)

/-- A point that one leaf may use is not assigned to another leaf. -/
theorem Planned.not_mem_of_usable (hr : r.Planned) {leaf other : PoolId} {q : Pool} {x : PointId}
    (hx : x ∈ r.forest.usablePoints leaf) (hq : r.forest.get? other = some q)
    (hother : r.forest.children other = []) (hne : other ≠ leaf) : x ∉ q.points := by
  intro hmem
  obtain ⟨id, hid, hx⟩ := Forest.mem_usablePoints.mp hx
  obtain ⟨p, hp, hx⟩ := Forest.mem_assigned.mp hx
  obtain rfl := hr.assigned_once hp hq hx hmem
  rcases List.mem_cons.mp hid with rfl | habove
  · exact hne rfl
  · obtain ⟨c, hc⟩ := hr.linked.exists_child_of_ancestor habove
    rw [hother] at hc
    cases hc

/-- A leaf that gains an entity needs one point less and has lost at most one. -/
theorem Planned.supply_of_gain (hr : r.Planned) {leaf : PoolId} {p q : Pool} {x : PointId}
    {held : Reservation} (hcounts : r.forest.Counts leaf 1) (hp : r.forest.get? leaf = some p)
    (hq : (r.forest.gain leaf).get? leaf = some q)
    (hpoints : (r.points.modify x (·.reserve held)).Alike (·.reservation) s.points)
    (hsupply : p.maxLimit - p.ownCount ≤ p.points.countP (freeAt r.points)) :
    q.maxLimit - q.ownCount ≤ q.points.countP (freeAt s.points) := by
  have hknown := Forest.contains_iff.mpr ⟨p, hp⟩
  obtain ⟨q', hq', hsame, hown, -⟩ :=
    hr.linked.get?_gain hknown hcounts (hr.linked.self_mem_subtree hknown) hp
  obtain rfl := Option.some.inj (hq'.symm.trans hq)
  have hmax : q'.maxLimit = p.maxLimit := (congrArg Pool.maxLimit hsame :)
  have hassigned : q'.points = p.points := (congrArg Pool.points hsame :)
  have hcount := countP_le_succ (hr.assigned_nodup hp)
    (fun y hne => freeAt_of_reserve hpoints (y := y) hne)
  rw [if_pos rfl] at hown
  rw [hown, hmax, hassigned]
  omega

/-- The other leaves keep all of theirs. -/
theorem Planned.countP_free_of_gain (hr : r.Planned) {leaf other : PoolId} {p : Pool} {x : PointId}
    {held : Reservation} (hx : x ∈ r.forest.usablePoints leaf) (hp : r.forest.get? other = some p)
    (hother : r.forest.children other = []) (hne : other ≠ leaf)
    (hpoints : (r.points.modify x (·.reserve held)).Alike (·.reservation) s.points) :
    p.points.countP (freeAt s.points) = p.points.countP (freeAt r.points) := by
  have hnone := hr.not_mem_of_usable hx hp hother hne
  exact List.countP_congr (fun y hy => by
    rw [freeAt_of_reserve hpoints (fun same => hnone (same ▸ hy))])

/-- One entity more leaves a pool supplied. -/
theorem Supplied.of_gain (hs : r.Supplied pool) (hr : r.Planned) {leaf : PoolId} {x : PointId}
    {held : Reservation} (hcounts : r.forest.Counts leaf 1)
    (hleaf : r.forest.OpenLeaf pool leaf) (hx : x ∈ r.forest.usablePoints leaf)
    (hforest : s.forest = r.forest.gain leaf)
    (hpoints : (r.points.modify x (·.reserve held)).Alike (·.reservation) s.points)
    (hrejected : s.host.rejected = r.host.rejected) : s.Supplied pool := by
  have hknown := (hr.linked.mem_subtree.mp hleaf.below).1
  have halike : Forest.Alike Pool.uncounted r.forest s.forest := by
    rw [hforest]
    exact r.forest.alike_adjust leaf 1 false
  have hbefore : ∀ {l q}, s.forest.OpenLeaf pool l → s.forest.get? l = some q →
      r.forest.OpenLeaf pool l ∧ ∃ p, r.forest.get? l = some p ∧ p.uncounted = q.uncounted :=
    fun hl hq => ⟨hl.of_alike halike.symm, Forest.Alike.find halike.symm hq⟩
  refine ⟨?_, ?_, ?_⟩
  · intro l q hl hq
    obtain ⟨hl, p, hp, hsame⟩ := hbefore hl hq
    have hcandidates : p.candidates = q.candidates := (congrArg Pool.candidates hsame :)
    rw [← hcandidates]
    exact hs.candidates hl hp
  · intro l q c hl hq hc
    obtain ⟨hl, p, hp, hsame⟩ := hbefore hl hq
    have hcandidates : p.candidates = q.candidates := (congrArg Pool.candidates hsame :)
    rw [← hcandidates] at hc
    rw [hrejected]
    exact hs.accepted hl hp hc
  · intro l q hl hq
    obtain ⟨hl, p, hp, hsame⟩ := hbefore hl hq
    have hsupply := hs.points hl hp
    rw [hforest] at hq
    by_cases hself : l = leaf
    · subst hself
      exact hr.supply_of_gain hcounts hp hq hpoints hsupply
    · have hapart : leaf ∉ r.forest.subtree l := by
        intro h
        rw [hr.linked.subtree_eq (Forest.contains_of_mem_subtree h), hl.childless] at h
        exact hself (List.mem_singleton.mp h).symm
      rw [hr.linked.get?_gain_of_not_below hknown hapart] at hq
      obtain rfl := Option.some.inj (hp.symm.trans hq)
      rw [hr.countP_free_of_gain hx hp hl.childless hself hpoints]
      exact hsupply

/-! ## As many points as capacity -/

/-- All points of a subtree, each of them once. -/
theorem Planned.nodup_assigned (hr : r.Planned) (pool : PoolId) :
    ((r.forest.subtree pool).flatMap r.forest.assigned).Nodup := by
  refine List.nodup_flatMap.mpr ⟨?_, ?_⟩
  · intro x hx
    obtain ⟨p, hp⟩ := Forest.contains_iff.mp (hr.linked.mem_subtree.mp hx).1
    rw [Forest.assigned_of_get hp]
    exact hr.assigned_nodup hp
  · refine (hr.linked.nodup_subtree pool).imp ?_
    intro x z hne y hx hz
    obtain ⟨p, hp, hx⟩ := Forest.mem_assigned.mp hx
    obtain ⟨q, hq, hz⟩ := Forest.mem_assigned.mp hz
    exact hne (hr.assigned_once hp hq hx hz)

theorem Planned.length_assigned_le (hr : r.Planned) (pool : PoolId) :
    ((r.forest.subtree pool).flatMap r.forest.assigned).length ≤ r.points.size := by
  have hknown : (r.forest.subtree pool).flatMap r.forest.assigned ⊆ r.points.keys := by
    intro y hy
    obtain ⟨x, -, hy⟩ := List.mem_flatMap.mp hy
    obtain ⟨p, hp, hy⟩ := Forest.mem_assigned.mp hy
    exact Table.mem_keys.mpr (hr.assigned_known hp hy)
  have hle := (List.subperm_of_subset (hr.nodup_assigned pool) hknown).length_le
  rwa [Table.keys, List.length_map] at hle

/-- What the open leaves can hold altogether is no more than there are points. -/
theorem Supplied.capacity_le_size (hs : r.Supplied pool) (hr : r.Planned) :
    r.forest.capacity pool ≤ r.points.size := by
  obtain ⟨a, hfits, hload⟩ := hr.linked.exists_fits (Nat.le_refl (r.forest.capacity pool))
  have hle : ∀ x ∈ r.forest.subtree pool, a x ≤ (r.forest.assigned x).length := by
    intro x hx
    by_cases hnone : a x = 0
    · omega
    · have hopen := hfits.support x hx hnone
      obtain ⟨p, hp⟩ := Forest.contains_iff.mp (hr.linked.mem_subtree.mp hx).1
      have hamount : a x ≤ p.maxLimit - p.ownCount :=
        hfits.leaf_le x hx p hp ((Forest.isLeaf_iff hp).mpr hopen.childless)
      have hsupply := hs.points hopen hp
      have hlength := List.countP_le_length (p := freeAt r.points) (l := p.points)
      rw [Forest.assigned_of_get hp]
      omega
  calc r.forest.capacity pool = ((r.forest.subtree pool).map a).sum := hload.symm
    _ ≤ ((r.forest.subtree pool).map (fun x => (r.forest.assigned x).length)).sum :=
        List.sum_le_sum hle
    _ = ((r.forest.subtree pool).flatMap r.forest.assigned).length := List.length_flatMap.symm
    _ ≤ r.points.size := hr.length_assigned_le pool

end Registry

end SpawnForest
