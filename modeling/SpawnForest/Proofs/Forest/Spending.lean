import SpawnForest.Proofs.Forest.Building
import SpawnForest.Proofs.Forest.Counting
import SpawnForest.Proofs.Forest.Optimum

/-!
# Spending room

Room up to the maximums never leads into a dead end: a group with room has a
child with room (`exists_open_child`), since what the groups above it leave is
left to its children as well, as far as the group itself has room.

And room is spent one by one. If a leaf with room gains an entity, the capacity
of every pool on the way up falls by one and that of every other pool stays
(`capacity_gain`), and so does what is left above, so that the room of a pool
falls by just one (`room_gain`). Only a pool whose room is unbounded would not
notice, which is why the capacity or the room has to fit 32 bits there.
-/

namespace SpawnForest.Forest

/-! ## No dead ends -/

theorem get?_of_hasRoom {f : Forest} {mode : Mode} {id : PoolId} (h : f.hasRoom id mode = true) :
    ∃ p, f.get? id = some p := by
  cases hp : f.get? id with
  | some p => exact ⟨p, rfl⟩
  | none =>
      have hnone : f.room id mode = 0 := by rw [room, roomBelow, hp]
      rw [hasRoom, hnone] at h
      cases h

theorem active_of_hasRoom {f : Forest} {mode : Mode} {id : PoolId} {p : Pool}
    (h : f.hasRoom id mode = true) (hp : f.get? id = some p) : p.active = true := by
  cases hactive : p.active with
  | true => rfl
  | false =>
      have hnone : f.room id mode = 0 := by
        rw [room, roomBelow, hp]
        simp only [hactive, Bool.not_false, if_true]
      rw [hasRoom, hnone] at h
      cases h

theorem hasRoom_maximum_iff {f : Forest} {id : PoolId} :
    f.hasRoom id .maximum = true ↔ 0 < f.budgetAbove id ∧ 0 < f.capacity id := by
  rw [hasRoom, decide_eq_true_eq, room_eq_min, Nat.lt_min]

/-- A leaf with room has not reached its maximum. -/
theorem own_lt_of_hasRoom {f : Forest} (hf : f.WellLinked) {id : PoolId} {p : Pool}
    (h : f.hasRoom id .maximum = true) (hp : f.get? id = some p) (hleaf : p.isLeaf = true) :
    p.ownCount < p.maxLimit := by
  have hcapacity := (hasRoom_maximum_iff.mp h).2
  have hactive := active_of_hasRoom h hp
  rw [hf.capacity_of_get hp] at hcapacity
  simp only [Pool.capacityOver, hactive, hleaf, Bool.not_true, Bool.false_eq_true, if_false,
    if_true] at hcapacity
  omega

/-- A leaf with room in some mode has not reached the greater one of its limits. At the minimum it
may have reached the other one. -/
theorem own_lt_limit_of_hasRoom {f : Forest} {mode : Mode} {id : PoolId} {p : Pool}
    (h : f.hasRoom id mode = true) (hp : f.get? id = some p) (hleaf : p.isLeaf = true) :
    p.ownCount < max p.minLimit p.maxLimit := by
  have hactive := active_of_hasRoom h hp
  have hroom : 0 < (leafRoom mode p (f.budgetAbove id) (f.floorAbove id)).1 := by
    rw [hasRoom, decide_eq_true_eq, room, roomBelow, hp] at h
    simpa only [hactive, hleaf, Bool.not_true, Bool.false_eq_true, if_false, if_true] using h
  unfold leafRoom at hroom
  cases mode with
  | maximum =>
      dsimp only at hroom
      omega
  | minimum =>
      dsimp only at hroom
      split at hroom <;> (dsimp only at hroom; omega)

theorem exists_open_child {f : Forest} (hf : f.WellLinked) {id : PoolId} {p : Pool}
    (h : f.hasRoom id .maximum = true) (hp : f.get? id = some p) (hgroup : p.isLeaf = false) :
    ∃ c ∈ f.children id, f.hasRoom c .maximum = true := by
  obtain ⟨hbudget, hcapacity⟩ := hasRoom_maximum_iff.mp h
  have hactive := active_of_hasRoom h hp
  rw [hf.capacity_of_get hp] at hcapacity
  simp only [Pool.capacityOver, hactive, hgroup, Bool.not_true, Bool.false_eq_true,
    if_false] at hcapacity
  have hboth : 0 < p.maxRoom ∧ 0 < (p.children.map f.capacity).sum := by
    by_cases hmax : p.maxLimit = 0
    · rw [if_pos hmax] at hcapacity
      refine ⟨?_, hcapacity⟩
      simp [Pool.maxRoom, hmax, hgroup, Pool.unbounded]
    · rw [if_neg hmax, Nat.lt_min] at hcapacity
      refine ⟨?_, hcapacity.2⟩
      simpa [Pool.maxRoom, hmax] using hcapacity.1
  obtain ⟨n, hn, hpos⟩ := List.exists_mem_ne_zero_of_sum_ne_zero (Nat.ne_of_gt hboth.2)
  obtain ⟨c, hc, rfl⟩ := List.mem_map.mp hn
  rw [← children_of_get hp] at hc
  refine ⟨c, hc, hasRoom_maximum_iff.mpr ⟨?_, Nat.pos_of_ne_zero hpos⟩⟩
  rw [hf.budgetAbove_of_child hc hp]
  exact Nat.lt_min.mpr ⟨hbudget, hboth.1⟩

/-! ## One entity more -/

/-- The capacity of a pool depends on its subtree only. -/
theorem capacity_congr {f g : Forest} (hf : f.WellLinked) (hg : g.WellLinked) {id : PoolId}
    (h : ∀ x ∈ id :: f.subtree id, g.get? x = f.get? x) : g.capacity id = f.capacity id := by
  induction id using hf.down_induction with
  | step id ih =>
      have hself := h id List.mem_cons_self
      cases hp : f.get? id with
      | none => rw [capacity_of_unknown hp, capacity_of_unknown (hself.trans hp)]
      | some p =>
          rw [hf.capacity_of_get hp, hg.capacity_of_get (hself.trans hp)]
          congr 2
          refine List.map_congr_left ?_
          intro c hc
          rw [← children_of_get hp] at hc
          refine ih c hc (fun x hx => h x (List.mem_cons_of_mem _ ?_))
          rcases List.mem_cons.mp hx with rfl | hx
          · exact hf.subtree_child_subset hc (hf.self_mem_subtree (hf.contains_child hc))
          · exact hf.subtree_child_subset hc hx

/-- A sum in which one member is one less. -/
theorem sum_pred {l : List PoolId} (hl : l.Nodup) {c : PoolId} (hc : c ∈ l) {x y : PoolId → Nat}
    (hself : y c + 1 = x c) (hother : ∀ d ∈ l, d ≠ c → y d = x d) :
    (l.map y).sum + 1 = (l.map x).sum := by
  induction l with
  | nil => cases hc
  | cons d l ih =>
      obtain ⟨hnew, hl⟩ := List.nodup_cons.mp hl
      rw [List.map_cons, List.map_cons, List.sum_cons, List.sum_cons]
      by_cases hd : d = c
      · subst hd
        have hrest : l.map y = l.map x := List.map_congr_left (fun e he =>
          hother e (List.mem_cons_of_mem _ he) (fun same => hnew (same ▸ he)))
        rw [hrest]
        omega
      · have hmem : c ∈ l := (List.mem_cons.mp hc).resolve_left (fun same => hd same.symm)
        have hrest := ih hl hmem (fun e he => hother e (List.mem_cons_of_mem _ he))
        have hhead := hother d List.mem_cons_self hd
        omega

section

variable {f : Forest} (hf : f.WellLinked) {id leaf : PoolId}

include hf

theorem WellLinked.gain (pool : PoolId) : (f.gain pool).WellLinked := by
  have hlinks : Alike Pool.links f (f.gain pool) := (alike_adjust f pool 1 false).through Pool.links
  exact hf.of_alike hlinks

/-- If the child above the leaf loses one, the children together lose one. -/
theorem sum_capacity_gain {c : PoolId} (hc : c ∈ f.children id) (hbelow : leaf ∈ f.subtree c)
    (hchild : (f.gain leaf).capacity c + 1 = f.capacity c) :
    ((f.children id).map (f.gain leaf).capacity).sum + 1 =
      ((f.children id).map f.capacity).sum := by
  have hknown := (hf.mem_subtree.mp hbelow).1
  refine sum_pred (hf.children_nodup id) hc hchild ?_
  intro d hd hne
  have hapart : leaf ∉ f.subtree d := fun h => hne (hf.child_eq_of_mem_subtree hd hc h hbelow)
  refine capacity_congr hf (hf.gain leaf) ?_
  intro x hx
  refine hf.get?_gain_of_not_below hknown (fun h => ?_)
  rcases List.mem_cons.mp hx with rfl | hx
  · exact hapart h
  · exact hapart (hf.subtree_trans hx h)

theorem capacity_gain (hcounts : f.Counts leaf 1) (hleaf : f.OpenLeaf id leaf)
    (hroom : f.hasRoom leaf .maximum = true) :
    (f.gain leaf).capacity id + 1 = f.capacity id := by
  have hknown := (hf.mem_subtree.mp hleaf.below).1
  induction id using hf.down_induction with
  | step id ih =>
      have hid := contains_of_mem_subtree hleaf.below
      obtain ⟨p, hp⟩ := contains_iff.mp hid
      have hactive := hf.active_of_openLeaf hleaf hp
      obtain ⟨q, hq, hsame, hown, htotal⟩ := hf.get?_gain hknown hcounts hleaf.below hp
      have hmaxLimit : q.maxLimit = p.maxLimit := (congrArg Pool.maxLimit hsame :)
      have hchildren : q.children = p.children := (congrArg Pool.children hsame :)
      have hisLeaf : q.isLeaf = p.isLeaf := (congrArg Pool.isLeaf hsame :)
      have hactive' : q.active = true := (congrArg Pool.active hsame :).trans hactive
      rw [hf.capacity_of_get hp, (hf.gain leaf).capacity_of_get hq, Pool.capacityOver,
        Pool.capacityOver, hmaxLimit, hchildren, hisLeaf, hown, htotal, hactive, hactive',
        ← children_of_get hp]
      have hbelow := hleaf.below
      rw [hf.subtree_eq hid] at hbelow
      rcases List.mem_cons.mp hbelow with hself | hbelow
      · -- the leaf itself
        subst hself
        have hchildless := (isLeaf_iff hp).mpr hleaf.childless
        have hlt := own_lt_of_hasRoom hf hroom hp hchildless
        simp only [hchildless, Bool.not_true, Bool.false_eq_true, if_false, if_true]
        omega
      · -- a group: one child loses one, the others stay
        obtain ⟨c, hc, hbelow⟩ := List.mem_flatMap.mp hbelow
        have hchild := ih c hc (hf.openLeaf_child hc hleaf hbelow)
        have hrest := sum_capacity_gain hf hc hbelow hchild
        have hgroup : p.isLeaf = false := by
          rw [Bool.eq_false_iff, ne_eq, isLeaf_iff hp]
          exact List.ne_nil_of_mem hc
        have habove : id ∈ f.ancestors leaf := by
          rcases (hf.mem_subtree.mp hleaf.below).2 with rfl | habove
          · exact absurd hleaf.childless (List.ne_nil_of_mem hc)
          · exact habove
        have hpos := maxRoom_pos_of_hasRoom hroom habove hp
        simp only [hgroup, Bool.not_true, Bool.false_eq_true, if_false]
        by_cases hmax : p.maxLimit = 0
        · rw [if_pos hmax, if_pos hmax]
          exact hrest
        · rw [if_neg hmax, if_neg hmax]
          simp [Pool.maxRoom, hmax] at hpos
          omega

/-- What a pool above leaves, after one more entity below it. -/
theorem maxRoom_gain (hcounts : f.Counts leaf 1) {g : PoolId} (hg : g ∈ f.ancestors leaf)
    (hknown : f.contains leaf = true) (hroom : f.hasRoom leaf .maximum = true) {p : Pool}
    (hp : f.get? g = some p) :
    ∃ q, (f.gain leaf).get? g = some q ∧
      (q.maxRoom = Pool.unbounded ∧ p.maxRoom = Pool.unbounded ∨ q.maxRoom + 1 = p.maxRoom) := by
  have hbelow := (hf.mem_path_iff hknown).mp (List.mem_cons_of_mem leaf hg)
  have hpos := maxRoom_pos_of_hasRoom hroom hg hp
  obtain ⟨q, hq, hsame, -, htotal⟩ := hf.get?_gain hknown hcounts hbelow hp
  have hmaxLimit : q.maxLimit = p.maxLimit := (congrArg Pool.maxLimit hsame :)
  have hisLeaf : q.isLeaf = p.isLeaf := (congrArg Pool.isLeaf hsame :)
  refine ⟨q, hq, ?_⟩
  unfold Pool.maxRoom at hpos ⊢
  rw [hmaxLimit, hisLeaf, htotal]
  by_cases hunbounded : (p.maxLimit = 0 && !p.isLeaf) = true
  · rw [if_pos hunbounded, if_pos hunbounded]
    exact .inl ⟨rfl, rfl⟩
  · rw [if_neg hunbounded] at hpos ⊢
    rw [if_neg hunbounded]
    omega

/-- What the pools above leave falls by one at most, and by just one unless it is unbounded. -/
theorem budgetAbove_gain (hcounts : f.Counts leaf 1) (hbelow : leaf ∈ f.subtree id)
    (hroom : f.hasRoom leaf .maximum = true) :
    (f.gain leaf).budgetAbove id ≤ f.budgetAbove id ∧
      f.budgetAbove id ≤ (f.gain leaf).budgetAbove id + 1 ∧
      (f.budgetAbove id < Pool.unbounded →
        (f.gain leaf).budgetAbove id + 1 = f.budgetAbove id) := by
  obtain ⟨hknown, hup⟩ := hf.mem_subtree.mp hbelow
  have hlinks : Alike Pool.links f (f.gain leaf) := (alike_adjust f leaf 1 false).through Pool.links
  -- each pool above is unbounded before and after, or its room falls by one
  have hstep : ∀ {g p}, g ∈ f.ancestors id → f.get? g = some p →
      ∃ q, (f.gain leaf).get? g = some q ∧
        (q.maxRoom = Pool.unbounded ∧ p.maxRoom = Pool.unbounded ∨ q.maxRoom + 1 = p.maxRoom) := by
    intro g p hg hp
    refine maxRoom_gain hf hcounts ?_ hknown hroom hp
    rcases hup with rfl | hup
    · exact hg
    · exact hf.ancestors_subset hup hg
  have hbefore := le_budgetAbove.mp (Nat.le_refl (f.budgetAbove id))
  have hafter := le_budgetAbove.mp (Nat.le_refl ((f.gain leaf).budgetAbove id))
  have hfall : f.budgetAbove id - 1 ≤ (f.gain leaf).budgetAbove id := by
    refine le_budgetAbove.mpr ⟨by omega, fun g hg q hq => ?_⟩
    rw [← hlinks.ancestors] at hg
    obtain ⟨p, hp⟩ := contains_iff.mp (hf.contains_ancestor hg)
    obtain ⟨q', hq', hroomLeft⟩ := hstep hg hp
    obtain rfl := Option.some.inj (hq'.symm.trans hq)
    have hp' := hbefore.2 g hg p hp
    omega
  have hmono : (f.gain leaf).budgetAbove id ≤ f.budgetAbove id := by
    refine le_budgetAbove.mpr ⟨hafter.1, fun g hg p hp => ?_⟩
    obtain ⟨q, hq, hroomLeft⟩ := hstep hg hp
    rw [hlinks.ancestors] at hg
    have hq' := hafter.2 g hg q hq
    omega
  refine ⟨hmono, by omega, fun hbounded => Nat.le_antisymm ?_ (by omega)⟩
  refine le_budgetAbove.mpr ⟨by omega, fun g hg p hp => ?_⟩
  obtain ⟨q, hq, hroomLeft⟩ := hstep hg hp
  rw [hlinks.ancestors] at hg
  have hq' := hafter.2 g hg q hq
  omega

/-- The room of a pool falls by one at most. -/
theorem room_le_gain (hcounts : f.Counts leaf 1) (hleaf : f.OpenLeaf id leaf)
    (hroom : f.hasRoom leaf .maximum = true) :
    f.room id .maximum ≤ (f.gain leaf).room id .maximum + 1 := by
  have hcapacity := capacity_gain hf hcounts hleaf hroom
  have hbudget := budgetAbove_gain hf hcounts hleaf.below hroom
  rw [room_eq_min, room_eq_min]
  omega

/-- It falls by just one unless it is unbounded. -/
theorem room_gain (hcounts : f.Counts leaf 1) (hleaf : f.OpenLeaf id leaf)
    (hroom : f.hasRoom leaf .maximum = true)
    (hsmall : f.capacity id ≤ Pool.unbounded ∨ f.room id .maximum < Pool.unbounded) :
    (f.gain leaf).room id .maximum + 1 = f.room id .maximum := by
  have hcapacity := capacity_gain hf hcounts hleaf hroom
  have hbudget := budgetAbove_gain hf hcounts hleaf.below hroom
  have hle := f.budgetAbove_le id
  rw [room_eq_min] at hsmall
  rw [room_eq_min, room_eq_min]
  omega

end

end SpawnForest.Forest
