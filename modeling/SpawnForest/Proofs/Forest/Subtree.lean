import SpawnForest.Proofs.Forest.Links

/-!
# Subtrees

The walk down carries a bound on its depth as well. A pool with `n` pools above
it has at most `f.size - n` levels below it, so the bound of `subtree` is never
reached and the subtree of a pool is the pool followed by the subtrees of its
children (`subtree_eq`).

What is in a subtree is settled from the other end: a pool lies below another
one if that one is on its way up (`mem_subtree`). Since a way up passes each
level once, subtrees of different children are disjoint, and a subtree lists
every pool once (`nodup_subtree`).
-/

namespace SpawnForest.Forest

/-! ## The walk down -/

section

variable {f : Forest} (hf : f.WellLinked)

include hf

theorem WellLinked.ancestors_of_child {c q : PoolId} (h : c ∈ f.children q) :
    f.ancestors c = q :: f.ancestors q :=
  hf.ancestors_of_parent (hf.child_iff.mp h)

theorem WellLinked.length_ancestors_of_child {c q : PoolId} (h : c ∈ f.children q) :
    (f.ancestors c).length = (f.ancestors q).length + 1 := by
  rw [hf.ancestors_of_child h, List.length_cons]

/-- Bounds that leave room for every level give the same walk, whatever it collects. -/
theorem WellLinked.walk_eq {α : Type} {walk : Nat → PoolId → α} {join : PoolId → List α → α}
    (hwalk : ∀ bound id, walk (bound + 1) id = join id ((f.children id).map (walk bound)))
    {n m : Nat} {id : PoolId} (hid : f.contains id = true)
    (hn : f.size ≤ n + (f.ancestors id).length) (hm : f.size ≤ m + (f.ancestors id).length) :
    walk n id = walk m id := by
  have hlevel := hf.length_ancestors_lt hid
  induction n generalizing m id with
  | zero => omega
  | succ n ih =>
      cases m with
      | zero => omega
      | succ m =>
          rw [hwalk, hwalk]
          congr 1
          refine List.map_congr_left ?_
          intro c hc
          have hcid := hf.contains_child hc
          have hlength := hf.length_ancestors_of_child hc
          exact ih hcid (by omega) (by omega) (hf.length_ancestors_lt hcid)

/-- From the bound of the forest on, a walk down has an equation without any bound. -/
theorem WellLinked.walk_unfold {α : Type} {walk : Nat → PoolId → α} (join : PoolId → List α → α)
    (hwalk : ∀ bound id, walk (bound + 1) id = join id ((f.children id).map (walk bound)))
    (id : PoolId) :
    walk (f.size + 1) id = join id ((f.children id).map (walk (f.size + 1))) := by
  rw [hwalk]
  congr 1
  refine List.map_congr_left ?_
  intro c hc
  have hlength := hf.length_ancestors_of_child hc
  exact hf.walk_eq hwalk (hf.contains_child hc) (by omega) (by omega)

/-- Only groups stand above other pools. -/
theorem WellLinked.exists_child_of_ancestor {id g : PoolId} (hg : g ∈ f.ancestors id) :
    ∃ c, c ∈ f.children g := by
  induction id using hf.up_induction with
  | step id ih =>
      cases hq : f.parent? id with
      | none => rw [ancestors_of_top hq] at hg; cases hg
      | some q =>
          rw [hf.ancestors_of_parent hq] at hg
          rcases List.mem_cons.mp hg with rfl | hg
          · exact ⟨id, hf.child_iff.mpr hq⟩
          · exact ih q hq hg

omit hf in
theorem subtree_of_unknown {id : PoolId} (h : f.contains id = false) : f.subtree id = [] := by
  rw [subtree, if_neg (by simp [h])]

omit hf in
theorem contains_of_mem_subtree {id x : PoolId} (hx : x ∈ f.subtree id) :
    f.contains id = true := by
  cases hid : f.contains id with
  | false => rw [subtree_of_unknown hid] at hx; cases hx
  | true => rfl

theorem WellLinked.subtree_eq {id : PoolId} (h : f.contains id = true) :
    f.subtree id = id :: (f.children id).flatMap f.subtree := by
  have hwalk : ∀ bound id, f.descend (bound + 1) id =
      id :: ((f.children id).map (f.descend bound)).flatten := by
    intro bound id
    rw [descend, List.flatMap_def]
  rw [subtree, if_pos h, hf.walk_unfold (fun id below => id :: below.flatten) hwalk id,
    List.flatMap_def]
  congr 2
  refine List.map_congr_left ?_
  intro c hc
  rw [subtree, if_pos (hf.contains_child hc)]

/-- What holds of a pool as soon as it holds of its children holds of every pool. -/
theorem WellLinked.down_induction {P : PoolId → Prop}
    (step : ∀ id, (∀ c ∈ f.children id, P c) → P id) (id : PoolId) : P id := by
  induction hn : f.size - (f.ancestors id).length using Nat.strongRecOn generalizing id with
  | _ n ih =>
      refine step id (fun c hc => ih (f.size - (f.ancestors c).length) ?_ c rfl)
      have hlevel := hf.length_ancestors_lt (hf.contains_child hc)
      rw [hf.ancestors_of_child hc, List.length_cons] at hlevel ⊢
      omega

/-! ## Membership -/

theorem WellLinked.self_mem_subtree {id : PoolId} (h : f.contains id = true) :
    id ∈ f.subtree id := by
  rw [hf.subtree_eq h]
  exact List.mem_cons_self

theorem WellLinked.mem_subtree_of_child {id x c : PoolId} (hx : x ∈ f.subtree id)
    (hc : c ∈ f.children x) : c ∈ f.subtree id := by
  induction id using hf.down_induction with
  | step id ih =>
      have hid := contains_of_mem_subtree hx
      rw [hf.subtree_eq hid] at hx ⊢
      rcases List.mem_cons.mp hx with rfl | hx
      · refine List.mem_cons_of_mem _ (List.mem_flatMap.mpr ⟨c, hc, ?_⟩)
        exact hf.self_mem_subtree (hf.contains_child hc)
      · obtain ⟨d, hd, hx⟩ := List.mem_flatMap.mp hx
        exact List.mem_cons_of_mem _ (List.mem_flatMap.mpr ⟨d, hd, ih d hd hx⟩)

/-- The subtree of a pool holds the pools that have it on their way up. -/
theorem WellLinked.mem_subtree {id x : PoolId} :
    x ∈ f.subtree id ↔ f.contains x = true ∧ (x = id ∨ id ∈ f.ancestors x) := by
  constructor
  · intro hx
    induction id using hf.down_induction with
    | step id ih =>
        have hid := contains_of_mem_subtree hx
        rw [hf.subtree_eq hid] at hx
        rcases List.mem_cons.mp hx with rfl | hx
        · exact ⟨hid, .inl rfl⟩
        · obtain ⟨c, hc, hx⟩ := List.mem_flatMap.mp hx
          obtain ⟨hknown, hup⟩ := ih c hc hx
          refine ⟨hknown, .inr ?_⟩
          have hmem : id ∈ f.ancestors c := by
            rw [hf.ancestors_of_child hc]
            exact List.mem_cons_self
          rcases hup with rfl | hup
          · exact hmem
          · exact hf.ancestors_subset hup hmem
  · rintro ⟨hknown, hup⟩
    induction x using hf.up_induction with
    | step x ih =>
        rcases hup with rfl | hup
        · exact hf.self_mem_subtree hknown
        · cases hq : f.parent? x with
          | none => rw [ancestors_of_top hq] at hup; cases hup
          | some q =>
              rw [hf.ancestors_of_parent hq] at hup
              have hmem : q ∈ f.subtree id := by
                refine ih q hq (hf.contains_parent hq) ?_
                rcases List.mem_cons.mp hup with rfl | hup
                · exact .inl rfl
                · exact .inr hup
              exact hf.mem_subtree_of_child hmem (hf.child_iff.mpr hq)

/-- The way up of a pool passes the pools whose subtrees hold it. -/
theorem WellLinked.mem_path_iff {id a : PoolId} (h : f.contains id = true) :
    a ∈ id :: f.ancestors id ↔ id ∈ f.subtree a := by
  rw [hf.mem_subtree, List.mem_cons]
  constructor
  · rintro (rfl | hup)
    · exact ⟨h, .inl rfl⟩
    · exact ⟨h, .inr hup⟩
  · rintro ⟨-, rfl | hup⟩
    · exact .inl rfl
    · exact .inr hup

theorem WellLinked.subtree_trans {id x y : PoolId} (hx : x ∈ f.subtree id) (hy : y ∈ f.subtree x) :
    y ∈ f.subtree id := by
  obtain ⟨-, hup⟩ := hf.mem_subtree.mp hx
  obtain ⟨hknown, hup'⟩ := hf.mem_subtree.mp hy
  refine hf.mem_subtree.mpr ⟨hknown, ?_⟩
  rcases hup' with rfl | hup'
  · exact hup
  · rcases hup with rfl | hup
    · exact .inr hup'
    · exact .inr (hf.ancestors_subset hup' hup)

/-- No pool lies both above another one and below it. -/
theorem WellLinked.not_mem_subtree_of_above {id pool : PoolId} (h : id ∈ f.ancestors pool) :
    id ∉ f.subtree pool := by
  have hnever := fun x => (List.nodup_cons.mp (hf.nodup_path x)).1
  intro hmem
  rcases (hf.mem_subtree.mp hmem).2 with rfl | hup
  · exact hnever id h
  · exact hnever id (hf.ancestors_subset hup h)

/-- Subtrees are apart if neither of their tops lies in the other. -/
theorem WellLinked.not_mem_subtree_of_apart {id pool x : PoolId} (hbelow : id ∉ f.subtree pool)
    (habove : id ∉ f.ancestors pool) (hx : x ∈ f.subtree id) : x ∉ f.subtree pool := by
  induction x using hf.up_induction with
  | step x ih =>
      intro hx'
      rcases (hf.mem_subtree.mp hx).2 with rfl | hup
      · exact hbelow hx'
      rcases (hf.mem_subtree.mp hx').2 with rfl | hup'
      · exact habove hup
      cases hq : f.parent? x with
      | none => rw [ancestors_of_top hq] at hup; cases hup
      | some q =>
          rw [hf.ancestors_of_parent hq] at hup hup'
          have hknown := hf.contains_parent hq
          exact ih q hq ((hf.mem_path_iff hknown).mp hup) ((hf.mem_path_iff hknown).mp hup')

/-! ## Every pool once -/

/-- A way up passes each level once. -/
theorem WellLinked.eq_of_level_eq {x a b : PoolId} (ha : a ∈ x :: f.ancestors x)
    (hb : b ∈ x :: f.ancestors x) (hlevel : (f.ancestors a).length = (f.ancestors b).length) :
    a = b := by
  have above : ∀ y z, z ∈ f.ancestors y → (f.ancestors z).length < (f.ancestors y).length := by
    intro y
    induction y using hf.up_induction with
    | step y ih =>
        intro z hz
        cases hq : f.parent? y with
        | none => rw [ancestors_of_top hq] at hz; cases hz
        | some q =>
            rw [hf.ancestors_of_parent hq] at hz ⊢
            rw [List.length_cons]
            rcases List.mem_cons.mp hz with rfl | hz
            · exact Nat.lt_succ_self _
            · exact Nat.lt_succ_of_lt (ih q hq z hz)
  induction x using hf.up_induction with
  | step x ih =>
      rcases List.mem_cons.mp ha with rfl | hau
      · rcases List.mem_cons.mp hb with rfl | hbu
        · rfl
        · exact absurd (above _ _ hbu) (by omega)
      · rcases List.mem_cons.mp hb with rfl | hbu
        · exact absurd (above _ _ hau) (by omega)
        · cases hq : f.parent? x with
          | none => rw [ancestors_of_top hq] at hau; cases hau
          | some q =>
              rw [hf.ancestors_of_parent hq] at hau hbu
              exact ih q hq hau hbu

/-- Subtrees of different children of one pool have no pool in common. -/
theorem WellLinked.child_eq_of_mem_subtree {q c d x : PoolId} (hc : c ∈ f.children q)
    (hd : d ∈ f.children q) (hxc : x ∈ f.subtree c) (hxd : x ∈ f.subtree d) : c = d := by
  have hx := (hf.mem_subtree.mp hxc).1
  refine hf.eq_of_level_eq ((hf.mem_path_iff hx).mpr hxc) ((hf.mem_path_iff hx).mpr hxd) ?_
  rw [hf.ancestors_of_child hc, hf.ancestors_of_child hd]

theorem WellLinked.not_mem_subtree_child {c q : PoolId} (hc : c ∈ f.children q) :
    q ∉ f.subtree c := by
  intro hmem
  have hup : q ∈ f.ancestors c := by
    rw [hf.ancestors_of_child hc]
    exact List.mem_cons_self
  have hself : q ∈ f.ancestors q := by
    rcases (hf.mem_subtree.mp hmem).2 with rfl | h
    · exact hup
    · exact hf.ancestors_subset h hup
  exact hf.not_mem_climb _ q hself

theorem WellLinked.nodup_subtree (id : PoolId) : (f.subtree id).Nodup := by
  induction id using hf.down_induction with
  | step id ih =>
      cases hid : f.contains id with
      | false => rw [subtree_of_unknown hid]; exact .nil
      | true =>
          rw [hf.subtree_eq hid]
          refine List.nodup_cons.mpr ⟨?_, List.nodup_flatMap.mpr ⟨ih, ?_⟩⟩
          · intro hmem
            obtain ⟨c, hc, hmem⟩ := List.mem_flatMap.mp hmem
            exact hf.not_mem_subtree_child hc hmem
          · refine (hf.children_nodup id).imp_of_mem (fun hc hd hne => ?_)
            intro x hxc hxd
            exact hne (hf.child_eq_of_mem_subtree hc hd hxc hxd)

end

end SpawnForest.Forest
