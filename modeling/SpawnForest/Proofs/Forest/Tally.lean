import SpawnForest.Proofs.Forest.Spending

/-!
# One entity more

Counting an entity is a step up on a whole way, from the leaf to the top of its
hierarchy. `CountsOneMore` compares two forests that are one such step apart,
without saying which of them came first, so that it serves for a spawn and for a
death. A step up that was made in full is taken back by the step down exactly
(`WellLinked.lose_gain`).
-/

namespace SpawnForest.Forest

/-- A forest counts one entity of a leaf more than another one: the own count of the leaf is one
higher, the totals of the leaf and of every pool above it are, and all else is the same. -/
structure CountsOneMore (f g : Forest) (leaf : PoolId) : Prop where
  rest : Alike Pool.uncounted f g
  counts : ∀ id p q, f.get? id = some p → g.get? id = some q →
    q.ownCount = p.ownCount + (if id = leaf then 1 else 0) ∧
      q.totalCount = p.totalCount + (if id ∈ leaf :: f.ancestors leaf then 1 else 0)

theorem CountsOneMore.totalCount {f g : Forest} {leaf : PoolId} (h : CountsOneMore f g leaf)
    (hf : f.WellLinked) {id : PoolId} (hbelow : leaf ∈ f.subtree id) :
    g.totalCount id = f.totalCount id + 1 := by
  obtain ⟨hleaf, -⟩ := hf.mem_subtree.mp hbelow
  obtain ⟨p, hp⟩ := contains_iff.mp (contains_of_mem_subtree hbelow)
  obtain ⟨q, hq, -⟩ := h.rest.find hp
  rw [totalCount_of_get hp, totalCount_of_get hq, (h.counts id p q hp hq).2,
    if_pos ((hf.mem_path_iff hleaf).mpr hbelow)]

section

variable {f : Forest} (hf : f.WellLinked) {leaf : PoolId} (hleaf : f.contains leaf = true)

include hf hleaf

/-- What a step that is made in full does to the counts of a pool. -/
theorem WellLinked.counts_adjust {delta : Int} (hcounts : f.Counts leaf delta) {id : PoolId}
    {p q : Pool} (hp : f.get? id = some p) (hq : (f.adjust leaf delta false).get? id = some q) :
    (q.ownCount : Int) = p.ownCount + (if id = leaf then delta else 0) ∧
      (q.totalCount : Int) =
        p.totalCount + (if id ∈ leaf :: f.ancestors leaf then delta else 0) := by
  rw [hf.get?_adjust hleaf, hp] at hq
  obtain rfl := Option.some.inj hq
  simp only [recount, ← hf.mem_path_iff hleaf]
  by_cases hpath : id ∈ leaf :: f.ancestors leaf
  · obtain ⟨htotal, hown⟩ := hcounts id hpath p hp
    rw [if_pos hpath, if_pos hpath]
    refine ⟨?_, htotal⟩
    by_cases hself : id = leaf
    · rw [if_pos hself, if_pos hself]
      exact hown hself
    · rw [if_neg hself, if_neg hself, Int.add_zero]
  · have hne : id ≠ leaf := fun h => hpath (h ▸ List.mem_cons_self)
    simp [hne, hpath]

theorem WellLinked.countsOneMore_gain (hcounts : f.Counts leaf 1) :
    CountsOneMore f (f.gain leaf) leaf := by
  refine ⟨f.alike_adjust leaf 1 false, fun id p q hp hq => ?_⟩
  obtain ⟨hown, htotal⟩ := hf.counts_adjust hleaf hcounts hp hq
  constructor
  · split_ifs at hown ⊢ <;> omega
  · split_ifs at htotal ⊢ <;> omega

theorem WellLinked.countsOneMore_lose (hcounts : f.Counts leaf (-1)) :
    CountsOneMore (f.lose leaf) f leaf := by
  have hlinks : Alike Pool.links f (f.lose leaf) :=
    (f.alike_adjust leaf (-1) false).through Pool.links
  refine ⟨(f.alike_adjust leaf (-1) false).symm, fun id q p hq hp => ?_⟩
  rw [← hlinks.ancestors]
  obtain ⟨hown, htotal⟩ := hf.counts_adjust hleaf hcounts hp hq
  constructor
  · split_ifs at hown ⊢ <;> omega
  · split_ifs at htotal ⊢ <;> omega

end

theorem bump_back {n : Nat} (h : (bump n 1 : Int) = n + 1) : bump (bump n 1) (-1) = n := by
  have hnext : bump n 1 = n + 1 := by omega
  have hless : n + 1 ≤ 2 ^ 32 := by
    unfold bump at h
    dsimp only at h
    split at h <;> simp only [Bool.and_eq_true, decide_eq_true_eq] at * <;> omega
  rw [hnext, bump_neg_one hless]
  omega

/-- A step up that was made in full is taken back by a step down. -/
theorem WellLinked.lose_gain {f : Forest} (hf : f.WellLinked) {leaf : PoolId}
    (hcounts : f.Counts leaf 1) : (f.gain leaf).lose leaf = f := by
  cases hleaf : f.contains leaf with
  | false =>
      have hsame : ∀ delta, f.adjust leaf delta false = f := fun delta => by
        rw [adjust, if_neg (Bool.eq_false_iff.mp hleaf)]
      rw [lose, Forest.gain, hsame, hsame]
  | true =>
      have hlinks : Alike Pool.links f (f.gain leaf) :=
        (f.alike_adjust leaf 1 false).through Pool.links
      have hgained : (f.gain leaf).contains leaf = true := by rwa [← hlinks.contains]
      refine congrArg Forest.mk (Table.ext_get? (fun id => ?_))
      show ((f.gain leaf).lose leaf).get? id = f.get? id
      rw [lose, (hf.gain leaf).get?_adjust hgained, Forest.gain, hf.get?_adjust hleaf,
        Option.map_map]
      cases hp : f.get? id with
      | none => rfl
      | some p =>
          refine congrArg some ?_
          have hsubtree : (f.adjust leaf 1 false).subtree id = f.subtree id :=
            (hlinks.subtree id).symm
          simp only [Function.comp, recount, hsubtree, ← hf.mem_path_iff hleaf]
          by_cases hpath : id ∈ leaf :: f.ancestors leaf
          · obtain ⟨htotal, hown⟩ := hcounts id hpath p hp
            rw [if_pos hpath, if_pos hpath, bump_back htotal]
            by_cases hself : id = leaf
            · rw [if_pos hself, if_pos hself, bump_back (hown hself)]
            · rw [if_neg hself, if_neg hself]
          · have hne : id ≠ leaf := fun h => hpath (h ▸ List.mem_cons_self)
            simp only [hpath, hne, if_false]

end SpawnForest.Forest
