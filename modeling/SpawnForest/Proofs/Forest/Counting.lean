import Mathlib.Algebra.Ring.Nat
import SpawnForest.Forest.Counts
import SpawnForest.Proofs.Forest.Subtree

/-!
# Counting up and down

`gain` and `lose` touch the two counts of pools and nothing else, so a forest
looks the same after them through every view without counts (`alike_adjust`).
Which counts they touch is said from the side of the counting pool: its total
moves if the pool that gained or lost lies in its subtree (`get?_adjust`).
-/

namespace SpawnForest

/-- A pool without its counts. -/
def Pool.uncounted (p : Pool) : Pool := { p with ownCount := 0, totalCount := 0 }

/-- A pool is what it is apart from its counts, and its counts. -/
theorem Pool.eq_of_uncounted {p q : Pool} (h : p.uncounted = q.uncounted)
    (hown : p.ownCount = q.ownCount) (htotal : p.totalCount = q.totalCount) : p = q := by
  have hp : p = { p.uncounted with ownCount := p.ownCount, totalCount := p.totalCount } := rfl
  rw [hp, h, hown, htotal]
  rfl

namespace Forest

theorem bump_le (n : Nat) (delta : Int) : bump n delta ≤ n + delta.toNat := by
  rw [bump]
  split <;> omega

theorem bump_one {n : Nat} (h : n + 1 < 2 ^ 32) : bump n 1 = n + 1 := by
  unfold bump
  rw [if_pos (by simp only [Bool.and_eq_true, decide_eq_true_eq]; omega)]
  omega

/-- Nothing is counted off from a count of zero. -/
theorem bump_neg_one {n : Nat} (h : n ≤ 2 ^ 32) : bump n (-1) = n - 1 := by
  unfold bump
  dsimp only
  split <;> simp only [Bool.and_eq_true, decide_eq_true_eq] at * <;> omega

theorem bump_lt {n : Nat} (h : n < 2 ^ 32) (delta : Int) : bump n delta < 2 ^ 32 := by
  unfold bump
  dsimp only
  split <;> simp only [Bool.and_eq_true, decide_eq_true_eq] at * <;> omega

/-- A pool after an entity of the pool `id` was gained or lost. -/
def recount (f : Forest) (id : PoolId) (delta : Int) (key : PoolId) (p : Pool) : Pool :=
  { p with
    ownCount := if key = id then bump p.ownCount delta else p.ownCount
    totalCount := if id ∈ f.subtree key then bump p.totalCount delta else p.totalCount }

theorem alike_adjust (f : Forest) (id : PoolId) (delta : Int) (totalsOnly : Bool) :
    Alike Pool.uncounted f (f.adjust id delta totalsOnly) := by
  unfold adjust
  split
  · exact alike_map (fun key p _ => rfl)
  · exact .refl _ f

theorem WellLinked.get?_adjust {f : Forest} (hf : f.WellLinked) {id : PoolId}
    (hid : f.contains id = true) (delta : Int) (key : PoolId) :
    (f.adjust id delta false).get? key = (f.get? key).map (f.recount id delta key) := by
  rw [adjust, if_pos hid]
  simp only [get?, Table.get?_map]
  refine congrArg (fun change => Option.map change (f.pools.get? key)) (funext ?_)
  intro p
  have hpath : (id :: f.ancestors id).contains key = true ↔ id ∈ f.subtree key := by
    simp [hf.mem_path_iff hid]
  rw [recount, ← if_congr hpath rfl rfl]
  simp only [Bool.not_false, Bool.and_true, decide_eq_true_eq]

/-- Every pool after a step of the counts was there before it, and was recounted. -/
theorem WellLinked.find_adjust {f : Forest} (hf : f.WellLinked) {id key : PoolId} {delta : Int}
    (hid : f.contains id = true) {q : Pool} (hq : (f.adjust id delta false).get? key = some q) :
    ∃ p, f.get? key = some p ∧ q = f.recount id delta key p := by
  rw [hf.get?_adjust hid] at hq
  obtain ⟨p, hp, rfl⟩ := Option.map_eq_some_iff.mp hq
  exact ⟨p, hp, rfl⟩

/-- A step of the counts on the way up from a pool is made in full. -/
def Counts (f : Forest) (id : PoolId) (delta : Int) : Prop :=
  ∀ key ∈ id :: f.ancestors id, ∀ p, f.get? key = some p →
    (bump p.totalCount delta : Int) = p.totalCount + delta ∧
      (key = id → (bump p.ownCount delta : Int) = p.ownCount + delta)

section

variable {f : Forest} (hf : f.WellLinked) {id key : PoolId}

include hf

/-- A pool that the one that counts does not lie below is not touched. -/
theorem WellLinked.get?_adjust_of_not_below (hid : f.contains id = true)
    (hkey : id ∉ f.subtree key) (delta : Int) :
    (f.adjust id delta false).get? key = f.get? key := by
  have hne : key ≠ id := by
    rintro rfl
    exact hkey (hf.self_mem_subtree hid)
  have hsame : f.recount id delta key = fun p => p := by
    funext p
    rw [recount, if_neg hne, if_neg hkey]
  simp [hf.get?_adjust hid, hsame]

theorem WellLinked.get?_gain_of_not_below (hid : f.contains id = true) (hkey : id ∉ f.subtree key) :
    (f.gain id).get? key = f.get? key :=
  hf.get?_adjust_of_not_below hid hkey 1

/-- The pool that gained one, or a group above it. -/
theorem WellLinked.get?_gain (hid : f.contains id = true) (hcounts : f.Counts id 1)
    (hkey : id ∈ f.subtree key) {p : Pool} (hp : f.get? key = some p) :
    ∃ q, (f.gain id).get? key = some q ∧ q.uncounted = p.uncounted ∧
      q.ownCount = (if key = id then p.ownCount + 1 else p.ownCount) ∧
      q.totalCount = p.totalCount + 1 := by
  obtain ⟨htotal, hown⟩ := hcounts key ((hf.mem_path_iff hid).mpr hkey) p hp
  refine ⟨f.recount id 1 key p, ?_, rfl, ?_, ?_⟩
  · simp [gain, hf.get?_adjust hid, hp]
  · show (if key = id then bump p.ownCount 1 else p.ownCount) = _
    by_cases hself : key = id
    · have hbump := hown hself
      rw [if_pos hself, if_pos hself]
      omega
    · rw [if_neg hself, if_neg hself]
  · show (if id ∈ f.subtree key then bump p.totalCount 1 else p.totalCount) = _
    rw [if_pos hkey]
    omega

end

/-- A total either stays or takes the step, and it stays unless the pool that counts lies below. -/
theorem WellLinked.totalCount_adjust {f : Forest} (hf : f.WellLinked) {id key : PoolId}
    {delta : Int} {p q : Pool} (hp : f.get? key = some p)
    (hq : (f.adjust id delta false).get? key = some q) :
    q.totalCount = p.totalCount ∨
      id ∈ f.subtree key ∧ q.totalCount = bump p.totalCount delta := by
  cases hid : f.contains id with
  | false =>
      rw [adjust, hid] at hq
      obtain rfl := Option.some.inj (hp.symm.trans hq)
      exact .inl rfl
  | true =>
      rw [hf.get?_adjust hid, hp] at hq
      obtain rfl := Option.some.inj hq
      show (if id ∈ f.subtree key then bump p.totalCount delta else p.totalCount) = _ ∨ _ ∧
        (if id ∈ f.subtree key then bump p.totalCount delta else p.totalCount) = _
      by_cases hmem : id ∈ f.subtree key
      · exact .inr ⟨hmem, if_pos hmem⟩
      · exact .inl (if_neg hmem)

/-- The own count either stays or takes the step, and it stays unless it is the one of the pool that
counts. -/
theorem WellLinked.ownCount_adjust {f : Forest} (hf : f.WellLinked) {id key : PoolId} {delta : Int}
    {p q : Pool} (hp : f.get? key = some p) (hq : (f.adjust id delta false).get? key = some q) :
    q.ownCount = p.ownCount ∨ key = id ∧ q.ownCount = bump p.ownCount delta := by
  cases hid : f.contains id with
  | false =>
      rw [adjust, hid] at hq
      obtain rfl := Option.some.inj (hp.symm.trans hq)
      exact .inl rfl
  | true =>
      rw [hf.get?_adjust hid, hp] at hq
      obtain rfl := Option.some.inj hq
      show (if key = id then bump p.ownCount delta else p.ownCount) = _ ∨ _ ∧
        (if key = id then bump p.ownCount delta else p.ownCount) = _
      by_cases hself : key = id
      · exact .inr ⟨hself, if_pos hself⟩
      · exact .inl (if_neg hself)

/-! ## Totals -/

/-- What the subtree of a pool has spawned, nothing if the pool is unknown. -/
def totalCount (f : Forest) (id : PoolId) : Nat := ((f.get? id).map (·.totalCount)).getD 0

theorem totalCount_of_get {f : Forest} {id : PoolId} {p : Pool} (hp : f.get? id = some p) :
    f.totalCount id = p.totalCount := by
  rw [totalCount, hp]
  rfl

section

variable {f : Forest} (hf : f.WellLinked) {id key : PoolId}

include hf

/-- A step below a pool is a step of its total. -/
theorem WellLinked.totalCount_adjust_below (hbelow : id ∈ f.subtree key) (delta : Int) :
    (f.adjust id delta false).totalCount key = bump (f.totalCount key) delta := by
  obtain ⟨p, hp⟩ := contains_iff.mp (contains_of_mem_subtree hbelow)
  have hadjusted := hf.get?_adjust (hf.mem_subtree.mp hbelow).1 delta key
  rw [hp] at hadjusted
  rw [totalCount_of_get hadjusted, totalCount_of_get hp]
  exact if_pos hbelow

theorem WellLinked.totalCount_gain (hbelow : id ∈ f.subtree key)
    (hsmall : f.totalCount key + 1 < 2 ^ 32) :
    (f.gain id).totalCount key = f.totalCount key + 1 := by
  rw [gain, hf.totalCount_adjust_below hbelow, bump_one hsmall]

theorem WellLinked.totalCount_lose (hbelow : id ∈ f.subtree key)
    (hsmall : f.totalCount key ≤ 2 ^ 32) :
    (f.lose id).totalCount key = f.totalCount key - 1 := by
  rw [lose, hf.totalCount_adjust_below hbelow, bump_neg_one hsmall]

end

end Forest

end SpawnForest
