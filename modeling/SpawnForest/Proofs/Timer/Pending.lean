import SpawnForest.Proofs.Table.Views
import SpawnForest.Timer.Schedule

/-!
# Pending timers

How many timers are pending for a root, before and after one is stored or
taken out. A key has at most one timer of a kind, so that storing one adds to
the number only if its key is new (`pendingForRoot_add_of_new`). If the key has
a timer, one of the two stays, and the number does not go up.

Only the tables of timers are counted. The buckets of the regions repeat their
keys and have no say in it.
-/

namespace SpawnForest

namespace TimerIndex

variable (x : TimerIndex) (t : Timer) (key : TimerKey) (q : Timer → Bool)

theorem timers_erase : (x.erase key).timers = x.timers.erase key := by
  unfold erase
  cases ht : x.timers.get? key with
  | none => exact (Table.erase_of_get?_eq_none ht).symm
  | some t => rfl

theorem countP_le_erase : x.all.countP q ≤ (x.erase key).all.countP q + 1 := by
  rw [all, all, timers_erase]
  cases ht : x.timers.get? key with
  | none =>
      rw [Table.erase_of_get?_eq_none ht]
      exact Nat.le_succ _
  | some t =>
      have hcount := Table.countP_erase ht q
      have hone := (q t).toNat_le
      omega

theorem countP_put :
    (x.put t).all.countP q = (x.timers.erase t.key).values.countP q + (q t).toNat := by
  have hstored : (x.put t).timers = (x.timers.erase t.key).insert t.key t := by
    rw [← timers_erase]
    rfl
  rw [all, hstored]
  exact Table.countP_insert (Table.get?_erase_self _ _) t q

variable {x t q}

theorem countP_add_of_new (hnew : x.get? t.key = none) (hq : q t = true) (replace : Bool) :
    (x.add t replace).all.countP q = x.all.countP q + 1 := by
  have haccepted : x.accepts t replace = true := by
    unfold accepts
    rw [hnew]
  have hsame : x.timers.erase t.key = x.timers := Table.erase_of_get?_eq_none hnew
  rw [add, if_pos haccepted, countP_put, hq, hsame]
  rfl

/-- A timer that is counted makes up for the one whose place it takes. -/
theorem countP_le_add (hq : q t = true) (replace : Bool) :
    x.all.countP q ≤ (x.add t replace).all.countP q := by
  have hgone := x.countP_le_erase t.key q
  rw [all, all, timers_erase] at hgone
  unfold add
  split
  · rw [countP_put, hq]
    exact hgone
  · exact Nat.le_refl _

end TimerIndex

namespace Schedule

variable {s : Schedule} {t : Timer} {root : PoolId}

/-- A new index of one kind takes the place of the old one. -/
theorem countP_setIndex (s : Schedule) (kind : SpawnKind) (x : TimerIndex) (q : Timer → Bool) :
    (s.setIndex kind x).all.countP q + (s.index kind).all.countP q
      = s.all.countP q + x.all.countP q := by
  cases kind <;> simp only [all, setIndex, index, List.countP_append] <;> omega

theorem pendingForRoot_eq (s : Schedule) (root : PoolId) :
    s.pendingForRoot root = s.all.countP (fun t => t.root == root) :=
  List.countP_eq_length_filter.symm

theorem pendingForRoot_le_erase (s : Schedule) (kind : SpawnKind) (key : TimerKey) (root : PoolId) :
    s.pendingForRoot root ≤ (s.erase kind key).pendingForRoot root + 1 := by
  have hindex := (s.index kind).countP_le_erase key (fun t => t.root == root)
  have hcount := s.countP_setIndex kind ((s.index kind).erase key) (fun t => t.root == root)
  rw [pendingForRoot_eq, pendingForRoot_eq, erase]
  omega

theorem pendingForRoot_add_of_new (hnew : s.get? t.kind t.key = none) (hroot : t.root = root)
    (replace : Bool) : (s.add t replace).pendingForRoot root = s.pendingForRoot root + 1 := by
  have hindex := TimerIndex.countP_add_of_new (q := fun t => t.root == root) hnew
    (beq_iff_eq.mpr hroot) replace
  have hcount := s.countP_setIndex t.kind ((s.index t.kind).add t replace)
    (fun t => t.root == root)
  rw [pendingForRoot_eq, pendingForRoot_eq, add]
  omega

theorem pendingForRoot_le_add (s : Schedule) (hroot : t.root = root) (replace : Bool) :
    s.pendingForRoot root ≤ (s.add t replace).pendingForRoot root := by
  have hindex := TimerIndex.countP_le_add (x := s.index t.kind) (q := fun t => t.root == root)
    (beq_iff_eq.mpr hroot) replace
  have hcount := s.countP_setIndex t.kind ((s.index t.kind).add t replace)
    (fun t => t.root == root)
  rw [pendingForRoot_eq, pendingForRoot_eq, add]
  omega

end Schedule

end SpawnForest
