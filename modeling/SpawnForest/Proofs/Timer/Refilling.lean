import Mathlib.Data.List.Nodup
import SpawnForest.Proofs.Timer.Selection

/-!
# Filling a schedule again

The timers of a schedule are enough to get it back: stored one by one into an
empty schedule, in whatever order, they make up the same indexes again
(`Coherent.index_refill`). None of them is refused, since no two of them are
kept in the same place, by kind and key (`Timer.slot`).
-/

namespace SpawnForest

/-- Where a timer is kept: in the index of its kind, under its key. -/
def Timer.slot (t : Timer) : SpawnKind × TimerKey := (t.kind, t.key)

namespace TimerIndex

/-- An index lists its timers by key. -/
theorem Coherent.keys_all {x : TimerIndex} (hx : x.Coherent) :
    x.all.map Timer.key = x.timers.keys := by
  rw [all, Table.values, Table.keys, List.map_map]
  exact List.map_congr_left (fun e he => hx.keyed (Table.mem_entries.mp he))

end TimerIndex

namespace Schedule

variable {s : Schedule} {t : Timer} {l : List Timer}

theorem length_all (s : Schedule) : s.all.length = s.size := by
  simp [all, size, TimerIndex.all, TimerIndex.size, Table.values, Table.size]

/-- No two timers of a schedule are kept in the same place. -/
theorem Coherent.slots_nodup (hs : s.Coherent) : (s.all.map Timer.slot).Nodup := by
  have hkeys : ∀ kind, ((s.index kind).all.map Timer.slot).Nodup := by
    intro kind
    refine List.Nodup.of_map Prod.snd ?_
    rw [List.map_map]
    show ((s.index kind).all.map Timer.key).Nodup
    rw [(hs.index kind).keys_all]
    exact (s.index kind).timers.keys_nodup
  have hkind : ∀ kind, ∀ t ∈ (s.index kind).all, t.kind = kind := fun kind t ht =>
    hs.kinds ((hs.index kind).mem_all.mp ht)
  rw [all, List.map_append]
  refine List.nodup_append.mpr ⟨hkeys .creature, hkeys .gameObject, ?_⟩
  intro a ha b hb same
  obtain ⟨t, ht, rfl⟩ := List.mem_map.mp ha
  obtain ⟨u, hu, rfl⟩ := List.mem_map.mp hb
  have hkinds := congrArg Prod.fst same
  rw [Timer.slot, Timer.slot, hkind .creature t ht, hkind .gameObject u hu] at hkinds
  cases hkinds

/-! ## New timers -/

/-- Timers for places of their own, none of which is taken. -/
structure NewTo (l : List Timer) (s : Schedule) : Prop where
  distinct : (l.map Timer.slot).Nodup
  vacant : ∀ t ∈ l, s.get? t.kind t.key = none

theorem newTo_empty (h : (l.map Timer.slot).Nodup) (recheckSecs : UInt64) :
    NewTo l (empty recheckSecs) where
  distinct := h
  vacant t _ := by cases t.kind <;> rfl

theorem accepts_of_vacant (h : s.get? t.kind t.key = none) (replace : Bool) :
    s.accepts t replace = true := by
  rw [accepts, TimerIndex.accepts, show (s.index t.kind).get? t.key = none from h]

theorem accepts_of_pending {u : Timer} (h : s.get? t.kind t.key = some u) :
    s.accepts t false = !decide (u.due ≤ t.due) := by
  rw [accepts, TimerIndex.accepts, show (s.index t.kind).get? t.key = some u from h]
  rfl

theorem NewTo.head (h : NewTo (t :: l) s) : s.accepts t false = true :=
  accepts_of_vacant (h.vacant t List.mem_cons_self) false

theorem get?_add_of_accepts (h : s.accepts t false = true) (kind : SpawnKind) (key : TimerKey) :
    (s.add t false).get? kind key = if (kind, key) = t.slot then some t else s.get? kind key := by
  rw [get?_add]
  simp only [h, true_and, Timer.slot, Prod.mk.injEq]

theorem NewTo.tail (h : NewTo (t :: l) s) : NewTo l (s.add t false) := by
  obtain ⟨hnew, hdistinct⟩ := List.nodup_cons.mp h.distinct
  refine ⟨hdistinct, fun u hu => ?_⟩
  have hne : (u.kind, u.key) ≠ t.slot := by
    intro same
    exact hnew (List.mem_map.mpr ⟨u, hu, same⟩)
  rw [get?_add_of_accepts h.head, if_neg hne]
  exact h.vacant u (List.mem_cons_of_mem _ hu)

/-- After some new timers are stored, each of them is found in its place, and in all other places
nothing has changed. -/
theorem NewTo.get?_foldl_add (h : NewTo l s) :
    (∀ t ∈ l, (l.foldl (fun s t => s.add t false) s).get? t.kind t.key = some t) ∧
      ∀ kind key, (kind, key) ∉ l.map Timer.slot →
        (l.foldl (fun s t => s.add t false) s).get? kind key = s.get? kind key := by
  induction l generalizing s with
  | nil => exact ⟨fun _ ht => (List.not_mem_nil ht).elim, fun _ _ _ => rfl⟩
  | cons t l ih =>
      obtain ⟨hfound, hothers⟩ := ih h.tail
      obtain ⟨hnew, -⟩ := List.nodup_cons.mp h.distinct
      refine ⟨fun u hu => ?_, fun kind key hplace => ?_⟩
      · rcases List.mem_cons.mp hu with rfl | hu
        · rw [List.foldl_cons, hothers _ _ hnew, get?_add_of_accepts h.head]
          exact if_pos rfl
        · exact hfound u hu
      · rw [List.map_cons, List.mem_cons, not_or] at hplace
        rw [List.foldl_cons, hothers kind key hplace.2, get?_add_of_accepts h.head,
          if_neg hplace.1]

theorem coherent_foldl_add (hs : s.Coherent) (l : List Timer) :
    (l.foldl (fun s t => s.add t false) s).Coherent :=
  List.foldlRecOn l _ hs (fun _ hs t _ => hs.add t false)

/-- An empty schedule that is filled with the timers of another one, in whatever order, has the same
indexes. -/
theorem Coherent.index_refill (hs : s.Coherent) (hl : l.Perm s.all) (recheckSecs : UInt64)
    (kind : SpawnKind) :
    (l.foldl (fun s t => s.add t false) (empty recheckSecs)).index kind = s.index kind := by
  have hnew : NewTo l (empty recheckSecs) :=
    newTo_empty ((hl.map Timer.slot).nodup_iff.mpr hs.slots_nodup) recheckSecs
  obtain ⟨hfound, hothers⟩ := hnew.get?_foldl_add
  have hcoherent := coherent_foldl_add (coherent_empty recheckSecs) l
  refine (hcoherent.index kind).ext (hs.index kind) (fun key => ?_)
  show Schedule.get? _ kind key = s.get? kind key
  cases ht : s.get? kind key with
  | some t =>
      obtain ⟨rfl, rfl⟩ := hs.keyed ht
      exact hfound t (hl.mem_iff.mpr (hs.mem_all.mpr ht))
  | none =>
      rw [hothers]
      · cases kind <;> rfl
      · intro hplace
        obtain ⟨t, hmem, hslot⟩ := List.mem_map.mp hplace
        obtain ⟨rfl, rfl⟩ := Prod.mk.inj hslot
        rw [hs.mem_all.mp (hl.mem_iff.mp hmem)] at ht
        cases ht

end Schedule

end SpawnForest
