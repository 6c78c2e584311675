import SpawnForest.Proofs.Timer.Refilling

/-!
# Merging timers into a schedule

Timers are stored one by one, each unless its place has one that is due as
early. What a place holds at the end was offered for it: it was there before, or
it is among the timers that were stored (`offers_of_get?_merge`). And whatever
was offered, something that is due no later is there at the end
(`DueBy.merge`, `dueBy_merge`).

So a place ends up with the first of what it was offered (`get?_merge_iff`),
provided that no two timers that are offered for one place differ in anything
but their time. Offers know no order, so neither does the result
(`Coherent.merge_perm`), and timers that were merged once are all refused when
they come a second time (`accepts_eq_false_iff`).
-/

namespace SpawnForest.Schedule

variable {s : Schedule} {t u : Timer} {l l' : List Timer} {kind : SpawnKind} {key : TimerKey}
  {due : Timestamp}

/-- Stores timers in order, each unless its place has one that is due as early. -/
def merge (s : Schedule) (l : List Timer) : Schedule := l.foldl (fun s t => s.add t false) s

theorem coherent_merge (hs : s.Coherent) (l : List Timer) : (s.merge l).Coherent :=
  coherent_foldl_add hs l

theorem setIndex_index (s : Schedule) (kind : SpawnKind) : s.setIndex kind (s.index kind) = s := by
  cases kind <;> rfl

/-- Merging leaves the times of the scans alone. -/
theorem merge_eq (s : Schedule) (l : List Timer) :
    s.merge l =
      { s with creatures := (s.merge l).creatures, gameObjects := (s.merge l).gameObjects } := by
  refine List.foldlRecOn l _ (motive := fun s' : Schedule =>
    s' = { s with creatures := s'.creatures, gameObjects := s'.gameObjects }) rfl ?_
  intro s' hs' t _
  have hadded : s'.add t false = { s' with
      creatures := (s'.add t false).creatures, gameObjects := (s'.add t false).gameObjects } := by
    unfold add setIndex
    cases t.kind <;> rfl
  refine hadded.trans ?_
  rw [hs']

/-! ## What a place is offered -/

/-- A timer is in a place already, or it is listed for it. -/
def Offers (s : Schedule) (l : List Timer) (kind : SpawnKind) (key : TimerKey) (t : Timer) : Prop :=
  s.get? kind key = some t ∨ t ∈ l ∧ t.slot = (kind, key)

theorem offers_of_get?_merge (h : (s.merge l).get? kind key = some t) :
    s.Offers l kind key t := by
  induction l generalizing s with
  | nil => exact .inl h
  | cons u l ih =>
      rcases ih h with hkept | ⟨hmem, hslot⟩
      · rw [get?_add] at hkept
        by_cases hstored : s.accepts u false = true ∧ kind = u.kind ∧ key = u.key
        · rw [if_pos hstored] at hkept
          obtain rfl := Option.some.inj hkept
          exact .inr ⟨List.mem_cons_self, Prod.ext hstored.2.1.symm hstored.2.2.symm⟩
        · rw [if_neg hstored] at hkept
          exact .inl hkept
      · exact .inr ⟨List.mem_cons_of_mem _ hmem, hslot⟩

/-! ## What is due by a time -/

/-- A place has a timer that is due at a given time or before. -/
def DueBy (s : Schedule) (kind : SpawnKind) (key : TimerKey) (due : Timestamp) : Prop :=
  ∃ t, s.get? kind key = some t ∧ t.due ≤ due

theorem dueBy_of_get? (h : s.get? kind key = some t) : s.DueBy kind key t.due :=
  ⟨t, h, Nat.le_refl t.due.toNat⟩

/-- A timer is refused just if its place has one that is due by its time. -/
theorem accepts_eq_false_iff : s.accepts t false = false ↔ s.DueBy t.kind t.key t.due := by
  cases hplace : s.get? t.kind t.key with
  | none =>
      rw [accepts_of_vacant hplace, DueBy, hplace]
      simp
  | some u =>
      rw [accepts_of_pending hplace, DueBy, hplace]
      simp

/-- Nothing is put off by storing another timer. -/
theorem DueBy.add (h : s.DueBy kind key due) (t : Timer) : (s.add t false).DueBy kind key due := by
  obtain ⟨u, hplace, hdue⟩ := h
  rw [DueBy, get?_add]
  by_cases hstored : s.accepts t false = true ∧ kind = t.kind ∧ key = t.key
  · rw [if_pos hstored]
    obtain ⟨haccepted, rfl, rfl⟩ := hstored
    have hsooner : ¬u.due ≤ t.due := by
      rw [accepts_of_pending hplace] at haccepted
      simpa using haccepted
    exact ⟨t, rfl, Nat.le_trans (Nat.le_of_not_le hsooner) hdue⟩
  · rw [if_neg hstored]
    exact ⟨u, hplace, hdue⟩

theorem DueBy.merge (h : s.DueBy kind key due) (l : List Timer) :
    (s.merge l).DueBy kind key due :=
  List.foldlRecOn l _ (motive := fun s => DueBy s kind key due) h (fun _ h t _ => h.add t)

/-- A timer that is stored or refused leaves its place with one that is due by its time. -/
theorem dueBy_add (s : Schedule) (t : Timer) : (s.add t false).DueBy t.kind t.key t.due := by
  cases haccepted : s.accepts t false with
  | true =>
      refine dueBy_of_get? ?_
      rw [get?_add_of_accepts haccepted]
      exact if_pos rfl
  | false => exact (accepts_eq_false_iff.mp haccepted).add t

theorem dueBy_merge (h : t ∈ l) : (s.merge l).DueBy t.kind t.key t.due := by
  induction l generalizing s with
  | nil => exact (List.not_mem_nil h).elim
  | cons u l ih =>
      rcases List.mem_cons.mp h with rfl | h
      · exact (s.dueBy_add t).merge l
      · exact ih h

theorem Offers.dueBy_merge (h : s.Offers l kind key t) : (s.merge l).DueBy kind key t.due := by
  rcases h with hplace | ⟨hmem, hslot⟩
  · exact (dueBy_of_get? hplace).merge l
  · obtain ⟨rfl, rfl⟩ := Prod.mk.inj hslot
    exact Schedule.dueBy_merge hmem

/-! ## What a place ends up with -/

/-- Two timers that are offered for one place and are due at the same time are the same. -/
def ToldByTime (s : Schedule) (l : List Timer) : Prop :=
  ∀ kind key t u, s.Offers l kind key t → s.Offers l kind key u → t.due = u.due → t = u

/-- Each place ends up with the first of what it was offered. -/
theorem get?_merge_iff (h : s.ToldByTime l) : (s.merge l).get? kind key = some t ↔
    s.Offers l kind key t ∧ ∀ u, s.Offers l kind key u → t.due ≤ u.due := by
  constructor
  · intro hplace
    refine ⟨offers_of_get?_merge hplace, fun u hu => ?_⟩
    obtain ⟨v, hv, hdue⟩ := hu.dueBy_merge
    obtain rfl := Option.some.inj (hplace.symm.trans hv)
    exact hdue
  · rintro ⟨ht, hfirst⟩
    obtain ⟨v, hv, hdue⟩ := ht.dueBy_merge
    have hoffered := offers_of_get?_merge hv
    have hsame : v.due = t.due :=
      Timestamp.toNat_inj.mp (Nat.le_antisymm hdue (hfirst v hoffered))
    rw [hv, h kind key v t hoffered ht hsame]

/-- The order in which timers are merged makes no difference. -/
theorem Coherent.merge_perm (hs : s.Coherent) (h : s.ToldByTime l) (hl : l'.Perm l) :
    s.merge l' = s.merge l := by
  have hoffers : ∀ kind key t, s.Offers l' kind key t ↔ s.Offers l kind key t := fun kind key t =>
    or_congr_right (and_congr_left' hl.mem_iff)
  have htold : s.ToldByTime l' := fun kind key t u ht hu =>
    h kind key t u ((hoffers kind key t).mp ht) ((hoffers kind key u).mp hu)
  have hindex : ∀ kind, (s.merge l').index kind = (s.merge l).index kind := by
    intro kind
    refine ((coherent_merge hs l').index kind).ext ((coherent_merge hs l).index kind) ?_
    refine fun key => Option.ext (fun t => ?_)
    show (s.merge l').get? kind key = some t ↔ (s.merge l).get? kind key = some t
    rw [get?_merge_iff htold, get?_merge_iff h]
    simp only [hoffers]
  have hcreatures : (s.merge l').creatures = (s.merge l).creatures := hindex .creature
  have hgameObjects : (s.merge l').gameObjects = (s.merge l).gameObjects := hindex .gameObject
  rw [s.merge_eq l', hcreatures, hgameObjects, ← s.merge_eq l]

/-- A place that nothing is listed for keeps what it has. -/
theorem get?_merge_of_unlisted (h : ∀ t ∈ l, t.slot ≠ (kind, key)) :
    (s.merge l).get? kind key = s.get? kind key := by
  cases hplace : (s.merge l).get? kind key with
  | some t =>
      rcases offers_of_get?_merge hplace with hkept | ⟨hmem, hslot⟩
      · exact hkept.symm
      · exact (h t hmem hslot).elim
  | none =>
      cases hbefore : s.get? kind key with
      | none => rfl
      | some u =>
          obtain ⟨v, hv, -⟩ := (dueBy_of_get? hbefore).merge l
          rw [hplace] at hv
          cases hv

theorem add_of_dueBy (h : s.DueBy t.kind t.key t.due) : s.add t false = s := by
  have hrefused : (s.index t.kind).accepts t false = false := accepts_eq_false_iff.mpr h
  rw [add, TimerIndex.add, hrefused]
  exact s.setIndex_index t.kind

end SpawnForest.Schedule
