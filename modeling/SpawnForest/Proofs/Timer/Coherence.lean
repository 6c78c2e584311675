import SpawnForest.Proofs.Timer.Pending

/-!
# Coherent timers

An index keeps its timers three times: by key, and as keys of a grid and of a
zone. It is coherent if the three say the same: a timer stands under its own
key, and the buckets of the regions hold the keys of the timers there and
nothing else. Then the keys that a filter or a scan looks at are all that it
needs (`mem_selected`, `mem_inGrid`, `mem_inZone`), and the buckets follow from
the timers (`Coherent.ext`): indexes with the same timers are the same.

Every way of writing keeps an index coherent, and what it does to the timers is
said look-up by look-up.
-/

namespace SpawnForest

namespace TimerIndex

variable {realm : Realm}

/-! ## Buckets -/

section Buckets

variable (buckets : Table (Id realm) (KeySet TimerKey)) (region other : Id realm)
  (key k : TimerKey)

theorem mem_bucketKeys :
    k ∈ bucketKeys buckets region ↔
      ∃ bucket, buckets.get? region = some bucket ∧ bucket.contains k = true := by
  unfold bucketKeys
  cases buckets.get? region with
  | none => simp
  | some bucket => simp [Table.mem_keys, Table.contains]

theorem mem_bucketKeys_enter :
    k ∈ bucketKeys (enter buckets region key) other ↔
      k ∈ bucketKeys buckets other ∨ (other = region ∧ k = key) := by
  rw [mem_bucketKeys, mem_bucketKeys, enter, Table.get?_insert]
  by_cases hregion : other = region
  · subst hregion
    by_cases hkey : k = key
    · subst hkey
      simp [KeySet.add, Table.contains]
    · cases buckets.get? other <;>
        simp [KeySet.add, Table.contains, Table.get?_insert_of_ne, hkey]
  · simp [Key.rank_eq_iff, hregion]

theorem contains_erase (bucket : KeySet TimerKey) :
    (bucket.erase key).contains k = true ↔ bucket.contains k = true ∧ k ≠ key := by
  by_cases hkey : k = key
  · subst hkey
    simp [Table.contains]
  · simp [Table.contains, Table.get?_erase_of_ne, hkey]

/-- A region without a bucket stays without one. A bucket loses the key, and goes with its last
one. -/
theorem leave_cases :
    (buckets.get? region = none ∧ leave buckets region key = buckets) ∨
    ∃ bucket, buckets.get? region = some bucket ∧
      ((bucket.erase key).isEmpty = true ∧ leave buckets region key = buckets.erase region ∨
        (bucket.erase key).isEmpty = false ∧
          leave buckets region key = buckets.insert region (bucket.erase key)) := by
  unfold leave
  cases hbucket : buckets.get? region with
  | none => exact .inl ⟨rfl, rfl⟩
  | some bucket =>
      refine .inr ⟨bucket, rfl, ?_⟩
      dsimp only
      cases hempty : (bucket.erase key).isEmpty with
      | true => exact .inl ⟨rfl, rfl⟩
      | false => exact .inr ⟨rfl, rfl⟩

theorem get?_leave_of_ne (h : other ≠ region) :
    (leave buckets region key).get? other = buckets.get? other := by
  rcases leave_cases buckets region key with ⟨-, hsame⟩ | ⟨_, -, ⟨-, hgone⟩ | ⟨-, hkept⟩⟩
  · rw [hsame]
  · rw [hgone, Table.get?_erase_of_ne _ h]
  · rw [hkept, Table.get?_insert_of_ne _ _ h]

/-- A bucket that loses its last key had no other one. -/
theorem mem_bucketKeys_leave :
    k ∈ bucketKeys (leave buckets region key) other ↔
      k ∈ bucketKeys buckets other ∧ ¬(other = region ∧ k = key) := by
  by_cases hregion : other = region
  · subst hregion
    rcases leave_cases buckets other key with
      ⟨hnone, h⟩ | ⟨bucket, hbucket, ⟨hempty, h⟩ | ⟨-, h⟩⟩
    · simp [h, mem_bucketKeys, hnone]
    · have hgone : (bucket.erase key).contains k = false := by
        unfold Table.contains Table.get?
        rw [show (bucket.erase key).entries = [] from List.isEmpty_iff.mp hempty]
        rfl
      have hlast := (not_congr (contains_erase key k bucket)).mp (by simp [hgone])
      simp only [h, mem_bucketKeys, Table.get?_erase_self, hbucket]
      simpa using hlast
    · simp only [h, mem_bucketKeys, Table.get?_insert_self, hbucket]
      simpa using contains_erase key k bucket
  · rw [mem_bucketKeys, mem_bucketKeys, get?_leave_of_ne buckets region other key hregion]
    simp [hregion]

end Buckets

/-- The buckets of one sort of region hold the keys of the timers there, and none is empty. -/
structure Filed (timers : Table TimerKey Timer) (region : Timer → Id realm)
    (buckets : Table (Id realm) (KeySet TimerKey)) : Prop where
  mem_iff : ∀ g k, k ∈ bucketKeys buckets g ↔ ∃ t, timers.get? k = some t ∧ region t = g
  nonempty : ∀ g bucket, buckets.get? g = some bucket → bucket.isEmpty = false

namespace Filed

variable {timers : Table TimerKey Timer} {region : Timer → Id realm}
  {buckets others : Table (Id realm) (KeySet TimerKey)} {key : TimerKey} {t : Timer}

theorem empty (region : Timer → Id realm) : Filed .empty region .empty where
  mem_iff g k := by simp [bucketKeys]
  nonempty g bucket h := by simp at h

theorem erase (h : Filed timers region buckets) (ht : timers.get? key = some t) :
    Filed (timers.erase key) region (leave buckets (region t) key) where
  mem_iff g k := by
    rw [mem_bucketKeys_leave, h.mem_iff]
    by_cases hk : k = key
    · subst hk
      simp [ht, eq_comm]
    · simp [Table.get?_erase_of_ne, hk]
  nonempty g bucket hbucket := by
    rcases leave_cases buckets (region t) key with
      ⟨-, hleft⟩ | ⟨shrunk, -, ⟨-, hleft⟩ | ⟨hkept, hleft⟩⟩
    · exact h.nonempty g bucket (hleft ▸ hbucket)
    · rw [hleft] at hbucket
      exact h.nonempty g bucket (Table.get?_erase_cases hbucket).2
    · rw [hleft] at hbucket
      rcases Table.get?_insert_cases hbucket with ⟨-, rfl⟩ | ⟨-, hbucket⟩
      · exact hkept
      · exact h.nonempty g bucket hbucket

theorem insert (h : Filed timers region buckets) (hnew : timers.get? key = none) (t : Timer) :
    Filed (timers.insert key t) region (enter buckets (region t) key) where
  mem_iff g k := by
    rw [mem_bucketKeys_enter, h.mem_iff]
    by_cases hk : k = key
    · subst hk
      simp [hnew, eq_comm]
    · simp [Table.get?_insert_of_ne, hk]
  nonempty g bucket hbucket := by
    rw [enter] at hbucket
    obtain ⟨-, rfl⟩ | ⟨-, hbucket⟩ := Table.get?_insert_cases hbucket
    · refine Bool.eq_false_iff.mpr (fun hempty => ?_)
      have hmem : key ∈ (((buckets.get? (region t)).getD .empty).add key).keys := by
        simp [Table.mem_keys, KeySet.add]
      rw [Table.keys, List.isEmpty_iff.mp hempty] at hmem
      cases hmem
    · exact h.nonempty g bucket hbucket

theorem get?_eq_none_iff (h : Filed timers region buckets) (g : Id realm) :
    buckets.get? g = none ↔ ∀ k, k ∉ bucketKeys buckets g := by
  constructor
  · intro hnone k hk
    rw [bucketKeys, hnone] at hk
    cases hk
  · intro hall
    cases hbucket : buckets.get? g with
    | none => rfl
    | some bucket =>
        have hkeys : bucket.keys = [] := List.eq_nil_iff_forall_not_mem.mpr (fun k hk =>
          hall k (by rwa [bucketKeys, hbucket]))
        have hempty : bucket.isEmpty = true :=
          List.isEmpty_iff.mpr (List.map_eq_nil_iff.mp hkeys)
        rw [h.nonempty g bucket hbucket] at hempty
        cases hempty

/-- The timers say what is in the buckets. -/
theorem unique (h : Filed timers region buckets) (h' : Filed timers region others) :
    buckets = others := by
  have hmem : ∀ g k, k ∈ bucketKeys buckets g ↔ k ∈ bucketKeys others g := fun g k =>
    (h.mem_iff g k).trans (h'.mem_iff g k).symm
  refine Table.ext_get? (fun g => ?_)
  cases hg : buckets.get? g with
  | none =>
      refine ((h'.get?_eq_none_iff g).mpr (fun k hk => ?_)).symm
      exact (h.get?_eq_none_iff g).mp hg k ((hmem g k).mpr hk)
  | some bucket =>
      cases hg' : others.get? g with
      | none =>
          have hnone := (h.get?_eq_none_iff g).mpr (fun k hk =>
            (h'.get?_eq_none_iff g).mp hg' k ((hmem g k).mp hk))
          rw [hg] at hnone
          cases hnone
      | some other =>
          have hsame : bucket = other := Table.ext_get? (fun k => by
            have hk := hmem g k
            rw [mem_bucketKeys, mem_bucketKeys, hg, hg'] at hk
            simp only [Option.some.injEq, exists_eq_left', Table.contains] at hk
            cases hb : bucket.get? k <;> cases ho : other.get? k <;> simp_all)
          rw [hsame]

end Filed

/-! ## Coherent indexes -/

/-- The timers stand under their own keys, and the regions know them. -/
structure Coherent (x : TimerIndex) : Prop where
  keyed : ∀ {key t}, x.get? key = some t → t.key = key
  byGrid : Filed x.timers Timer.grid x.byGrid
  byZone : Filed x.timers Timer.zone x.byZone

section

variable (x : TimerIndex) (t : Timer) (key k : TimerKey)

theorem get?_erase : (x.erase key).get? k = if k = key then none else x.get? k := by
  rw [get?, timers_erase, Table.get?_erase]
  simp only [Key.rank_eq_iff, get?]

theorem get?_put : (x.put t).get? k = if k = t.key then some t else x.get? k := by
  have hstored : (x.put t).get? k = ((x.erase t.key).timers.insert t.key t).get? k := rfl
  rw [hstored, Table.get?_insert]
  simp only [Key.rank_eq_iff]
  by_cases hk : k = t.key
  · rw [if_pos hk, if_pos hk]
  · rw [if_neg hk, if_neg hk, ← get?, get?_erase, if_neg hk]

theorem get?_add (replace : Bool) :
    (x.add t replace).get? k =
      if x.accepts t replace = true ∧ k = t.key then some t else x.get? k := by
  unfold add
  cases x.accepts t replace with
  | false => simp
  | true => simp [get?_put]

/-- After a timer is stored, its key has one. -/
theorem exists_get?_add (replace : Bool) : ∃ u, (x.add t replace).get? t.key = some u := by
  rw [get?_add]
  cases hkey : x.get? t.key with
  | some u => split <;> exact ⟨_, rfl⟩
  | none =>
      have haccepted : x.accepts t replace = true := by simp [accepts, hkey]
      exact ⟨t, if_pos ⟨haccepted, rfl⟩⟩

theorem get?_foldl_erase (l : List Timer) :
    (l.foldl (fun x t => x.erase t.key) x).get? k =
      if k ∈ l.map Timer.key then none else x.get? k := by
  induction l generalizing x with
  | nil => simp
  | cons t l ih =>
      rw [List.foldl_cons, ih, get?_erase]
      by_cases hl : k ∈ l.map Timer.key <;> by_cases ht : k = t.key <;> simp [hl, ht]

end

theorem coherent_empty : empty.Coherent where
  keyed h := by simp [get?, empty] at h
  byGrid := .empty _
  byZone := .empty _

namespace Coherent

variable {x y : TimerIndex} {t : Timer} {key : TimerKey}

theorem erase (hx : x.Coherent) (key : TimerKey) : (x.erase key).Coherent := by
  refine ⟨?_, ?_, ?_⟩
  · intro k t ht
    rw [get?_erase] at ht
    exact hx.keyed (Option.ite_none_left_eq_some.mp ht).2
  · rw [timers_erase]
    unfold TimerIndex.erase
    cases ht : x.timers.get? key with
    | none =>
        rw [Table.erase_of_get?_eq_none ht]
        exact hx.byGrid
    | some t => exact hx.byGrid.erase ht
  · rw [timers_erase]
    unfold TimerIndex.erase
    cases ht : x.timers.get? key with
    | none =>
        rw [Table.erase_of_get?_eq_none ht]
        exact hx.byZone
    | some t => exact hx.byZone.erase ht

theorem put (hx : x.Coherent) (t : Timer) : (x.put t).Coherent := by
  have herased := hx.erase t.key
  have hnew : (x.erase t.key).timers.get? t.key = none := by
    rw [timers_erase, Table.get?_erase_self]
  refine ⟨?_, herased.byGrid.insert hnew t, herased.byZone.insert hnew t⟩
  intro k u hu
  rw [get?_put] at hu
  by_cases hk : k = t.key
  · rw [if_pos hk] at hu
    obtain rfl := Option.some.inj hu
    exact hk.symm
  · rw [if_neg hk] at hu
    exact hx.keyed hu

theorem add (hx : x.Coherent) (t : Timer) (replace : Bool) : (x.add t replace).Coherent := by
  unfold TimerIndex.add
  split
  · exact hx.put t
  · exact hx

theorem remove (hx : x.Coherent) (f : TimerFilter) : (x.remove f).Coherent :=
  List.foldlRecOn _ _ hx (fun _ hx t _ => hx.erase t.key)

/-- Coherent indexes with the same timers are the same. -/
theorem ext (hx : x.Coherent) (hy : y.Coherent) (h : ∀ key, x.get? key = y.get? key) : x = y := by
  have htimers : x.timers = y.timers := Table.ext_get? h
  have hgrid := hy.byGrid
  have hzone := hy.byZone
  rw [← htimers] at hgrid hzone
  obtain ⟨timers, byGrid, byZone⟩ := x
  obtain ⟨timers', byGrid', byZone'⟩ := y
  rw [TimerIndex.mk.injEq]
  exact ⟨htimers, hx.byGrid.unique hgrid, hx.byZone.unique hzone⟩

/-! ## What is found -/

theorem mem_all (hx : x.Coherent) : t ∈ x.all ↔ x.get? t.key = some t := by
  rw [all, Table.mem_values]
  constructor
  · rintro ⟨key, ht⟩
    rwa [hx.keyed ht]
  · exact fun ht => ⟨t.key, ht⟩

/-- A list of keys that holds those of some timers finds them. -/
theorem mem_filterMap (hx : x.Coherent) {keys : List TimerKey} :
    t ∈ keys.filterMap x.get? ↔ t.key ∈ keys ∧ x.get? t.key = some t := by
  rw [List.mem_filterMap]
  constructor
  · rintro ⟨key, hkey, ht⟩
    rw [hx.keyed ht]
    exact ⟨hkey, ht⟩
  · exact fun ⟨hkey, ht⟩ => ⟨t.key, hkey, ht⟩

theorem mem_inGrid (hx : x.Coherent) {grid : GridId} :
    t ∈ x.inGrid grid ↔ x.get? t.key = some t ∧ t.grid = grid := by
  rw [inGrid, List.mem_mergeSort, hx.mem_filterMap, hx.byGrid.mem_iff]
  constructor
  · rintro ⟨⟨u, hu, hgrid⟩, ht⟩
    cases ht.symm.trans hu
    exact ⟨ht, hgrid⟩
  · exact fun ⟨ht, hgrid⟩ => ⟨⟨t, ht, hgrid⟩, ht⟩

theorem mem_inZone (hx : x.Coherent) {zone : ZoneId} :
    t ∈ x.inZone zone ↔ x.get? t.key = some t ∧ t.zone = zone := by
  rw [inZone, List.mem_mergeSort, hx.mem_filterMap, hx.byZone.mem_iff]
  constructor
  · rintro ⟨⟨u, hu, hzone⟩, ht⟩
    cases ht.symm.trans hu
    exact ⟨ht, hzone⟩
  · exact fun ⟨ht, hzone⟩ => ⟨⟨t, ht, hzone⟩, ht⟩

/-- A filter looks at the keys of all timers that it selects. -/
theorem mem_reach (hx : x.Coherent) {f : TimerFilter} (ht : x.get? t.key = some t)
    (hf : f.selects t = true) : t.key ∈ x.reach f := by
  simp only [TimerFilter.selects, Bool.and_eq_true] at hf
  obtain ⟨⟨⟨-, hgrid⟩, hzone⟩, -⟩ := hf
  unfold reach
  cases hg : f.grid with
  | some g =>
      rw [hg] at hgrid
      exact (hx.byGrid.mem_iff g t.key).mpr ⟨t, ht, (beq_iff_eq.mp hgrid).symm⟩
  | none =>
      cases hz : f.zone with
      | some z =>
          rw [hz] at hzone
          exact (hx.byZone.mem_iff z t.key).mpr ⟨t, ht, (beq_iff_eq.mp hzone).symm⟩
      | none => exact Table.mem_keys_of_get? ht

theorem mem_selected (hx : x.Coherent) {f : TimerFilter} :
    t ∈ x.selected f ↔ x.get? t.key = some t ∧ f.selects t = true := by
  rw [selected, List.mem_filter, hx.mem_filterMap]
  exact ⟨fun ⟨⟨_, ht⟩, hf⟩ => ⟨ht, hf⟩, fun ⟨ht, hf⟩ => ⟨⟨hx.mem_reach ht hf, ht⟩, hf⟩⟩

theorem get?_remove (hx : x.Coherent) (f : TimerFilter) (key : TimerKey) :
    (x.remove f).get? key = (x.get? key).filter (fun t => !f.selects t) := by
  rw [TimerIndex.remove, get?_foldl_erase]
  cases ht : x.get? key with
  | none => simp
  | some t =>
      obtain rfl := hx.keyed ht
      have hmem : t.key ∈ (x.selected f).map Timer.key ↔ f.selects t = true := by
        rw [List.mem_map]
        constructor
        · rintro ⟨u, hu, hkey⟩
          obtain ⟨hu, hf⟩ := hx.mem_selected.mp hu
          rw [hkey, ht] at hu
          cases hu
          exact hf
        · exact fun hf => ⟨t, hx.mem_selected.mpr ⟨ht, hf⟩, rfl⟩
      by_cases hf : f.selects t = true
      · simp [hmem.mpr hf, hf, Option.filter_some]
      · simp [mt hmem.mp hf, hf, Option.filter_some]

end Coherent

end TimerIndex

end SpawnForest
