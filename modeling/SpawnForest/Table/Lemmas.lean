import SpawnForest.Table

/-!
# Tables by look-up

What each operation on a table does to look-ups, and that look-ups are all
there is to a table: `mem_entries` says that the entries are exactly the
look-ups that succeed, and `ext_get?` that tables with equal look-ups are
equal.
-/

namespace SpawnForest

theorem Key.rank_eq_iff {κ : Type} [Key κ] {a b : κ} : Key.rank a = Key.rank b ↔ a = b :=
  ⟨Key.rank_inj, fun h => h ▸ rfl⟩

namespace Table

variable {κ α β : Type} [Key κ]

/-! ## Entry lists -/

theorem find_eq_none {key : κ} {l : List (κ × α)}
    (h : ∀ e ∈ l, Key.rank key ≠ Key.rank e.1) : find key l = none := by
  induction l with
  | nil => rfl
  | cons head rest ih =>
    rw [find, if_neg (h head List.mem_cons_self)]
    exact ih (fun e he => h e (List.mem_cons_of_mem _ he))

theorem mem_of_find {key : κ} {a : α} {l : List (κ × α)} (h : find key l = some a) :
    (key, a) ∈ l := by
  induction l with
  | nil => cases h
  | cons head rest ih =>
    rw [find] at h
    by_cases same : Key.rank key = Key.rank head.1
    · rw [if_pos same] at h
      obtain rfl := Key.rank_inj same
      cases h
      exact List.mem_cons_self
    · rw [if_neg same] at h
      exact List.mem_cons_of_mem _ (ih h)

theorem find_of_mem {key : κ} {a : α} {l : List (κ × α)}
    (sorted : l.Pairwise (fun a b => Key.rank a.1 < Key.rank b.1)) (h : (key, a) ∈ l) :
    find key l = some a := by
  induction l with
  | nil => cases h
  | cons head rest ih =>
    obtain ⟨below, tail⟩ := List.pairwise_cons.mp sorted
    rw [find]
    rcases List.mem_cons.mp h with rfl | h
    · simp
    · have less := below _ h
      rw [if_neg (by simp only at less; omega)]
      exact ih tail h

theorem find_put (key other : κ) (a : α) (l : List (κ × α)) :
    find other (put key a l) =
      if Key.rank other = Key.rank key then some a else find other l := by
  induction l with
  | nil => rfl
  | cons head rest ih =>
    obtain ⟨k, b⟩ := head
    rw [put]
    by_cases less : Key.rank key < Key.rank k
    · rw [if_pos less, find]
    · rw [if_neg less]
      by_cases same : Key.rank key = Key.rank k
      · rw [if_pos same]
        by_cases equal : Key.rank other = Key.rank key
        · simp [find, equal]
        · simp [find, equal, show Key.rank other ≠ Key.rank k from same ▸ equal]
      · rw [if_neg same, find, find, ih]
        by_cases equal : Key.rank other = Key.rank k
        · simp [equal, show Key.rank k ≠ Key.rank key from fun h => same h.symm]
        · simp [equal]

theorem find_filter (other : κ) (keep : κ → α → Bool) {l : List (κ × α)}
    (sorted : l.Pairwise (fun a b => Key.rank a.1 < Key.rank b.1)) :
    find other (l.filter (fun e => keep e.1 e.2)) = (find other l).filter (keep other) := by
  induction l with
  | nil => rfl
  | cons head rest ih =>
    obtain ⟨k, a⟩ := head
    obtain ⟨below, tail⟩ := List.pairwise_cons.mp sorted
    rw [find, List.filter_cons]
    by_cases equal : Key.rank other = Key.rank k
    · obtain rfl := Key.rank_inj equal
      by_cases kept : keep other a = true
      · simp [kept, find, Option.filter]
      · have absent : find other (rest.filter (fun e => keep e.1 e.2)) = none := by
          refine find_eq_none (fun e he => ?_)
          have less := below e (List.mem_filter.mp he).1
          simp only at less
          omega
        simp [kept, absent, Option.filter]
    · by_cases kept : keep k a = true
      · simp [kept, find, equal, ih tail]
      · simp [kept, equal, ih tail]

theorem find_map (other : κ) (f : κ → α → β) (l : List (κ × α)) :
    find other (l.map (fun e => (e.1, f e.1 e.2))) = (find other l).map (f other) := by
  induction l with
  | nil => rfl
  | cons head rest ih =>
    obtain ⟨k, a⟩ := head
    rw [List.map_cons, find, find]
    by_cases same : Key.rank other = Key.rank k
    · rw [if_pos same, if_pos same]
      obtain rfl := Key.rank_inj same
      rfl
    · rw [if_neg same, if_neg same, ih]

theorem entries_unique {l m : List (κ × α)}
    (left : l.Pairwise (fun a b => Key.rank a.1 < Key.rank b.1))
    (right : m.Pairwise (fun a b => Key.rank a.1 < Key.rank b.1))
    (same : ∀ e, e ∈ l ↔ e ∈ m) : l = m := by
  induction l generalizing m with
  | nil =>
    cases m with
    | nil => rfl
    | cons b _ => exact absurd ((same b).mpr List.mem_cons_self) (List.not_mem_nil)
  | cons a l ih =>
    cases m with
    | nil => exact absurd ((same a).mp List.mem_cons_self) (List.not_mem_nil)
    | cons b m =>
      obtain ⟨belowA, leftTail⟩ := List.pairwise_cons.mp left
      obtain ⟨belowB, rightTail⟩ := List.pairwise_cons.mp right
      have heads : a = b := by
        rcases List.mem_cons.mp ((same a).mp List.mem_cons_self) with h | ha
        · exact h
        · rcases List.mem_cons.mp ((same b).mpr List.mem_cons_self) with h | hb
          · exact h.symm
          · have := belowB a ha
            have := belowA b hb
            omega
      subst heads
      have tails : ∀ e, e ∈ l ↔ e ∈ m := by
        intro e
        have mem := same e
        simp only [List.mem_cons] at mem
        constructor
        · intro he
          rcases mem.mp (.inr he) with rfl | h
          · have := belowA _ he
            omega
          · exact h
        · intro he
          rcases mem.mpr (.inr he) with rfl | h
          · have := belowB _ he
            omega
          · exact h
      rw [ih leftTail rightTail tails]

/-! ## Look-ups -/

@[simp] theorem get?_empty (key : κ) : (empty : Table κ α).get? key = none := rfl

theorem get?_insert (t : Table κ α) (key other : κ) (a : α) :
    (t.insert key a).get? other = if Key.rank other = Key.rank key then some a else t.get? other :=
  find_put key other a t.entries

@[simp] theorem get?_insert_self (t : Table κ α) (key : κ) (a : α) :
    (t.insert key a).get? key = some a := by
  simp [get?_insert]

theorem get?_insert_of_ne (t : Table κ α) {key other : κ} (a : α) (h : other ≠ key) :
    (t.insert key a).get? other = t.get? other := by
  simp [get?_insert, Key.rank_eq_iff, h]

/-- A value after an insertion: it is the new one, or it was there before under another key. -/
theorem get?_insert_cases {t : Table κ α} {key other : κ} {a b : α}
    (h : (t.insert key a).get? other = some b) :
    (other = key ∧ b = a) ∨ (other ≠ key ∧ t.get? other = some b) := by
  by_cases same : other = key
  · rw [same, get?_insert_self] at h
    exact .inl ⟨same, (Option.some.inj h).symm⟩
  · rw [get?_insert_of_ne t a same] at h
    exact .inr ⟨same, h⟩

theorem get?_filter (t : Table κ α) (keep : κ → α → Bool) (key : κ) :
    (t.filter keep).get? key = (t.get? key).filter (keep key) :=
  find_filter key keep t.ascending

theorem get?_erase (t : Table κ α) (key other : κ) :
    (t.erase key).get? other = if Key.rank other = Key.rank key then none else t.get? other := by
  rw [erase, get?_filter]
  by_cases h : Key.rank other = Key.rank key
  · cases t.get? other <;> simp [h]
  · cases t.get? other <;> simp [h, Ne.symm h]

@[simp] theorem get?_erase_self (t : Table κ α) (key : κ) : (t.erase key).get? key = none := by
  simp [get?_erase]

theorem get?_erase_of_ne (t : Table κ α) {key other : κ} (h : other ≠ key) :
    (t.erase key).get? other = t.get? other := by
  simp [get?_erase, Key.rank_eq_iff, h]

/-- A value after an erasure: it was there before under another key. -/
theorem get?_erase_cases {t : Table κ α} {key other : κ} {a : α}
    (h : (t.erase key).get? other = some a) : other ≠ key ∧ t.get? other = some a := by
  by_cases same : other = key
  · rw [same, get?_erase_self] at h
    cases h
  · rw [get?_erase_of_ne t same] at h
    exact ⟨same, h⟩

@[simp] theorem get?_map (t : Table κ α) (f : κ → α → β) (key : κ) :
    (t.map f).get? key = (t.get? key).map (f key) :=
  find_map key f t.entries

theorem get?_modify (t : Table κ α) (key other : κ) (f : α → α) :
    (t.modify key f).get? other =
      if Key.rank key = Key.rank other then (t.get? other).map f else t.get? other := by
  rw [modify, get?_map]
  split
  · rfl
  · cases t.get? other <;> rfl

theorem mem_entries {t : Table κ α} {key : κ} {a : α} :
    (key, a) ∈ t.entries ↔ t.get? key = some a :=
  ⟨find_of_mem t.ascending, mem_of_find⟩

theorem mem_values {t : Table κ α} {a : α} : a ∈ t.values ↔ ∃ key, t.get? key = some a := by
  simp only [values, List.mem_map, Prod.exists, ← mem_entries, exists_eq_right]

theorem mem_keys {t : Table κ α} {key : κ} : key ∈ t.keys ↔ (t.get? key).isSome := by
  simp only [keys, List.mem_map, Prod.exists, Option.isSome_iff_exists, ← mem_entries]
  constructor
  · rintro ⟨k, a, h, rfl⟩
    exact ⟨a, h⟩
  · rintro ⟨a, h⟩
    exact ⟨key, a, h, rfl⟩

theorem mem_keys_of_get? {t : Table κ α} {key : κ} {a : α} (h : t.get? key = some a) :
    key ∈ t.keys :=
  mem_keys.mpr (Option.isSome_iff_exists.mpr ⟨a, h⟩)

theorem entries_inj {t u : Table κ α} : t.entries = u.entries ↔ t = u := by
  cases t
  cases u
  rw [mk.injEq]

/-- A table is its look-ups. -/
theorem ext_get? {t u : Table κ α} (h : ∀ key, t.get? key = u.get? key) : t = u := by
  refine entries_inj.mp (entries_unique t.ascending u.ascending (fun e => ?_))
  obtain ⟨key, a⟩ := e
  rw [mem_entries, mem_entries, h]

/-! ## Keys listed once -/

theorem keys_ascending (t : Table κ α) :
    t.keys.Pairwise (fun a b => Key.rank a < Key.rank b) :=
  List.pairwise_map.mpr t.ascending

theorem keys_nodup (t : Table κ α) : t.keys.Nodup :=
  t.keys_ascending.imp (fun less same => by rw [same] at less; omega)

end Table

end SpawnForest
