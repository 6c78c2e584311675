import SpawnForest.Table.Lemmas

/-!
# Tables through views

Two tables are alike through a view if they hold the same values under the same
keys, as far as the view shows them. A change that leaves some part of the
values as it was is alike through every view of that part.

Values are also counted. A change of one value moves a count by what this value
adds to it before and after (`countP_modify`). A key that comes or goes adds or
takes just its own entry (`erase_perm`, `insert_perm`), whatever is counted or
listed of the entries.
-/

namespace SpawnForest.Table

variable {κ α β γ : Type} [Key κ]

/-- Two tables hold the same values, as far as `view` shows them. -/
def Alike (view : α → β) (t u : Table κ α) : Prop :=
  ∀ key, (t.get? key).map view = (u.get? key).map view

namespace Alike

variable {view : α → β} {t u v : Table κ α}

theorem refl (view : α → β) (t : Table κ α) : Alike view t t := fun _ => rfl

theorem symm (h : Alike view t u) : Alike view u t := fun key => (h key).symm

theorem trans (htu : Alike view t u) (huv : Alike view u v) : Alike view t v :=
  fun key => (htu key).trans (huv key)

/-- A view that shows less sees the same values as well. -/
theorem through (h : Alike view t u) (less : β → γ) : Alike (less ∘ view) t u := by
  intro key
  simpa only [Option.map_map] using congrArg (Option.map less) (h key)

/-- A value of one table stands in the other one and looks the same there. -/
theorem find (h : Alike view t u) {key : κ} {a : α} (ha : t.get? key = some a) :
    ∃ b, u.get? key = some b ∧ view b = view a := by
  have hkey := h key
  rw [ha, Option.map_some] at hkey
  obtain ⟨b, hb, hview⟩ := Option.map_eq_some_iff.mp hkey.symm
  exact ⟨b, hb, hview⟩

theorem contains (h : Alike view t u) (key : κ) : t.contains key = u.contains key := by
  have hsome := congrArg Option.isSome (h key)
  rwa [Option.isSome_map, Option.isSome_map] at hsome

/-- The whole tables look the same, key for key and in the same order. -/
theorem map_eq (h : Alike view t u) : t.map (fun _ a => view a) = u.map (fun _ a => view a) :=
  ext_get? (fun key => by rw [get?_map, get?_map]; exact h key)

theorem keys (h : Alike view t u) : t.keys = u.keys := by
  have hkeys := congrArg Table.keys h.map_eq
  simpa only [Table.keys, Table.map, List.map_map, Function.comp_def] using hkeys

theorem size (h : Alike view t u) : t.size = u.size := by
  have hlength := congrArg List.length h.keys
  rwa [Table.keys, Table.keys, List.length_map, List.length_map] at hlength

end Alike

/-- A value after a change under some key: it is the changed one, or it was there before. -/
theorem get?_modify_cases {t : Table κ α} {key other : κ} {change : α → α} {b : α}
    (h : (t.modify key change).get? other = some b) :
    (other = key ∧ ∃ a, t.get? key = some a ∧ b = change a) ∨
      (other ≠ key ∧ t.get? other = some b) := by
  rw [get?_modify] at h
  by_cases same : Key.rank key = Key.rank other
  · rw [if_pos same] at h
    obtain rfl := Key.rank_inj same
    obtain ⟨a, ha, rfl⟩ := Option.map_eq_some_iff.mp h
    exact .inl ⟨rfl, a, ha, rfl⟩
  · rw [if_neg same] at h
    exact .inr ⟨fun hother => same (by rw [hother]), h⟩

theorem get?_modify_self {t : Table κ α} {key : κ} {change : α → α} {a : α}
    (ha : t.get? key = some a) : (t.modify key change).get? key = some (change a) := by
  simp [get?_modify, ha]

theorem get?_modify_of_ne {t : Table κ α} {key other : κ} {change : α → α} (h : other ≠ key) :
    (t.modify key change).get? other = t.get? other := by
  rw [get?_modify, if_neg (fun same => h (Key.rank_inj same).symm)]

theorem size_modify (t : Table κ α) (key : κ) (change : α → α) :
    (t.modify key change).size = t.size := by
  simp only [modify, map, size, List.length_map]

/-- A change of a value is not seen by a view that it leaves as it was. -/
theorem alike_modify {view : α → β} {t : Table κ α} {key : κ} {change : α → α}
    (hview : ∀ a, t.get? key = some a → view (change a) = view a) :
    Alike view t (t.modify key change) := by
  intro other
  rw [get?_modify]
  by_cases same : Key.rank key = Key.rank other
  · rw [if_pos same]
    obtain rfl := Key.rank_inj same
    cases ha : t.get? key with
    | none => rfl
    | some a => simp only [Option.map_some, hview a ha]
  · rw [if_neg same]

theorem alike_map {view : α → β} {t : Table κ α} {change : κ → α → α}
    (hview : ∀ key a, t.get? key = some a → view (change key a) = view a) :
    Alike view t (t.map change) := by
  intro key
  rw [get?_map]
  cases ha : t.get? key with
  | none => rfl
  | some a => simp only [Option.map_some, hview key a ha]

/-- Tables stay alike if what looks the same is changed to what looks the same. -/
theorem Alike.modify {view : α → β} {t u : Table κ α} (h : Alike view t u) (key : κ)
    {f g : α → α} (hview : ∀ a b, view a = view b → view (f a) = view (g b)) :
    Alike view (t.modify key f) (u.modify key g) := by
  intro other
  have hother := h other
  rw [get?_modify, get?_modify]
  split
  · cases ha : t.get? other <;> cases hb : u.get? other <;> rw [ha, hb] at hother
    · rfl
    · cases hother
    · cases hother
    · exact congrArg some (hview _ _ (Option.some.inj hother))
  · exact hother

theorem values_map (t : Table κ α) (change : α → β) :
    (t.map (fun _ => change)).values = t.values.map change := by
  rw [values, values, map, List.map_map, List.map_map]
  rfl

/-! ## Entries that come and go -/

theorem entries_nodup (t : Table κ α) : t.entries.Nodup :=
  t.ascending.imp (fun less same => by rw [same] at less; omega)


/-- A table without some keys. -/
theorem get?_filter_not_contains [DecidableEq κ] (t : Table κ α) (gone : List κ) (key : κ) :
    (t.filter (fun k _ => !gone.contains k)).get? key =
      if key ∈ gone then none else t.get? key := by
  rw [get?_filter]
  by_cases hgone : key ∈ gone
  · cases t.get? key <;> simp [hgone]
  · cases t.get? key <;> simp [hgone, Option.filter]

theorem erase_perm {t : Table κ α} {key : κ} {a : α} (ha : t.get? key = some a) :
    t.entries.Perm ((key, a) :: (t.erase key).entries) := by
  have hnew : (key, a) ∉ (t.erase key).entries := by
    rw [mem_entries, get?_erase_self]
    exact nofun
  refine (List.perm_ext_iff_of_nodup t.entries_nodup
    (List.nodup_cons.mpr ⟨hnew, entries_nodup _⟩)).mpr ?_
  rintro ⟨k, b⟩
  rw [List.mem_cons, mem_entries, mem_entries, Prod.mk.injEq]
  by_cases hk : k = key
  · subst hk
    simp [ha, eq_comm]
  · simp [hk, get?_erase_of_ne]

theorem insert_perm {t : Table κ α} {key : κ} (hnew : t.get? key = none) (a : α) :
    (t.insert key a).entries.Perm ((key, a) :: t.entries) := by
  have hback : (t.insert key a).erase key = t := ext_get? (fun k => by
    by_cases hk : k = key
    · rw [hk, get?_erase_self, hnew]
    · rw [get?_erase_of_ne _ hk, get?_insert_of_ne _ _ hk])
  have hperm := erase_perm (get?_insert_self t key a)
  rwa [hback] at hperm

/-- A change of one value leaves the others, whichever they are. -/
theorem values_modify_perm {t : Table κ α} {key : κ} {a : α} (ha : t.get? key = some a)
    (f : α → α) :
    ∃ rest, t.values.Perm (a :: rest) ∧ (t.modify key f).values.Perm (f a :: rest) := by
  have hrest : (t.modify key f).erase key = t.erase key := ext_get? (fun k => by
    by_cases hk : k = key
    · rw [hk, get?_erase_self, get?_erase_self]
    · rw [get?_erase_of_ne _ hk, get?_erase_of_ne _ hk, get?_modify_of_ne hk])
  have hchanged : (t.modify key f).get? key = some (f a) := get?_modify_self ha
  have hafter := (erase_perm hchanged).map Prod.snd
  rw [hrest] at hafter
  exact ⟨_, (erase_perm ha).map Prod.snd, hafter⟩

theorem erase_of_get?_eq_none {t : Table κ α} {key : κ} (h : t.get? key = none) :
    t.erase key = t :=
  ext_get? (fun k => by
    by_cases hk : k = key
    · rw [hk, get?_erase_self, h]
    · rw [get?_erase_of_ne _ hk])

/-! ## Counting values -/

theorem countP_modify {t : Table κ α} {key : κ} {a : α} (ha : t.get? key = some a) (f : α → α)
    (q : α → Bool) :
    (t.modify key f).values.countP q + (q a).toNat = t.values.countP q + (q (f a)).toNat := by
  obtain ⟨rest, hbefore, hafter⟩ := values_modify_perm ha f
  rw [hbefore.countP_eq, hafter.countP_eq, List.countP_cons, List.countP_cons]
  cases q a <;> cases q (f a) <;> simp

theorem countP_erase {t : Table κ α} {key : κ} {a : α} (ha : t.get? key = some a) (q : α → Bool) :
    (t.erase key).values.countP q + (q a).toNat = t.values.countP q := by
  rw [values, values, ((erase_perm ha).map Prod.snd).countP_eq, List.map_cons, List.countP_cons]
  cases q a <;> rfl

theorem countP_insert {t : Table κ α} {key : κ} (hnew : t.get? key = none) (a : α) (q : α → Bool) :
    (t.insert key a).values.countP q = t.values.countP q + (q a).toNat := by
  rw [values, values, ((insert_perm hnew a).map Prod.snd).countP_eq, List.map_cons,
    List.countP_cons]
  cases q a <;> rfl

theorem size_insert {t : Table κ α} {key : κ} (hnew : t.get? key = none) (a : α) :
    (t.insert key a).size = t.size + 1 :=
  (insert_perm hnew a).length_eq

/-- What is counted by a part that a view shows is counted alike. -/
theorem Alike.countP {view : α → β} {t u : Table κ α} (h : Alike view t u) (q : β → Bool) :
    t.values.countP (fun a => q (view a)) = u.values.countP (fun a => q (view a)) := by
  have hcount := congrArg (fun m => m.values.countP q) h.map_eq
  simpa only [values_map, List.countP_map, Function.comp_def] using hcount

end SpawnForest.Table
