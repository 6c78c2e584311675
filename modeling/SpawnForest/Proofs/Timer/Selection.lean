import SpawnForest.Proofs.Timer.Coherence

/-!
# Choosing among pending timers

The schedule of a map is two indexes, one for each kind of spawn. It is
coherent if both are and each holds timers of its own kind; then a timer is
pending just if a look-up under its own kind and key gives it, and the lists
that a run of timers goes by can be told from look-ups: what is due, and what a
granted scan of a region finds. `earliest?` gives the one that comes first by
time, then by key, then by kind (`precedes_of_earliest?`).

What a schedule loses is said by `Drops`: every key keeps its timer but for the
ones that are to go.
-/

namespace SpawnForest

/-! ## The first of some timers -/

/-- The order in which timers are used up: by time, then by key, and a creature's before a game
object's. -/
def Timer.Precedes (a b : Timer) : Prop :=
  a.due < b.due ∨ a.due = b.due ∧
    (Key.rank a.key < Key.rank b.key ∨ a.key = b.key ∧ a.kind.rank ≤ b.kind.rank)

namespace Timer

theorem earlier_iff {a b : Timer} : a.earlier b = true ↔
    a.due.toNat < b.due.toNat ∨ a.due.toNat = b.due.toNat ∧ Key.rank a.key ≤ Key.rank b.key := by
  simp only [earlier, Bool.or_eq_true, Bool.and_eq_true, decide_eq_true_eq, beq_iff_eq,
    Timestamp.toNat_inj]
  rfl

theorem precedes_iff {a b : Timer} : a.Precedes b ↔
    a.due.toNat < b.due.toNat ∨ a.due.toNat = b.due.toNat ∧
      (Key.rank a.key < Key.rank b.key ∨
        Key.rank a.key = Key.rank b.key ∧ a.kind.rank ≤ b.kind.rank) := by
  simp only [Precedes, Timestamp.toNat_inj, Key.rank_eq_iff]
  rfl

theorem earliest?_eq_none {l : List Timer} (h : earliest? l = none) : l = [] := by
  cases l with
  | nil => rfl
  | cons t l =>
      unfold earliest? at h
      split at h
      · cases h
      · split at h <;> cases h

theorem mem_of_earliest? {l : List Timer} {t : Timer} (h : earliest? l = some t) : t ∈ l := by
  induction l with
  | nil => cases h
  | cons u l ih =>
      unfold earliest? at h
      cases hrest : earliest? l with
      | none =>
          rw [hrest] at h
          cases h
          exact List.mem_cons_self
      | some other =>
          rw [hrest] at h
          dsimp only at h
          split at h
          · cases h
            exact List.mem_cons_self
          · cases h
            exact List.mem_cons_of_mem _ (ih hrest)

/-- Of timers that are listed kind by kind, the one that is chosen precedes all others. -/
theorem precedes_of_earliest? {l : List Timer}
    (hl : l.Pairwise (fun a b => a.kind.rank ≤ b.kind.rank)) {t : Timer}
    (h : earliest? l = some t) {u : Timer} (hu : u ∈ l) : t.Precedes u := by
  induction l generalizing t with
  | nil => cases h
  | cons v l ih =>
      obtain ⟨hkinds, hl⟩ := List.pairwise_cons.mp hl
      have hself : v.Precedes v := precedes_iff.mpr (by omega)
      unfold earliest? at h
      cases hrest : earliest? l with
      | none =>
          rw [hrest] at h
          cases h
          rw [earliest?_eq_none hrest, List.mem_singleton] at hu
          exact hu ▸ hself
      | some other =>
          rw [hrest] at h
          dsimp only at h
          by_cases hearlier : v.earlier other = true
          · -- the head comes first: before the best of the rest, so before all of it
            rw [if_pos hearlier] at h
            cases h
            rcases List.mem_cons.mp hu with rfl | hu
            · exact hself
            · have hbest := precedes_iff.mp (ih hl hrest hu)
              have hkind := hkinds u hu
              rw [earlier_iff] at hearlier
              rw [precedes_iff]
              omega
          · rw [if_neg hearlier] at h
            cases h
            rcases List.mem_cons.mp hu with rfl | hu
            · rw [earlier_iff] at hearlier
              rw [precedes_iff]
              omega
            · exact ih hl hrest hu

end Timer

namespace Schedule

variable {s : Schedule} {t : Timer}

/-! ## Look-ups -/

@[simp] theorem index_setIndex (s : Schedule) (kind other : SpawnKind) (x : TimerIndex) :
    (s.setIndex kind x).index other = if other = kind then x else s.index other := by
  cases kind <;> cases other <;> rfl

theorem get?_erase (s : Schedule) (kind other : SpawnKind) (key k : TimerKey) :
    (s.erase kind key).get? other k =
      if other = kind ∧ k = key then none else s.get? other k := by
  rw [get?, erase, index_setIndex]
  by_cases hkind : other = kind
  · subst hkind
    simp [TimerIndex.get?_erase, get?]
  · simp [hkind, get?]

theorem get?_add (s : Schedule) (t : Timer) (replace : Bool) (other : SpawnKind) (k : TimerKey) :
    (s.add t replace).get? other k =
      if s.accepts t replace = true ∧ other = t.kind ∧ k = t.key then some t
      else s.get? other k := by
  rw [get?, add, index_setIndex]
  by_cases hkind : other = t.kind
  · subst hkind
    simp [TimerIndex.get?_add, get?, accepts]
  · simp [hkind, get?]

/-- After a timer is stored, its kind and key have one. -/
theorem exists_get?_add (s : Schedule) (t : Timer) (replace : Bool) :
    ∃ u, (s.add t replace).get? t.kind t.key = some u := by
  rw [get?, add, index_setIndex, if_pos rfl]
  exact TimerIndex.exists_get?_add _ _ _

/-! ## Coherence -/

/-- Both indexes are coherent, and each has timers of its own kind. -/
structure Coherent (s : Schedule) : Prop where
  index : ∀ kind, (s.index kind).Coherent
  kinds : ∀ {kind key t}, s.get? kind key = some t → t.kind = kind

theorem coherent_empty (recheckSecs : UInt64) : (empty recheckSecs).Coherent where
  index kind := by cases kind <;> exact TimerIndex.coherent_empty
  kinds {kind key t} h := by
    cases kind <;> cases h

theorem get?_remove (hs : s.Coherent) (f : TimerFilter) (kind : SpawnKind) (key : TimerKey) :
    (s.remove f).get? kind key = (s.get? kind key).filter (fun t => !f.selects t) := by
  cases kind with
  | creature => exact (hs.index .creature).get?_remove f key
  | gameObject => exact (hs.index .gameObject).get?_remove f key

namespace Coherent

theorem keyed (hs : s.Coherent) {kind : SpawnKind} {key : TimerKey}
    (ht : s.get? kind key = some t) : t.kind = kind ∧ t.key = key :=
  ⟨hs.kinds ht, (hs.index kind).keyed ht⟩

theorem of_indexes {s' : Schedule} (hs : s.Coherent) (h : ∀ kind, s'.index kind = s.index kind) :
    s'.Coherent where
  index kind := by
    rw [h]
    exact hs.index kind
  kinds ht := by
    rw [get?, h] at ht
    exact hs.kinds ht

theorem erase (hs : s.Coherent) (kind : SpawnKind) (key : TimerKey) :
    (s.erase kind key).Coherent where
  index other := by
    rw [Schedule.erase, index_setIndex]
    split
    · exact (hs.index kind).erase key
    · exact hs.index other
  kinds ht := by
    rw [get?_erase] at ht
    exact hs.kinds (Option.ite_none_left_eq_some.mp ht).2

theorem add (hs : s.Coherent) (t : Timer) (replace : Bool) : (s.add t replace).Coherent where
  index other := by
    rw [Schedule.add, index_setIndex]
    split
    · exact (hs.index t.kind).add t replace
    · exact hs.index other
  kinds {kind key u} hu := by
    rw [get?_add] at hu
    by_cases hstored : s.accepts t replace = true ∧ kind = t.kind ∧ key = t.key
    · rw [if_pos hstored] at hu
      obtain rfl := Option.some.inj hu
      exact hstored.2.1.symm
    · rw [if_neg hstored] at hu
      exact hs.kinds hu

theorem remove (hs : s.Coherent) (f : TimerFilter) : (s.remove f).Coherent where
  index kind := by
    cases kind with
    | creature => exact (hs.index .creature).remove f
    | gameObject => exact (hs.index .gameObject).remove f
  kinds ht := by
    rw [get?_remove hs] at ht
    exact hs.kinds (Option.filter_eq_some_iff.mp ht).1

/-! ## What is found -/

/-- What is found in each index is found among all timers. -/
theorem mem_append (hs : s.Coherent) (found : TimerIndex → List Timer) (q : Timer → Prop)
    (h : ∀ kind t, t ∈ found (s.index kind) ↔ s.get? kind t.key = some t ∧ q t) :
    t ∈ found s.creatures ++ found s.gameObjects ↔ s.get? t.kind t.key = some t ∧ q t := by
  rw [List.mem_append]
  constructor
  · rintro (ht | ht)
    · obtain ⟨hget, hq⟩ := (h .creature t).mp ht
      exact ⟨by rwa [hs.kinds hget], hq⟩
    · obtain ⟨hget, hq⟩ := (h .gameObject t).mp ht
      exact ⟨by rwa [hs.kinds hget], hq⟩
  · intro ht
    cases hkind : t.kind with
    | creature => exact .inl ((h .creature t).mpr (hkind ▸ ht))
    | gameObject => exact .inr ((h .gameObject t).mpr (hkind ▸ ht))

theorem mem_all (hs : s.Coherent) : t ∈ s.all ↔ s.get? t.kind t.key = some t := by
  have hfound := hs.mem_append (t := t) (·.all) (fun _ => True) (fun kind _ =>
    (hs.index kind).mem_all.trans (and_iff_left trivial).symm)
  exact hfound.trans (and_iff_left trivial)

theorem mem_due (hs : s.Coherent) {now : Timestamp} :
    t ∈ s.due now ↔ s.get? t.kind t.key = some t ∧ t.isDue now = true := by
  rw [due, List.mem_mergeSort, List.mem_filter, hs.mem_all]

theorem mem_inZone (hs : s.Coherent) {zone : ZoneId} :
    t ∈ s.creatures.inZone zone ++ s.gameObjects.inZone zone ↔
      s.get? t.kind t.key = some t ∧ t.zone = zone :=
  hs.mem_append (·.inZone zone) (·.zone = zone) (fun kind _ => (hs.index kind).mem_inZone)

theorem mem_inGrid (hs : s.Coherent) {grid : GridId} :
    t ∈ s.creatures.inGrid grid ++ s.gameObjects.inGrid grid ↔
      s.get? t.kind t.key = some t ∧ t.grid = grid :=
  hs.mem_append (·.inGrid grid) (·.grid = grid) (fun kind _ => (hs.index kind).mem_inGrid)

/-- The timer that a replacement is made for is pending for the root, and precedes all others. -/
theorem earliestForRoot? (hs : s.Coherent) {root : PoolId}
    (h : s.earliestForRoot? root = some t) :
    (s.get? t.kind t.key = some t ∧ t.root = root) ∧
      ∀ kind key u, s.get? kind key = some u → u.root = root → t.Precedes u := by
  have hmem : ∀ u, u ∈ s.forRoot root ↔ s.get? u.kind u.key = some u ∧ u.root = root := by
    intro u
    rw [forRoot, List.mem_filter, hs.mem_all, beq_iff_eq]
  have hkinds : (s.forRoot root).Pairwise (fun a b => a.kind.rank ≤ b.kind.rank) := by
    have hkind : ∀ kind, ∀ a ∈ (s.index kind).all, a.kind = kind := fun kind a ha =>
      hs.kinds ((hs.index kind).mem_all.mp ha)
    have hsame : ∀ kind, (s.index kind).all.Pairwise (fun a b => a.kind.rank ≤ b.kind.rank) :=
      fun kind => List.pairwise_of_forall_mem_list (fun a ha b hb =>
        Nat.le_of_eq (by rw [hkind kind a ha, hkind kind b hb]))
    refine List.Pairwise.filter _ (List.pairwise_append.mpr
      ⟨hsame .creature, hsame .gameObject, ?_⟩)
    intro a ha b hb
    rw [hkind .creature a ha, hkind .gameObject b hb]
    decide
  refine ⟨(hmem t).mp (Timer.mem_of_earliest? h), fun kind key u hu hroot => ?_⟩
  refine Timer.precedes_of_earliest? hkinds h ((hmem u).mpr ⟨?_, hroot⟩)
  obtain ⟨rfl, rfl⟩ := hs.keyed hu
  exact hu

end Coherent

/-! ## What a schedule loses -/

/-- Every key keeps its timer, but for the timers that are to go. -/
def Drops (s s' : Schedule) (gone : Timer → Bool) : Prop :=
  ∀ kind key, s'.get? kind key = (s.get? kind key).filter (fun t => !gone t)

theorem drops_of_same {s s' : Schedule} (h : ∀ kind key, s'.get? kind key = s.get? kind key)
    {gone : Timer → Bool} (hgone : ∀ t, gone t = false) : s.Drops s' gone := by
  intro kind key
  rw [h]
  cases s.get? kind key with
  | none => rfl
  | some t => simp [Option.filter_some, hgone]

theorem drops_remove (hs : s.Coherent) (f : TimerFilter) : s.Drops (s.remove f) f.selects :=
  get?_remove hs f

theorem selects_ofPool (pool : PoolId) (t : Timer) :
    (TimerFilter.ofPool pool).selects t = (pool == t.pool) := by
  simp [TimerFilter.ofPool, TimerFilter.selects, TimerFilter.admits]

/-- Pool by pool, the timers of some pools are removed. -/
theorem drops_foldl_remove (hs : s.Coherent) (pools : List PoolId) :
    s.Drops (pools.foldl (fun s id => s.remove (.ofPool id)) s)
      (fun t => pools.contains t.pool) := by
  induction pools generalizing s with
  | nil => exact drops_of_same (fun _ _ => rfl) (fun _ => rfl)
  | cons pool pools ih =>
      intro kind key
      rw [List.foldl_cons, ih (hs.remove _) kind key, get?_remove hs]
      cases s.get? kind key with
      | none => rfl
      | some t =>
          by_cases hpool : t.pool = pool
          · simp [Option.filter_some, selects_ofPool, hpool]
          · simp [Option.filter_some, selects_ofPool, hpool, Ne.symm hpool]

end Schedule

end SpawnForest
