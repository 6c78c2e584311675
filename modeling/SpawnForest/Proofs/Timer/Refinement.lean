import SpawnForest.Proofs.Timer.Refilling

/-!
# An index is a map of its timers

An index keeps three tables, but to its callers it is one finite map from keys
to timers. `TimerMap` is that map, with the calls that change it written down
plainly: a call answers and changes the map by looking at the timers alone.

A run of calls takes the empty index and the empty map to states that agree
(`Agrees`), and gets the same answers on the way. One call keeps the agreement
(`Agrees.call`), a run does by induction (`Agrees.run`). What the index answers
about regions is then told from the map (`Agrees.refines`), and the map says
all there is to the index, buckets included.

The scans of a schedule look through buckets only, while `due` looks at every
timer. A scan that is granted finds the due timers of its region in the order
in which `due` lists them: both are sorted by the same order, and no two timers
of a schedule tie in it.
-/

namespace SpawnForest

/-! ## The orders of timers -/

namespace Timer

/-- The strict order by time, then by key. -/
def Sooner (a b : Timer) : Prop :=
  a.due < b.due ∨ a.due = b.due ∧ Key.rank a.key < Key.rank b.key

theorem sooner_iff {a b : Timer} : a.Sooner b ↔
    a.due.toNat < b.due.toNat ∨ a.due.toNat = b.due.toNat ∧ Key.rank a.key < Key.rank b.key := by
  simp only [Sooner, Timestamp.toNat_inj]
  rfl

theorem sooner_of_earlier {a b : Timer} (h : a.earlier b = true) (hne : a.key ≠ b.key) :
    a.Sooner b := by
  have hrank : Key.rank a.key ≠ Key.rank b.key := fun same => hne (Key.rank_inj same)
  rw [earlier_iff] at h
  rw [sooner_iff]
  omega

theorem runsBefore_iff {a b : Timer} : a.runsBefore b = true ↔
    a.due.toNat < b.due.toNat ∨ a.due.toNat = b.due.toNat ∧
      (a.kind.rank < b.kind.rank ∨
        a.kind = b.kind ∧ Key.rank a.key ≤ Key.rank b.key) := by
  simp only [runsBefore, Bool.or_eq_true, Bool.and_eq_true, decide_eq_true_eq, beq_iff_eq,
    Timestamp.toNat_inj]
  rfl

theorem pairwise_mergeSort_earlier (l : List Timer) :
    (l.mergeSort earlier).Pairwise (fun a b => a.earlier b = true) := by
  refine List.pairwise_mergeSort (fun a b c hab hbc => ?_) (fun a b => ?_) l
  · rw [earlier_iff] at hab hbc ⊢
    omega
  · rw [Bool.or_eq_true, earlier_iff, earlier_iff]
    omega

theorem kind_eq_of_rank_eq {a b : SpawnKind} (h : a.rank = b.rank) : a = b := by
  cases a <;> cases b <;> first | rfl | cases h

theorem pairwise_mergeSort_runsBefore (l : List Timer) :
    (l.mergeSort runsBefore).Pairwise (fun a b => a.runsBefore b = true) := by
  refine List.pairwise_mergeSort (fun a b c hab hbc => ?_) (fun a b => ?_) l
  · rw [runsBefore_iff] at hab hbc ⊢
    grind
  · rw [Bool.or_eq_true, runsBefore_iff, runsBefore_iff]
    have hkinds := kind_eq_of_rank_eq (a := a.kind) (b := b.kind)
    grind

/-- Timers that run before each other are kept in the same place. -/
theorem slot_eq_of_runsBefore {a b : Timer} (hab : a.runsBefore b = true)
    (hba : b.runsBefore a = true) : a.slot = b.slot := by
  rw [runsBefore_iff] at hab hba
  have hkind : a.kind = b.kind := kind_eq_of_rank_eq (by grind)
  have hkey : Key.rank a.key = Key.rank b.key := by grind
  rw [slot, slot, hkind, Key.rank_inj hkey]

/-- Lists by ascending key are the same if they have the same timers. -/
theorem eq_of_ascending {l m : List Timer}
    (hl : l.Pairwise (fun a b => Key.rank a.key < Key.rank b.key))
    (hm : m.Pairwise (fun a b => Key.rank a.key < Key.rank b.key))
    (h : ∀ t, t ∈ l ↔ t ∈ m) : l = m := by
  have hnodup : ∀ {l : List Timer},
      l.Pairwise (fun a b => Key.rank a.key < Key.rank b.key) → l.Nodup := fun hl =>
    hl.imp (fun less same => by rw [same] at less; omega)
  refine List.Perm.eq_of_pairwise (fun a b _ _ hab hba => ?_) hl hm
    ((List.perm_ext_iff_of_nodup (hnodup hl) (hnodup hm)).mpr h)
  omega

end Timer

/-! ## What an index finds, told from all its timers -/

namespace TimerIndex

namespace Coherent

variable {x : TimerIndex}

/-- Keys that ascend find timers whose keys ascend. -/
theorem ascending_filterMap (hx : x.Coherent) {keys : List TimerKey}
    (hkeys : keys.Pairwise (fun a b => Key.rank a < Key.rank b)) :
    (keys.filterMap x.get?).Pairwise (fun a b => Key.rank a.key < Key.rank b.key) := by
  refine hkeys.filterMap x.get? (fun a b hab t ht u hu => ?_)
  rwa [hx.keyed ht, hx.keyed hu]

theorem ascending_all (hx : x.Coherent) :
    x.all.Pairwise (fun a b => Key.rank a.key < Key.rank b.key) := by
  refine List.Pairwise.of_map (S := fun a b => Key.rank a < Key.rank b) Timer.key
    (fun _ _ less => less) ?_
  rw [hx.keys_all]
  exact x.timers.keys_ascending

theorem bucketKeys_ascending {realm : Realm} (buckets : Table (Id realm) (KeySet TimerKey))
    (region : Id realm) :
    (bucketKeys buckets region).Pairwise (fun a b => Key.rank a < Key.rank b) := by
  unfold bucketKeys
  split
  · exact .nil
  · exact Table.keys_ascending _

/-- The bucket of a region finds the timers there, in the order of all timers. -/
theorem filterMap_bucketKeys (hx : x.Coherent) {realm : Realm} {region : Timer → Id realm}
    {buckets : Table (Id realm) (KeySet TimerKey)} (h : Filed x.timers region buckets)
    (here : Id realm) :
    (bucketKeys buckets here).filterMap x.get? = x.all.filter (fun t => region t == here) := by
  refine Timer.eq_of_ascending (hx.ascending_filterMap (bucketKeys_ascending buckets here))
    (hx.ascending_all.filter _) (fun t => ?_)
  rw [hx.mem_filterMap, h.mem_iff, List.mem_filter, hx.mem_all, beq_iff_eq]
  constructor
  · rintro ⟨⟨u, hu, hregion⟩, ht⟩
    cases ht.symm.trans hu
    exact ⟨ht, hregion⟩
  · exact fun ⟨ht, hregion⟩ => ⟨⟨t, ht, hregion⟩, ht⟩

theorem inGrid_eq (hx : x.Coherent) (grid : GridId) :
    x.inGrid grid = (x.all.filter (fun t => t.grid == grid)).mergeSort Timer.earlier := by
  rw [inGrid, hx.filterMap_bucketKeys hx.byGrid]

theorem inZone_eq (hx : x.Coherent) (zone : ZoneId) :
    x.inZone zone = (x.all.filter (fun t => t.zone == zone)).mergeSort Timer.earlier := by
  rw [inZone, hx.filterMap_bucketKeys hx.byZone]

/-- Timers of an index never tie: sorted by time and key, each is strictly sooner than the next. -/
theorem sooner_mergeSort (hx : x.Coherent) (keep : Timer → Bool) :
    ((x.all.filter keep).mergeSort Timer.earlier).Pairwise Timer.Sooner := by
  have hkeys : (x.all.filter keep).Pairwise (fun a b => a.key ≠ b.key) :=
    (hx.ascending_all.filter keep).imp (fun less same => by rw [same] at less; omega)
  have hdistinct := (List.mergeSort_perm (x.all.filter keep) Timer.earlier).symm.pairwise hkeys
    (fun hne same => hne same.symm)
  exact ((Timer.pairwise_mergeSort_earlier _).and hdistinct).imp
    (fun h => Timer.sooner_of_earlier h.1 h.2)

theorem reach_ascending (x : TimerIndex) (f : TimerFilter) :
    (x.reach f).Pairwise (fun a b => Key.rank a < Key.rank b) := by
  unfold reach
  split
  · exact bucketKeys_ascending _ _
  · exact bucketKeys_ascending _ _
  · exact Table.keys_ascending _

/-- A filter selects from all timers, wherever it looks for them. -/
theorem selected_eq (hx : x.Coherent) (f : TimerFilter) :
    x.selected f = x.all.filter f.selects := by
  have hselected : (x.selected f).Pairwise (fun a b => Key.rank a.key < Key.rank b.key) :=
    (hx.ascending_filterMap (reach_ascending x f)).filter _
  refine Timer.eq_of_ascending hselected (hx.ascending_all.filter _) (fun t => ?_)
  rw [hx.mem_selected, List.mem_filter, hx.mem_all]

end Coherent

end TimerIndex

/-! ## Calls -/

/-- A call that changes an index. -/
inductive TimerCall where
  | add (t : Timer) (replace : Bool)
  | erase (key : TimerKey)
  | remove (f : TimerFilter)

/-- What a call answers: whether a timer was stored, the timer taken out, the timers removed. -/
inductive TimerAnswer where
  | stored (accepted : Bool)
  | erased (timer : Option Timer)
  | removed (result : Except PoolError (List Timer))

def TimerIndex.call (x : TimerIndex) : TimerCall → TimerAnswer × TimerIndex
  | .add t replace => (.stored (x.accepts t replace), x.add t replace)
  | .erase key => (.erased (x.get? key), x.erase key)
  | .remove f =>
    match x.take f with
    | .ok (timers, rest) => (.removed (.ok timers), rest)
    | .error e => (.removed (.error e), x)

/-- A plain finite map of timers. -/
abbrev TimerMap := Table TimerKey Timer

namespace TimerMap

/-- Whether the timer under a key stays where another one is added. -/
def keeps (m : TimerMap) (t : Timer) (replace : Bool) : Bool :=
  match m.get? t.key with
  | none => false
  | some existing => !replace && decide (existing.due ≤ t.due)

def call (m : TimerMap) : TimerCall → TimerAnswer × TimerMap
  | .add t replace =>
    if m.keeps t replace then (.stored false, m) else (.stored true, m.insert t.key t)
  | .erase key => (.erased (m.get? key), m.erase key)
  | .remove f =>
    if f.given = 1 then
      (.removed (.ok (m.values.filter f.selects)), m.filter (fun _ t => !f.selects t))
    else (.removed (.error (.ambiguousFilter f.given)), m)

end TimerMap

/-- The answers of some calls, one after the other, and the state after them. -/
def runCalls {σ : Type} (call : σ → TimerCall → TimerAnswer × σ) (s : σ) :
    List TimerCall → List TimerAnswer × σ
  | [] => ([], s)
  | c :: calls =>
    let answered := call s c
    let rest := runCalls call answered.2 calls
    (answered.1 :: rest.1, rest.2)

namespace TimerIndex

/-- The map is the index without its buckets, and these are in order. -/
structure Agrees (x : TimerIndex) (m : TimerMap) : Prop where
  coherent : x.Coherent
  timers : x.timers = m

/-- To its callers the index is the map: it holds the timers of the map, it lists those of a region
by time and key, and its buckets have nothing else in them. -/
structure Refines (x : TimerIndex) (m : TimerMap) : Prop where
  get? : ∀ key, x.get? key = m.get? key
  size : x.size = m.size
  all : x.all = m.values
  inGrid : ∀ grid, (x.inGrid grid).Perm (m.values.filter (fun t => t.grid == grid)) ∧
    (x.inGrid grid).Pairwise Timer.Sooner
  inZone : ∀ zone, (x.inZone zone).Perm (m.values.filter (fun t => t.zone == zone)) ∧
    (x.inZone zone).Pairwise Timer.Sooner
  byGrid : Filed m Timer.grid x.byGrid
  byZone : Filed m Timer.zone x.byZone

namespace Agrees

variable {x y : TimerIndex} {m : TimerMap}

theorem empty : Agrees .empty Table.empty := ⟨coherent_empty, rfl⟩

theorem get? (h : Agrees x m) (key : TimerKey) : x.get? key = Table.get? m key := by
  rw [← h.timers, TimerIndex.get?]

theorem values (h : Agrees x m) : x.all = Table.values m := by
  rw [← h.timers, TimerIndex.all]

theorem accepts (h : Agrees x m) (t : Timer) (replace : Bool) :
    x.accepts t replace = !m.keeps t replace := by
  unfold TimerIndex.accepts TimerMap.keeps
  rw [h.get?]
  cases Table.get? m t.key with
  | none => rfl
  | some existing => simp

theorem add (h : Agrees x m) (t : Timer) (replace : Bool) :
    Agrees (x.add t replace) (if m.keeps t replace then m else m.insert t.key t) := by
  refine ⟨h.coherent.add t replace, Table.ext_get? (fun key => ?_)⟩
  show (x.add t replace).get? key = _
  rw [get?_add, h.accepts, h.get?]
  cases m.keeps t replace with
  | true => simp
  | false => simp [Table.get?_insert, Key.rank_eq_iff]

theorem erase (h : Agrees x m) (key : TimerKey) : Agrees (x.erase key) (Table.erase m key) :=
  ⟨h.coherent.erase key, by rw [timers_erase, h.timers]⟩

theorem remove (h : Agrees x m) (f : TimerFilter) :
    Agrees (x.remove f) (Table.filter m (fun _ t => !f.selects t)) := by
  refine ⟨h.coherent.remove f, Table.ext_get? (fun key => ?_)⟩
  rw [Table.get?_filter, ← h.get?]
  exact h.coherent.get?_remove f key

/-- One call gets the same answer from both, and leaves them in agreement. -/
theorem call (h : Agrees x m) (c : TimerCall) :
    (x.call c).1 = (m.call c).1 ∧ Agrees (x.call c).2 (m.call c).2 := by
  cases c with
  | add t replace =>
      have hadded := h.add t replace
      have haccepts := h.accepts t replace
      cases hkeeps : m.keeps t replace with
      | true => simp_all [TimerIndex.call, TimerMap.call]
      | false => simp_all [TimerIndex.call, TimerMap.call]
  | erase key => exact ⟨congrArg TimerAnswer.erased (h.get? key), h.erase key⟩
  | remove f =>
      by_cases hgiven : f.given = 1
      · have hselected : x.selected f = (Table.values m).filter f.selects := by
          rw [h.coherent.selected_eq, h.values]
        simp only [TimerIndex.call, TimerMap.call, TimerIndex.take, if_pos hgiven, hselected]
        exact ⟨trivial, h.remove f⟩
      · simp only [TimerIndex.call, TimerMap.call, TimerIndex.take, if_neg hgiven]
        exact ⟨trivial, h⟩

/-- So does a run of calls. -/
theorem run (h : Agrees x m) (calls : List TimerCall) :
    (runCalls TimerIndex.call x calls).1 = (runCalls TimerMap.call m calls).1 ∧
      Agrees (runCalls TimerIndex.call x calls).2 (runCalls TimerMap.call m calls).2 := by
  induction calls generalizing x m with
  | nil => exact ⟨rfl, h⟩
  | cons c calls ih =>
      obtain ⟨hanswer, hnext⟩ := h.call c
      obtain ⟨hanswers, hend⟩ := ih hnext
      exact ⟨congrArg₂ List.cons hanswer hanswers, hend⟩

theorem refines (h : Agrees x m) : Refines x m where
  get? := h.get?
  size := by rw [← h.timers, TimerIndex.size]
  all := h.values
  inGrid grid := by
    rw [h.coherent.inGrid_eq, ← h.values]
    exact ⟨List.mergeSort_perm _ _, h.coherent.sooner_mergeSort _⟩
  inZone zone := by
    rw [h.coherent.inZone_eq, ← h.values]
    exact ⟨List.mergeSort_perm _ _, h.coherent.sooner_mergeSort _⟩
  byGrid := h.timers ▸ h.coherent.byGrid
  byZone := h.timers ▸ h.coherent.byZone

end Agrees

/-- Coherent indexes that list the same timers are the same. -/
theorem Coherent.ext_all {x y : TimerIndex} (hx : x.Coherent) (hy : y.Coherent)
    (h : x.all = y.all) : x = y := by
  refine hx.ext hy (fun key => Option.ext (fun t => ?_))
  have hfound : ∀ {z : TimerIndex}, z.Coherent →
      (z.get? key = some t ↔ t ∈ z.all ∧ t.key = key) := by
    intro z hz
    rw [hz.mem_all]
    constructor
    · intro ht
      obtain rfl := hz.keyed ht
      exact ⟨ht, rfl⟩
    · rintro ⟨ht, rfl⟩
      exact ht
  rw [hfound hx, hfound hy, h]

end TimerIndex

/-! ## Scans of a schedule -/

namespace Schedule

/-- A call that changes a schedule. -/
inductive Call where
  | add (t : Timer) (replace : Bool)
  | erase (kind : SpawnKind) (key : TimerKey)
  | remove (f : TimerFilter)
  | scanZone (zone : ZoneId) (now : Timestamp)
  | scanGrid (grid : GridId) (now : Timestamp)

def call (s : Schedule) : Call → Schedule
  | .add t replace => s.add t replace
  | .erase kind key => s.erase kind key
  | .remove f =>
    match s.take f with
    | .ok (_, rest) => rest
    | .error _ => s
  | .scanZone zone now => (s.scanZone zone now).2
  | .scanGrid grid now => (s.scanGrid grid now).2

variable {s : Schedule}

theorem Coherent.call (hs : s.Coherent) (c : Call) : (s.call c).Coherent := by
  cases c with
  | add t replace => exact hs.add t replace
  | erase kind key => exact hs.erase kind key
  | remove f =>
      by_cases hgiven : f.given = 1
      · simp only [Schedule.call, take, if_pos hgiven]
        exact hs.remove f
      · simp only [Schedule.call, take, if_neg hgiven]
        exact hs
  | scanZone zone now =>
      refine hs.of_indexes (fun kind => ?_)
      simp only [Schedule.call, scanZone]
      split <;> cases kind <;> rfl
  | scanGrid grid now =>
      refine hs.of_indexes (fun kind => ?_)
      simp only [Schedule.call, scanGrid]
      split <;> cases kind <;> rfl

theorem coherent_run (recheckSecs : UInt64) (calls : List Call) :
    (calls.foldl Schedule.call (empty recheckSecs)).Coherent :=
  List.foldlRecOn calls _ (coherent_empty recheckSecs) (fun _ hs c _ => hs.call c)

/-- The due timers among those that pass a test, whatever order they were found in, run in the
order of all due timers. -/
theorem Coherent.mergeSort_found (hs : s.Coherent) {found : List Timer} {here : Timer → Bool}
    (hfound : found.Perm (s.all.filter here)) (now : Timestamp) :
    (found.filter (fun t => t.isDue now)).mergeSort Timer.runsBefore
      = (s.due now).filter here := by
  have hdue : ((s.due now).filter here).Perm
      ((s.all.filter here).filter (fun t => t.isDue now)) := by
    rw [List.filter_comm]
    exact (List.mergeSort_perm _ _).filter here
  have hperm : ((found.filter (fun t => t.isDue now)).mergeSort Timer.runsBefore).Perm
      ((s.due now).filter here) :=
    (List.mergeSort_perm _ _).trans ((hfound.filter _).trans hdue.symm)
  refine List.Perm.eq_of_pairwise (fun a b ha hb hab hba => ?_)
    (Timer.pairwise_mergeSort_runsBefore _)
    ((Timer.pairwise_mergeSort_runsBefore _).filter here) hperm
  -- two timers of the schedule that tie in the order are kept in the same place
  have hpending : ∀ t ∈ (s.due now).filter here, s.get? t.kind t.key = some t := fun t ht =>
    (hs.mem_due.mp (List.mem_filter.mp ht).1).1
  have hfirst := hpending a (hperm.mem_iff.mp ha)
  obtain ⟨hkind, hkey⟩ := Prod.mk.inj (Timer.slot_eq_of_runsBefore hab hba)
  rw [hkind, hkey, hpending b hb] at hfirst
  exact (Option.some.inj hfirst).symm

/-- What both indexes find by one test is found among all timers. -/
theorem found_perm (found : TimerIndex → List Timer) {here : Timer → Bool}
    (h : ∀ kind, found (s.index kind)
      = ((s.index kind).all.filter here).mergeSort Timer.earlier) :
    (found s.creatures ++ found s.gameObjects).Perm (s.all.filter here) := by
  have hcreatures : found s.creatures = _ := h .creature
  have hobjects : found s.gameObjects = _ := h .gameObject
  rw [all, List.filter_append, hcreatures, hobjects]
  exact (List.mergeSort_perm _ _).append (List.mergeSort_perm _ _)

theorem Coherent.scanZone (hs : s.Coherent) (zone : ZoneId) (now : Timestamp) :
    (s.scanZone zone now).1 = if mayScan s.recheckSecs (s.zoneScans.get? zone) now then
      some ((s.due now).filter (fun t => t.zone == zone)) else none := by
  unfold Schedule.scanZone
  split
  · have hfound := found_perm (·.inZone zone) (fun kind => (hs.index kind).inZone_eq zone)
    exact congrArg some (hs.mergeSort_found hfound now)
  · rfl

theorem Coherent.scanGrid (hs : s.Coherent) (grid : GridId) (now : Timestamp) :
    (s.scanGrid grid now).1 = if mayScan s.recheckSecs (s.gridScans.get? grid) now then
      some ((s.due now).filter (fun t => t.grid == grid)) else none := by
  unfold Schedule.scanGrid
  split
  · have hfound := found_perm (·.inGrid grid) (fun kind => (hs.index kind).inGrid_eq grid)
    exact congrArg some (hs.mergeSort_found hfound now)
  · rfl

end Schedule

/-- An empty index takes any calls as a plain map of timers would: it gives the answers of the map
and ends as the map does, and indexes that end with the same timers are the same. A schedule
that is filled by such calls, between scans, grants a scan the due timers of the region in the
order in which they run. -/
theorem TimerIndex.refines_map (calls others : List TimerCall) (recheckSecs : UInt64)
    (scheduleCalls : List Schedule.Call) (now : Timestamp) :
    ((runCalls TimerIndex.call .empty calls).1 = (runCalls TimerMap.call .empty calls).1 ∧
      Refines (runCalls TimerIndex.call .empty calls).2 (runCalls TimerMap.call .empty calls).2) ∧
    ((runCalls TimerIndex.call .empty others).2.all =
        (runCalls TimerIndex.call .empty calls).2.all ↔
      (runCalls TimerIndex.call .empty others).2 = (runCalls TimerIndex.call .empty calls).2) ∧
    let s := scheduleCalls.foldl Schedule.call (.empty recheckSecs)
    (∀ zone, (s.scanZone zone now).1 =
      if Schedule.mayScan s.recheckSecs (s.zoneScans.get? zone) now then
        some ((s.due now).filter (fun t => t.zone == zone)) else none) ∧
    (∀ grid, (s.scanGrid grid now).1 =
      if Schedule.mayScan s.recheckSecs (s.gridScans.get? grid) now then
        some ((s.due now).filter (fun t => t.grid == grid)) else none) := by
  obtain ⟨hanswers, hend⟩ := Agrees.empty.run calls
  obtain ⟨-, hother⟩ := Agrees.empty.run others
  have hschedule := Schedule.coherent_run recheckSecs scheduleCalls
  exact ⟨⟨hanswers, hend.refines⟩,
    ⟨hother.coherent.ext_all hend.coherent, fun same => by rw [same]⟩,
    fun zone => hschedule.scanZone zone now, fun grid => hschedule.scanGrid grid now⟩

end SpawnForest
