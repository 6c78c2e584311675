import SpawnForest.Proofs.Timer.Refinement

/-!
# Scans of a region keep their distance

A schedule remembers one moment for each zone and one for each grid, and that
is all it takes to throttle scans. The rule itself needs no schedule: of the
moments at which a region is asked for, take the first one, and from then on
each one that is far enough from the one taken last (`throttled`). A run of
calls grants a region just these moments (`grantedScans_eq`), whatever else is
asked of the schedule in between and however the clock jumps.

One call says it all: it moves the memory of the region that it was granted a
scan of, and no other one (`lastScan_call`). The rest is induction on the calls.
-/

namespace SpawnForest.Schedule

/-! ## Regions and calls -/

/-- What is scanned as one. Zones and grids are numbered apart. -/
inductive Scope where
  | zone (zone : ZoneId)
  | grid (grid : GridId)
deriving DecidableEq

def scan (s : Schedule) : Scope → Timestamp → Option (List Timer) × Schedule
  | .zone zone, now => s.scanZone zone now
  | .grid grid, now => s.scanGrid grid now

def lastScan (s : Schedule) : Scope → Option Timestamp
  | .zone zone => s.zoneScans.get? zone
  | .grid grid => s.gridScans.get? grid

/-- The scan that a call asks for. -/
def Call.scan? : Call → Option (Scope × Timestamp)
  | .scanZone zone now => some (.zone zone, now)
  | .scanGrid grid now => some (.grid grid, now)
  | _ => none

/-- The moment at which a call asks for a region, if that is what it asks for. -/
def Call.asks (here : Scope) (c : Call) : Option Timestamp :=
  match c.scan? with
  | some (there, now) => if there = here then some now else none
  | none => none

/-- The moment at which a call is granted a scan of a region. -/
def grants (s : Schedule) (here : Scope) (c : Call) : Option Timestamp :=
  (Call.asks here c).filter (fun now => (s.scan here now).1.isSome)

/-- The moments at which some calls are granted scans of a region, one after the other. -/
def grantedScans (here : Scope) : Schedule → List Call → List Timestamp
  | _, [] => []
  | s, c :: calls => (s.grants here c).toList ++ grantedScans here (s.call c) calls

/-- Of some moments those that are granted, given the last one before them. -/
def throttled (recheckSecs : UInt64) : Option Timestamp → List Timestamp → List Timestamp
  | _, [] => []
  | last, now :: rest =>
    if mayScan recheckSecs last now then now :: throttled recheckSecs (some now) rest
    else throttled recheckSecs last rest

variable {s : Schedule} {c : Call} {here there : Scope} {now : Timestamp} {recheckSecs : UInt64}

/-! ## One scan -/

theorem isSome_scan (s : Schedule) (here : Scope) (now : Timestamp) :
    (s.scan here now).1.isSome = mayScan s.recheckSecs (s.lastScan here) now := by
  cases here with
  | zone zone =>
      rw [scan, scanZone, lastScan]
      split <;> simp_all
  | grid grid =>
      rw [scan, scanGrid, lastScan]
      split <;> simp_all

theorem scan_eq_none_iff :
    (s.scan here now).1 = none ↔
      ∃ last, s.lastScan here = some last ∧ now.since last < s.recheckSecs.toNat := by
  rw [← Option.not_isSome_iff_eq_none, isSome_scan]
  cases s.lastScan here <;> simp [mayScan]

/-- A scan that is refused leaves no trace. -/
theorem scan_of_refused (h : (s.scan here now).1 = none) : (s.scan here now).2 = s := by
  cases here with
  | zone zone =>
      rw [scan, scanZone] at h ⊢
      by_cases hmay : mayScan s.recheckSecs (s.zoneScans.get? zone) now = true
      · rw [if_pos hmay] at h
        cases h
      · rw [if_neg hmay]
  | grid grid =>
      rw [scan, scanGrid] at h ⊢
      by_cases hmay : mayScan s.recheckSecs (s.gridScans.get? grid) now = true
      · rw [if_pos hmay] at h
        cases h
      · rw [if_neg hmay]

theorem recheckSecs_scan (s : Schedule) (here : Scope) (now : Timestamp) :
    (s.scan here now).2.recheckSecs = s.recheckSecs := by
  cases here with
  | zone zone => rw [scan, scanZone]; split <;> rfl
  | grid grid => rw [scan, scanGrid]; split <;> rfl

theorem lastScan_scan_self (h : (s.scan here now).1.isSome = true) :
    (s.scan here now).2.lastScan here = some now := by
  cases here with
  | zone zone =>
      rw [isSome_scan, lastScan] at h
      rw [scan, scanZone, if_pos h]
      exact Table.get?_insert_self _ _ _
  | grid grid =>
      rw [isSome_scan, lastScan] at h
      rw [scan, scanGrid, if_pos h]
      exact Table.get?_insert_self _ _ _

/-- No region is remembered for the scan of another one, granted or not. -/
theorem lastScan_scan_of_ne (s : Schedule) (hne : there ≠ here) (now : Timestamp) :
    (s.scan there now).2.lastScan here = s.lastScan here := by
  cases there with
  | zone zone =>
      rw [scan, scanZone]
      split
      · cases here with
        | zone other => exact Table.get?_insert_of_ne _ _ (fun same => hne (same ▸ rfl))
        | grid grid => rfl
      · rfl
  | grid grid =>
      rw [scan, scanGrid]
      split
      · cases here with
        | zone zone => rfl
        | grid other => exact Table.get?_insert_of_ne _ _ (fun same => hne (same ▸ rfl))
      · rfl

/-! ## One call -/

theorem setIndex_scans (s : Schedule) (kind : SpawnKind) (x : TimerIndex) :
    (s.setIndex kind x).lastScan = s.lastScan ∧
      (s.setIndex kind x).recheckSecs = s.recheckSecs := by
  cases kind <;> exact ⟨rfl, rfl⟩

/-- Timers that come and go are no scans. -/
theorem call_of_no_scan (s : Schedule) (h : c.scan? = none) :
    (s.call c).lastScan = s.lastScan ∧ (s.call c).recheckSecs = s.recheckSecs := by
  cases c with
  | add t replace => exact setIndex_scans s t.kind _
  | erase kind key => exact setIndex_scans s kind _
  | remove f =>
      rw [call, take]
      by_cases hgiven : f.given = 1
      · rw [if_pos hgiven]
        exact ⟨rfl, rfl⟩
      · rw [if_neg hgiven]
        exact ⟨rfl, rfl⟩
  | scanZone zone now => cases h
  | scanGrid grid now => cases h

theorem call_of_scan (s : Schedule) (h : c.scan? = some (there, now)) :
    s.call c = (s.scan there now).2 := by
  cases c with
  | scanZone zone now => cases h; rfl
  | scanGrid grid now => cases h; rfl
  | _ => cases h

theorem recheckSecs_call (s : Schedule) (c : Call) : (s.call c).recheckSecs = s.recheckSecs := by
  cases hscan : c.scan? with
  | none => exact (call_of_no_scan s hscan).2
  | some asked => rw [call_of_scan s hscan, recheckSecs_scan]

/-- A call is remembered for a region just if it was granted a scan of it. -/
theorem lastScan_call (s : Schedule) (here : Scope) (c : Call) :
    (s.call c).lastScan here = (s.grants here c).or (s.lastScan here) := by
  rw [grants, Call.asks]
  cases hscan : c.scan? with
  | none =>
      rw [(call_of_no_scan s hscan).1]
      rfl
  | some asked =>
      obtain ⟨there, now⟩ := asked
      rw [call_of_scan s hscan]
      dsimp only
      by_cases hhere : there = here
      · subst hhere
        rw [if_pos rfl, Option.filter_some]
        cases hran : (s.scan there now).1 with
        | none =>
            rw [scan_of_refused hran]
            rfl
        | some due =>
            rw [lastScan_scan_self (by rw [hran]; rfl)]
            rfl
      · rw [if_neg hhere, lastScan_scan_of_ne s hhere]
        rfl

/-! ## Runs -/

/-- What is remembered for a region after some calls is the last scan that was granted. -/
theorem lastScan_foldl (s : Schedule) (here : Scope) (calls : List Call) :
    (calls.foldl call s).lastScan here =
      (grantedScans here s calls).getLast?.or (s.lastScan here) := by
  induction calls generalizing s with
  | nil => rfl
  | cons c calls ih =>
      rw [List.foldl_cons, ih, lastScan_call, grantedScans, List.getLast?_append, Option.or_assoc]
      cases s.grants here c <;> rfl

theorem recheckSecs_foldl (s : Schedule) (calls : List Call) :
    (calls.foldl call s).recheckSecs = s.recheckSecs :=
  List.foldlRecOn calls call (motive := fun t => t.recheckSecs = s.recheckSecs) rfl
    (fun t ht c _ => (recheckSecs_call t c).trans ht)

/-- The scans of a region that are granted are told from the moments at which it is asked for. -/
theorem grantedScans_eq (s : Schedule) (here : Scope) (calls : List Call) :
    grantedScans here s calls =
      throttled s.recheckSecs (s.lastScan here) (calls.filterMap (Call.asks here)) := by
  induction calls generalizing s with
  | nil => rfl
  | cons c calls ih =>
      rw [grantedScans, ih, recheckSecs_call, lastScan_call, grants]
      cases hasks : Call.asks here c with
      | none =>
          rw [List.filterMap_cons_none hasks]
          rfl
      | some now =>
          rw [List.filterMap_cons_some hasks, throttled, Option.filter_some, isSome_scan]
          split <;> rfl

/-- Of two scans granted in a row the later one has waited for its interval. -/
theorem throttled_isChain (hpos : 0 < recheckSecs.toNat) (last : Timestamp)
    (asked : List Timestamp) :
    (last :: throttled recheckSecs (some last) asked).IsChain
      (fun t u => t.toNat + recheckSecs.toNat ≤ u.toNat) := by
  induction asked generalizing last with
  | nil => exact .singleton last
  | cons now rest ih =>
      rw [throttled]
      by_cases hmay : mayScan recheckSecs (some last) now = true
      · rw [if_pos hmay]
        refine .cons_cons ?_ (ih now)
        have hsince : recheckSecs.toNat ≤ now.since last := of_decide_eq_true hmay
        rw [Timestamp.since] at hsince
        omega
      · rw [if_neg hmay]
        exact ih last

/-- Scans of a region keep their distance. Whatever calls a new schedule has taken, in whatever
order and at whatever moments, each scan of a region that it granted came an interval after the one
before, if there is an interval to wait for. It refuses the next one just if the last one granted is
less than an interval ago, and a refusal leaves no trace. Calls that ask for other regions, or that
store and drop timers, have no influence on what it grants. -/
theorem scans_keep_distance (recheckSecs : UInt64) (calls : List Call) (here : Scope)
    (now : Timestamp) :
    let s := calls.foldl call (empty recheckSecs)
    let granted := grantedScans here (empty recheckSecs) calls
    (0 < recheckSecs.toNat →
      granted.IsChain (fun t u => t.toNat + recheckSecs.toNat ≤ u.toNat)) ∧
    ((s.scan here now).1 = none ↔
      ∃ last, granted.getLast? = some last ∧ now.since last < recheckSecs.toNat) ∧
    ((s.scan here now).1 = none → (s.scan here now).2 = s) ∧
    ∀ others : List Call, others.filterMap (Call.asks here) = calls.filterMap (Call.asks here) →
      grantedScans here (empty recheckSecs) others = granted ∧
      (((others.foldl call (empty recheckSecs)).scan here now).1.isSome ↔
        (s.scan here now).1.isSome) := by
  intro s granted
  have hnone : (empty recheckSecs).lastScan here = none := by cases here <;> rfl
  have hlast : ∀ calls : List Call, (calls.foldl call (empty recheckSecs)).lastScan here =
      (grantedScans here (empty recheckSecs) calls).getLast? := by
    intro calls
    rw [lastScan_foldl, hnone, Option.or_none]
  have hinterval : ∀ calls : List Call,
      (calls.foldl call (empty recheckSecs)).recheckSecs = recheckSecs := fun calls =>
    recheckSecs_foldl _ calls
  refine ⟨fun hpos => ?_, ?_, scan_of_refused, fun others hsame => ?_⟩
  · have hall : granted = throttled recheckSecs none (calls.filterMap (Call.asks here)) := by
      rw [← hnone]
      exact grantedScans_eq _ here calls
    rw [hall]
    cases calls.filterMap (Call.asks here) with
    | nil => exact .nil
    | cons first rest => exact throttled_isChain hpos first rest
  · rw [scan_eq_none_iff, hlast, hinterval]
  · have hgranted : grantedScans here (empty recheckSecs) others = granted := by
      rw [grantedScans_eq, hsame, ← grantedScans_eq]
    refine ⟨hgranted, ?_⟩
    rw [isSome_scan, isSome_scan, hlast, hlast, hinterval, hinterval, hgranted]

/-- A zone and a grid of the same number are asked for, and the clock jumps back in the end. -/
def restlessCalls : List Call :=
  [.scanZone ⟨4⟩ ⟨20⟩, .scanGrid ⟨4⟩ ⟨24⟩, .scanZone ⟨4⟩ ⟨25⟩, .remove (.ofPool ⟨1⟩),
    .scanZone ⟨4⟩ ⟨30⟩, .scanZone ⟨4⟩ ⟨12⟩]

/-- Two of four scans of the zone are granted, and one more is refused nine seconds after them. -/
theorem scans_keep_distance_restless :
    grantedScans (.zone ⟨4⟩) (empty 10) restlessCalls = [⟨20⟩, ⟨30⟩] ∧
    (grantedScans (.zone ⟨4⟩) (empty 10) restlessCalls).IsChain
      (fun t u => t.toNat + 10 ≤ u.toNat) ∧
    ((restlessCalls.foldl call (empty 10)).scan (.zone ⟨4⟩) ⟨39⟩).1 = none := by
  have hgranted : grantedScans (.zone ⟨4⟩) (empty 10) restlessCalls = [⟨20⟩, ⟨30⟩] := by decide
  obtain ⟨hapart, hrefused, -, -⟩ := scans_keep_distance 10 restlessCalls (.zone ⟨4⟩) ⟨39⟩
  refine ⟨hgranted, hapart (by decide), hrefused.mpr ⟨⟨30⟩, ?_, by decide⟩⟩
  rw [hgranted]
  rfl

end SpawnForest.Schedule
