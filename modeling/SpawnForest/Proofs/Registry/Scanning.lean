import SpawnForest.Proofs.Registry.TimerWrites

/-!
# Who scans a zone

A schedule remembers when each zone was scanned last. Nothing writes this but
the respawn of a zone, and that writes it for its own zone, if the scan is
granted (`perform_scans`, `scans_respawnZone`). Timers that come and go, and
scans of grids, leave it alone.
-/

namespace SpawnForest

/-- Two schedules were scanned alike: each zone at the same time, and with the same interval to
wait for the next scan. -/
structure Schedule.ScannedAlike (s s' : Schedule) : Prop where
  zoneScans : s'.zoneScans = s.zoneScans
  recheckSecs : s'.recheckSecs = s.recheckSecs

namespace Schedule

variable {s s' s'' : Schedule}

namespace ScannedAlike

theorem refl (s : Schedule) : s.ScannedAlike s := ⟨rfl, rfl⟩

theorem of_eq (h : s' = s) : s.ScannedAlike s' := h ▸ .refl s

theorem trans (h : s.ScannedAlike s') (h' : s'.ScannedAlike s'') : s.ScannedAlike s'' :=
  ⟨h'.zoneScans.trans h.zoneScans, h'.recheckSecs.trans h.recheckSecs⟩

end ScannedAlike

theorem scannedAlike_setIndex (s : Schedule) (kind : SpawnKind) (x : TimerIndex) :
    s.ScannedAlike (s.setIndex kind x) := by
  cases kind <;> exact ⟨rfl, rfl⟩

theorem scannedAlike_foldl_erase (s : Schedule) (l : List Timer) :
    s.ScannedAlike (l.foldl (fun s t => s.erase t.kind t.key) s) :=
  List.foldlRecOn l _ (.refl s) (fun _ h t _ => h.trans (scannedAlike_setIndex _ t.kind _))

theorem scannedAlike_foldl_remove (s : Schedule) (pools : List PoolId) :
    s.ScannedAlike (pools.foldl (fun s id => s.remove (.ofPool id)) s) :=
  List.foldlRecOn pools _ (.refl s) (fun _ h _ _ => h.trans ⟨rfl, rfl⟩)

theorem scannedAlike_scanGrid (s : Schedule) (grid : GridId) (now : Timestamp) :
    s.ScannedAlike (s.scanGrid grid now).2 := by
  unfold scanGrid
  split
  · exact ⟨rfl, rfl⟩
  · exact .refl s

/-- A scan that is granted is remembered, and one that is refused leaves no trace. -/
theorem scanZone_scans (s : Schedule) (zone : ZoneId) (now : Timestamp) :
    (s.scanZone zone now).2.zoneScans =
        (if mayScan s.recheckSecs (s.zoneScans.get? zone) now then s.zoneScans.insert zone now
          else s.zoneScans) ∧
      (s.scanZone zone now).2.recheckSecs = s.recheckSecs := by
  unfold scanZone
  split <;> exact ⟨rfl, rfl⟩

end Schedule

/-- Whether an operation is the respawn of a zone. -/
def Operation.scansZone : Operation → Bool
  | respawnZone _ => true
  | _ => false

namespace Registry

variable {r : Registry}

theorem scans_expedite (hr : r.Planned) (kind : SpawnKind) (pool : PoolId) (point : PointId) :
    r.timers.ScannedAlike (exec (expedite kind pool point) r).2.timers := by
  rcases exec_expedite hr kind pool point with hsame | ⟨root, t, s, -, -, -, hran⟩
  · exact .of_eq hsame
  · rw [hran]
    exact Schedule.scannedAlike_setIndex _ _ _

theorem scans_runTimers (hr : r.Planned) (l : List Timer) :
    r.timers.ScannedAlike (exec (runTimers l) r).2.timers := by
  obtain ⟨done, hran, -⟩ := exec_runTimers hr l
  rw [hran]
  exact Schedule.scannedAlike_foldl_erase _ done

theorem scans_handleDeath (hr : r.Planned) (handle : EntityHandle) (looted : Bool) :
    r.timers.ScannedAlike (exec (handleDeath handle looted) r).2.timers := by
  rcases exec_handleDeath r handle looted with
    ⟨-, h⟩ | ⟨spawn, -, -, h⟩ | ⟨spawn, p, q, corpseSecs, g, due, hlive, hpoint, -, h⟩
  · rw [h]
    exact .refl _
  · rw [h]
    exact .refl _
  · rw [h]
    exact (Schedule.scannedAlike_setIndex _ _ _).trans
      (scans_expedite (hr.buried hlive hpoint corpseSecs g _) _ _ _)

theorem scans_handleDespawn (hr : r.Planned) (handle : EntityHandle) (bulk : Bool) :
    r.timers.ScannedAlike (exec (handleDespawn handle bulk) r).2.timers := by
  rcases exec_handleDespawn r handle bulk with ⟨-, h⟩ | ⟨spawn, hlive, h | ⟨p, -, hpoint, h⟩⟩
  · rw [h]
    exact .refl _
  · rw [h]
    exact .refl _
  · have hkept := scans_expedite (hr.departed hlive hpoint) spawn.kind spawn.pool spawn.point
    rw [h]
    exact hkept

/-- What is no respawn of a zone scans no zone. -/
theorem perform_scans (hr : r.Planned) {op : Operation} (hop : op.scansZone = false) :
    r.timers.ScannedAlike (r.perform op).timers := by
  cases hspared : op.sparesTimers with
  | true => exact .of_eq (perform_timers hr hspared)
  | false =>
      cases op with
      | respawnPool pool =>
          rw [perform, respawnPool_timers hr]
          exact Schedule.scannedAlike_foldl_remove _ _
      | reseedPool pool =>
          rw [perform, reseedPool_timers hr]
          exact Schedule.scannedAlike_foldl_remove _ _
      | setActive pool active =>
          rw [perform, setActive_timers hr]
          cases active with
          | true => exact .refl _
          | false => exact Schedule.scannedAlike_foldl_remove _ _
      | clearRespawns filter =>
          rw [perform]
          rcases clearRespawns_cases r filter with ⟨-, h⟩ | ⟨-, h⟩ <;> rw [h]
          · exact ⟨rfl, rfl⟩
          · exact .refl _
      | restoreTimer pool point due =>
          rw [perform]
          rcases restoreTimer_cases r pool point due with ⟨q, p, -, -, h⟩ | ⟨e, h⟩ <;> rw [h]
          · exact Schedule.scannedAlike_setIndex _ _ _
          · exact .refl _
      | respawnDue => exact scans_runTimers hr _
      | respawnGrid grid =>
          have hscanned := hr.timed (r.timers.scanGrid grid r.now).2
          exact (Schedule.scannedAlike_scanGrid _ grid r.now).trans (scans_runTimers hscanned _)
      | respawnZone zone => cases hop
      | handleDeath handle looted => exact scans_handleDeath hr handle looted
      | handleDespawn handle bulk => exact scans_handleDespawn hr handle bulk
      | _ => cases hspared

/-- The respawn of a zone scans it, and does no more than that even if it runs timers. -/
theorem scans_respawnZone (hr : r.Planned) (zone : ZoneId) :
    (r.timers.scanZone zone r.now).2.ScannedAlike (r.perform (.respawnZone zone)).timers := by
  have hscanned := hr.timed (r.timers.scanZone zone r.now).2
  exact scans_runTimers hscanned _

end Registry

end SpawnForest
