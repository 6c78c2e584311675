import SpawnForest.Proofs.Json.RoundTrip
import SpawnForest.World.Snapshot

/-!
# Snapshots as they are stored

A stored snapshot is read back as it was, field by field, if its digest is the
digest of its content (`TimerSnapshot.ofText_toText`); the snapshot of an
instance always is.
-/

namespace SpawnForest

namespace Json

/-! ## Numbers and lists -/

theorem upTo?_ofNat {n greatest : Nat} (h : n ≤ greatest)
    (hgreatest : greatest < 0x10000000000000000) : upTo? greatest (ofNat n) = some n := by
  have hinteger : (JsonNumeral.ofNat n).integer? = some (Int.ofNat n) := by
    have hn : n < 0x10000000000000000 := Nat.lt_of_le_of_lt h hgreatest
    simp [JsonNumeral.integer?, JsonNumeral.ofNat, hn]
  rw [ofNat, upTo?, hinteger]
  exact if_pos h

theorem uint32?_ofNat (n : UInt32) : uint32? (ofNat n.toNat) = some n := by
  have hn : n.toNat ≤ 0xffffffff := Nat.le_of_lt_succ n.toNat_lt
  rw [uint32?, upTo?_ofNat hn (by decide), Option.map_some, UInt32.ofNat_toNat]

theorem uint64?_ofNat (n : UInt64) : uint64? (ofNat n.toNat) = some n := by
  have hn : n.toNat ≤ 0xffffffffffffffff := Nat.le_of_lt_succ n.toNat_lt
  rw [uint64?, upTo?_ofNat hn (by decide), Option.map_some, UInt64.ofNat_toNat]

/-- Values that are read back one by one are read back as a list. -/
theorem mapM_map_eq_some {α β : Type} {read : β → Option α} {write : α → β}
    (h : ∀ a, read (write a) = some a) (l : List α) : (l.map write).mapM read = some l := by
  induction l with
  | nil => rfl
  | cons a l ih =>
      rw [List.map_cons, List.mapM_cons, h, ih]
      rfl

/-! ## Records -/

theorem givenOnce_of_nodup {members : List (String × Json)} (h : (members.map Prod.fst).Nodup)
    (names : List String) : givenOnce names members = true := by
  refine List.all_eq_true.mpr fun name _ => decide_eq_true ?_
  have hcount := List.nodup_iff_count.mp h name
  rw [List.count, List.countP_map, List.countP_eq_length_filter] at hcount
  exact hcount

/-- The fields of a record in which no name is repeated. -/
theorem fields?_record {members : List (String × Json)} (h : (members.map Prod.fst).Nodup)
    (names : List String) : fields? names (record members) = some ⟨members, false⟩ := by
  have hnamed : namedMembers? (members.map (fun m => (some m.1, m.2))) = some members := by
    refine mapM_map_eq_some (fun m => ?_) members
    rfl
  rw [record, fields?, hnamed]
  exact if_pos (givenOnce_of_nodup h names)

end Json

open Json

theorem Id.ofJson?_toJson {realm : Realm} (id : Id realm) : Id.ofJson? id.toJson = some id := by
  rw [Id.toJson, ofUInt32, Id.ofJson?, uint32?_ofNat, Option.map_some]

theorem Timestamp.ofJson?_toJson (t : Timestamp) : Timestamp.ofJson? t.toJson = some t := by
  rw [Timestamp.toJson, Timestamp.toNat, Timestamp.ofJson?, uint64?_ofNat, Option.map_some]

theorem StoredTimer.ofJson?_toJson (t : StoredTimer) : StoredTimer.ofJson? t.toJson = some t := by
  rw [StoredTimer.toJson, StoredTimer.ofJson?, fields?_record (by simp)]
  simp [Fields.required, Fields.get?, List.lookup_cons, Id.ofJson?_toJson,
    Timestamp.ofJson?_toJson, uint32?_ofNat]

namespace TimerSnapshot

theorem ofJson?_toJson (s : TimerSnapshot) : ofJson? s.toJson = some s := by
  have htimers : (Json.list (s.content.timers.map StoredTimer.toJson)).listOf?
      StoredTimer.ofJson? = some s.content.timers :=
    mapM_map_eq_some StoredTimer.ofJson?_toJson _
  have hhash : (Json.ofString s.hash).string? = some s.hash := rfl
  rw [toJson, ofJson?, fields?_record (by simp [SnapshotContent.members])]
  simp [SnapshotContent.members, Fields.required, Fields.get?, List.lookup_cons, Id.ofJson?_toJson,
    Timestamp.ofJson?_toJson, uint32?_ofNat, htimers, hhash]

/-! ## Texts -/

theorem readable_timer {levels : Nat} (t : StoredTimer) : Readable (levels + 1) t.toJson :=
  .record_of_forall ⟨.number _, .number _, .number _, .number _, .number _⟩

theorem readable_toJson (levels : Nat) (s : TimerSnapshot) : Readable (levels + 3) s.toJson :=
  .record_of_forall ⟨.number _, .number _, .number _, .list_map _ readable_timer, .text _⟩

theorem ofText_toText {s : TimerSnapshot} (h : s.verify = .ok ()) : ofText s.toText = .ok s := by
  have htext : Json.ofText? s.toJson.pretty = some s.toJson :=
    ofText?_pretty (readable_toJson 124 s)
  rw [ofText, toText, htext, Option.bind_some, ofJson?_toJson]
  dsimp only
  rw [h]
  rfl

theorem verify_ofContent (c : SnapshotContent) : (ofContent c).verify = .ok () := if_pos rfl

end TimerSnapshot

end SpawnForest
