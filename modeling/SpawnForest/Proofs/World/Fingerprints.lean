import SpawnForest.Proofs.World.Storing
import SpawnForest.Table.Lemmas

/-!
# What a digest is taken of

A digest can tell no more apart than the text it is taken of. Both texts tell
everything apart that they list: they are read back, so that equal texts are of
equal values (`Json.compact_inj`), and each value gives its parts back
(the `toJson_inj` of their types). So two snapshots with one text agree in
every field besides the digest, two registries with one text are in the
`SameState`, and whatever passes for something else amounts to two texts with
one digest (`Digest.Collision`).
-/

namespace SpawnForest

/-- Two texts with one digest. -/
def Digest.Collision (s t : String) : Prop := s.toUTF8 ≠ t.toUTF8 ∧ hex s = hex t

theorem Digest.hex_eq_iff (s t : String) : hex s = hex t ↔ s = t ∨ Collision s t := by
  constructor
  · intro h
    by_cases hsame : s = t
    · exact .inl hsame
    · exact .inr ⟨fun hbytes => hsame (String.toByteArray_inj.mp hbytes), h⟩
  · rintro (rfl | ⟨-, h⟩)
    · rfl
    · exact h

/-! ## Values by their parts -/

namespace Json

@[simp] theorem ofNat_inj {n m : Nat} : ofNat n = ofNat m ↔ n = m := by
  simp [ofNat, JsonNumeral.ofNat]

@[simp] theorem ofUInt32_inj {n m : UInt32} : ofUInt32 n = ofUInt32 m ↔ n = m := by
  rw [ofUInt32, ofUInt32, ofNat_inj, UInt32.toNat_inj]

theorem ofOption_inj {α : Type} {f : α → Json} (hnull : ∀ a, f a ≠ null)
    (hf : ∀ {a b}, f a = f b ↔ a = b) {a b : Option α} : ofOption f a = ofOption f b ↔ a = b := by
  cases a with
  | none =>
      cases b with
      | none => simp
      | some b => simpa [ofOption] using (hnull b).symm
  | some a =>
      cases b with
      | none => simpa [ofOption] using hnull a
      | some b => simpa [ofOption] using hf

end Json

@[simp] theorem Id.toJson_inj {realm : Realm} {a b : Id realm} : a.toJson = b.toJson ↔ a = b := by
  cases a; cases b
  simp [Id.toJson]

@[simp] theorem Timestamp.toJson_inj {a b : Timestamp} : a.toJson = b.toJson ↔ a = b := by
  rw [Timestamp.toJson, Timestamp.toJson, Json.ofNat_inj, Timestamp.toNat_inj]

theorem EntityHandle.toJson_ne_null (h : EntityHandle) : h.toJson ≠ .null := Json.noConfusion

theorem Reservation.toJson_ne_null (r : Reservation) : r.toJson ≠ .null := Json.noConfusion

@[simp] theorem EntityHandle.toJson_inj {a b : EntityHandle} : a.toJson = b.toJson ↔ a = b := by
  cases a; cases b
  simp [EntityHandle.toJson]

@[simp] theorem SpawnKind.toJson_inj {a b : SpawnKind} : a.toJson = b.toJson ↔ a = b := by
  cases a <;> cases b <;> simp [SpawnKind.toJson, SpawnKind.word, Json.ofString]

@[simp] theorem Reservation.toJson_inj {a b : Reservation} : a.toJson = b.toJson ↔ a = b := by
  cases a; cases b
  simp [Reservation.toJson, Json.record]

@[simp] theorem Timer.toJson_inj {a b : Timer} : a.toJson = b.toJson ↔ a = b := by
  cases a; cases b
  simp [Timer.toJson, Json.record]

@[simp] theorem LiveSpawn.toJson_inj {a b : LiveSpawn} : a.toJson = b.toJson ↔ a = b := by
  cases a; cases b
  simp [LiveSpawn.toJson, Json.record, UInt32.toNat_inj]

@[simp] theorem StoredTimer.toJson_inj {a b : StoredTimer} : a.toJson = b.toJson ↔ a = b := by
  cases a; cases b
  simp [StoredTimer.toJson, Json.record, UInt32.toNat_inj]

/-- Lists whose items are written by one of their parts are written the same where these parts are
the same. -/
theorem map_write_iff {α β : Type} (write : α → Json) (part : α → β)
    (hwrite : ∀ a b, write a = write b ↔ part a = part b) (l l' : List α) :
    l.map write = l'.map write ↔ l.map part = l'.map part := by
  induction l generalizing l' with
  | nil => cases l' <;> simp
  | cons a l ih =>
      cases l' with
      | nil => simp
      | cons b l' => simp [hwrite, ih]

/-! ## Snapshots -/

namespace SnapshotContent

open Json

theorem readable_members (levels : Nat) (c : SnapshotContent) :
    Readable (levels + 3) (.record c.members) :=
  .record_of_forall ⟨.number _, .number _, .number _, .list_map _ TimerSnapshot.readable_timer⟩

/-- The text of a snapshot tells all of its fields besides the digest. -/
theorem text_inj {a b : SnapshotContent} : a.text = b.text ↔ a = b := by
  rw [text, text, compact_inj (readable_members 124 a) (readable_members 124 b)]
  cases a; cases b
  simp [members, record, UInt32.toNat_inj,
    List.map_inj_right (fun _ _ => StoredTimer.toJson_inj.mp)]

end SnapshotContent

/-! ## Registries -/

namespace Registry

open Json

/-- Two registries that agree in everything their texts list. -/
structure SameState (r s : Registry) : Prop where
  map : r.map = s.map
  pools : r.forest.all.map (fun p => (p.id, p.ownCount, p.totalCount, p.active)) =
    s.forest.all.map (fun p => (p.id, p.ownCount, p.totalCount, p.active))
  points : r.points.values.map (fun p => (p.id, p.reservation, p.entity, p.remains.length)) =
    s.points.values.map (fun p => (p.id, p.reservation, p.entity, p.remains.length))
  timers : r.timers.all = s.timers.all
  live : r.live = s.live

theorem readable_reservation {levels : Nat} (held : Reservation) :
    Readable (levels + 1) held.toJson :=
  .record_of_forall ⟨.number _, .number _, .text _⟩

theorem readable_timer {levels : Nat} (t : Timer) : Readable (levels + 1) t.toJson :=
  .record_of_forall ⟨.text _, .number _, .number _, .number _, .number _, .number _, .number _,
    .number _⟩

theorem readable_spawn {levels : Nat} (spawn : LiveSpawn) : Readable (levels + 1) spawn.toJson :=
  .record_of_forall ⟨.text _, .number _, .number _, .number _⟩

theorem readable_stateJson (levels : Nat) (r : Registry) : Readable (levels + 4) r.stateJson :=
  .record_of_forall ⟨.number _,
    .list_map _ fun _ => .list_of_forall ⟨.number _, .number _, .number _, .bool _⟩,
    .list_map _ fun _ => .list_of_forall ⟨.number _, .ofOption readable_reservation _,
      .ofOption (fun _ => .number _) _, .number _⟩,
    .list_map _ readable_timer,
    .list_map _ fun _ => .list_of_forall ⟨.number _, readable_spawn _⟩⟩

/-- What is written of a registry is its state. -/
theorem stateJson_inj {r s : Registry} : r.stateJson = s.stateJson ↔ r.SameState s := by
  have hpools := map_write_iff
    (fun p : Pool => .list [p.id.toJson, .ofNat p.ownCount, .ofNat p.totalCount, .bool p.active])
    (fun p => (p.id, p.ownCount, p.totalCount, p.active)) (by simp) r.forest.all s.forest.all
  have hpoints := map_write_iff
    (fun p : SpawnPoint => .list [p.id.toJson, .ofOption Reservation.toJson p.reservation,
      .ofOption EntityHandle.toJson p.entity, .ofNat p.remains.length])
    (fun p => (p.id, p.reservation, p.entity, p.remains.length))
    (by simp [ofOption_inj, Reservation.toJson_ne_null, EntityHandle.toJson_ne_null])
    r.points.values s.points.values
  have hlive := map_write_iff (fun e : EntityHandle × LiveSpawn => .list [e.1.toJson, e.2.toJson])
    id (by simp [Prod.ext_iff]) r.live.entries s.live.entries
  rw [List.map_id, List.map_id, Table.entries_inj] at hlive
  rw [stateJson, stateJson, record, record]
  simp only [List.map_cons, List.map_nil, object.injEq, List.cons.injEq, Prod.mk.injEq, true_and,
    and_true, list.injEq, Id.toJson_inj, hpools, hpoints, hlive,
    List.map_inj_right (fun _ _ => Timer.toJson_inj.mp)]
  constructor
  · rintro ⟨hmap, hpools, hpoints, htimers, hlive⟩
    exact ⟨hmap, hpools, hpoints, htimers, hlive⟩
  · rintro ⟨hmap, hpools, hpoints, htimers, hlive⟩
    exact ⟨hmap, hpools, hpoints, htimers, hlive⟩

/-- The text of a registry tells its state. -/
theorem stateText_inj {r s : Registry} : r.stateText = s.stateText ↔ r.SameState s := by
  rw [stateText, stateText, compact_inj (readable_stateJson 123 r) (readable_stateJson 123 s),
    stateJson_inj]

end Registry

namespace TimerSnapshot

/-- A snapshot that carries the digest of some content is accepted if it has that content, or other
content with a text that collides. -/
theorem verify_eq_ok_iff (c content : SnapshotContent) :
    (⟨c, content.hash⟩ : TimerSnapshot).verify = .ok () ↔
      c = content ∨ Digest.Collision c.text content.text := by
  have hverify : (⟨c, content.hash⟩ : TimerSnapshot).verify = .ok () ↔ c.hash = content.hash := by
    rw [verify]
    by_cases h : c.hash = content.hash
    · rw [if_pos h]
      exact ⟨fun _ => h, fun _ => rfl⟩
    · rw [if_neg h]
      exact ⟨nofun, fun heq => absurd heq h⟩
  rw [hverify, SnapshotContent.hash, SnapshotContent.hash, Digest.hex_eq_iff,
    SnapshotContent.text_inj]

/-- The texts that digests are taken of tell everything they list: equal bytes are of snapshots with
equal fields, and of registries in one state. So every snapshot that is taken is accepted, and with
its digest nothing but its own content is, short of a collision. -/
theorem texts_tell_apart :
    (∀ a b : SnapshotContent, a.text.toUTF8 = b.text.toUTF8 ↔ a = b) ∧
    (∀ r s : Registry, r.stateText.toUTF8 = s.stateText.toUTF8 ↔ r.SameState s) ∧
    (∀ i : MapInstance, (capture i).verify = .ok ()) ∧
    ∀ (i : MapInstance) (c : SnapshotContent),
      (⟨c, (capture i).hash⟩ : TimerSnapshot).verify = .ok () ↔
        c = (capture i).content ∨ Digest.Collision c.text (capture i).content.text := by
  refine ⟨fun a b => ?_, fun r s => ?_, fun i => verify_ofContent _, fun i c => ?_⟩
  · exact String.toByteArray_inj.trans SnapshotContent.text_inj
  · exact String.toByteArray_inj.trans Registry.stateText_inj
  · exact verify_eq_ok_iff c (capture i).content

end TimerSnapshot

end SpawnForest
