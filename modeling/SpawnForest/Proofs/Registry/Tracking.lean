import SpawnForest.Proofs.Table.Views
import SpawnForest.Registry.Basic

/-!
# Live entities and their points

The table of live entities and the points name each other: every live entity is
on the point it was spawned at, which is reserved for just what it was spawned
from, and every entity on a point is alive. `Tracking` says this about the two
tables, and each way in which one of them is written has one lemma here.

The third part of it is the number of handles that the host has given out. It
is above every live handle, so a new entity never takes the place of another.
-/

namespace SpawnForest

/-- What a live entity was spawned from, as its point was reserved for it. -/
def LiveSpawn.reservation (s : LiveSpawn) : Reservation := ⟨s.pool, s.entry, s.kind⟩

/-- The live table and the points name each other. -/
structure Tracking (points : Table PointId SpawnPoint) (live : Table EntityHandle LiveSpawn)
    (issued : Nat) : Prop where
  tracked : ∀ {h s}, live.get? h = some s →
    ∃ p, points.get? s.point = some p ∧ p.entity = some h ∧ p.reservation = some s.reservation
  placed : ∀ {x p h}, points.get? x = some p → p.entity = some h →
    ∃ s, live.get? h = some s ∧ s.point = x
  issued_lt : ∀ {h s}, live.get? h = some s → h.serial < issued

namespace Tracking

variable {points points' : Table PointId SpawnPoint} {live : Table EntityHandle LiveSpawn}
  {issued : Nat}

theorem of_vacant (h : ∀ {x p}, points.get? x = some p → p.entity = none) (issued : Nat) :
    Tracking points .empty issued := by
  refine ⟨fun hs => ?_, fun hp he => ?_, fun hs => ?_⟩
  · cases hs
  · rw [h hp] at he
    cases he
  · cases hs

/-- The next handle is not in use. -/
theorem get?_issued (h : Tracking points live issued) : live.get? ⟨issued⟩ = none := by
  rw [← Option.not_isSome_iff_eq_none, Option.isSome_iff_exists]
  exact fun ⟨_, hs⟩ => Nat.lt_irrefl _ (h.issued_lt hs)

/-- A free point has no entity. -/
theorem entity_of_free (h : Tracking points live issued) {x : PointId} {p : SpawnPoint}
    (hp : points.get? x = some p) (hfree : p.reservation = none) : p.entity = none := by
  cases he : p.entity with
  | none => rfl
  | some handle =>
      obtain ⟨s, hs, rfl⟩ := h.placed hp he
      obtain ⟨q, hq, -, hheld⟩ := h.tracked hs
      rw [hp] at hq
      obtain rfl := Option.some.inj hq
      rw [hfree] at hheld
      cases hheld

/-- Two points do not share an entity. -/
theorem point_eq (h : Tracking points live issued) {handle : EntityHandle} {s : LiveSpawn}
    (hs : live.get? handle = some s) {x : PointId} {p : SpawnPoint} (hp : points.get? x = some p)
    (he : p.entity = some handle) : s.point = x := by
  obtain ⟨t, ht, hx⟩ := h.placed hp he
  rw [hs] at ht
  obtain rfl := Option.some.inj ht
  exact hx

theorem of_alike (h : Tracking points live issued)
    (hpoints : points.Alike (fun p => (p.entity, p.reservation)) points') :
    Tracking points' live issued := by
  refine ⟨fun hs => ?_, fun hq he => ?_, h.issued_lt⟩
  · obtain ⟨p, hp, he, hheld⟩ := h.tracked hs
    obtain ⟨q, hq, hsame⟩ := hpoints.find hp
    obtain ⟨hentity, hreservation⟩ := Prod.mk.inj hsame
    exact ⟨q, hq, hentity.trans he, hreservation.trans hheld⟩
  · obtain ⟨p, hp, hsame⟩ := hpoints.symm.find hq
    exact h.placed hp ((Prod.mk.inj hsame).1.trans he)

/-- A point without an entity is reserved or released. -/
theorem rereserve (h : Tracking points live issued) {x : PointId} {p : SpawnPoint}
    (change : SpawnPoint → SpawnPoint) (hp : points.get? x = some p) (hentity : p.entity = none)
    (hchange : (change p).entity = none) : Tracking (points.modify x change) live issued := by
  refine ⟨?_, ?_, h.issued_lt⟩
  · intro handle s hs
    obtain ⟨q, hq, he, hheld⟩ := h.tracked hs
    have hne : s.point ≠ x := by
      intro same
      rw [same, hp] at hq
      obtain rfl := Option.some.inj hq
      rw [hentity] at he
      cases he
    exact ⟨q, by rwa [Table.get?_modify_of_ne hne], he, hheld⟩
  · intro y q handle hq he
    rcases Table.get?_modify_cases hq with ⟨rfl, a, ha, rfl⟩ | ⟨-, hq⟩
    · rw [hp] at ha
      obtain rfl := Option.some.inj ha
      rw [hchange] at he
      cases he
    · exact h.placed hq he

/-- An entity leaves its point and the table. -/
theorem unlink (h : Tracking points live issued) {handle : EntityHandle} {s : LiveSpawn}
    (hs : live.get? handle = some s) :
    Tracking (points.modify s.point (·.detach)) (live.erase handle) issued := by
  obtain ⟨p, hp, he, -⟩ := h.tracked hs
  refine ⟨?_, ?_, fun ht => h.issued_lt (Table.get?_erase_cases ht).2⟩
  · intro k t ht
    obtain ⟨hne, ht⟩ := Table.get?_erase_cases ht
    obtain ⟨q, hq, hk, hheld⟩ := h.tracked ht
    have hpoint : t.point ≠ s.point := by
      intro same
      rw [same, hp] at hq
      obtain rfl := Option.some.inj hq
      rw [he] at hk
      exact hne (Option.some.inj hk).symm
    exact ⟨q, by rwa [Table.get?_modify_of_ne hpoint], hk, hheld⟩
  · intro y q k hq hk
    rcases Table.get?_modify_cases hq with ⟨rfl, a, ha, rfl⟩ | ⟨hy, hq⟩
    · cases hk
    · obtain ⟨t, ht, hpoint⟩ := h.placed hq hk
      have hne : k ≠ handle := by
        rintro rfl
        exact hy (h.point_eq hs hq hk).symm
      exact ⟨t, by rwa [Table.get?_erase_of_ne _ hne], hpoint⟩

/-- A new entity comes to a reserved point. -/
theorem attach (h : Tracking points live issued) {s : LiveSpawn} {p : SpawnPoint}
    (hp : points.get? s.point = some p) (hentity : p.entity = none)
    (hheld : p.reservation = some s.reservation) :
    Tracking (points.modify s.point (·.attach ⟨issued⟩)) (live.insert ⟨issued⟩ s) (issued + 1) := by
  refine ⟨?_, ?_, ?_⟩
  · intro k t ht
    rcases Table.get?_insert_cases ht with ⟨rfl, rfl⟩ | ⟨-, ht⟩
    · exact ⟨_, Table.get?_modify_self hp, rfl, hheld⟩
    · obtain ⟨q, hq, hk, hheld'⟩ := h.tracked ht
      have hpoint : t.point ≠ s.point := by
        intro same
        rw [same, hp] at hq
        obtain rfl := Option.some.inj hq
        rw [hentity] at hk
        cases hk
      exact ⟨q, by rwa [Table.get?_modify_of_ne hpoint], hk, hheld'⟩
  · intro y q k hq hk
    rcases Table.get?_modify_cases hq with ⟨rfl, a, -, rfl⟩ | ⟨hy, hq⟩
    · obtain rfl := Option.some.inj hk
      exact ⟨s, Table.get?_insert_self _ _ _, rfl⟩
    · obtain ⟨t, ht, hpoint⟩ := h.placed hq hk
      have hne : k ≠ ⟨issued⟩ := by
        rintro rfl
        exact Nat.lt_irrefl _ (h.issued_lt ht)
      exact ⟨t, by rwa [Table.get?_insert_of_ne _ _ hne], hpoint⟩
  · intro k t ht
    rcases Table.get?_insert_cases ht with ⟨rfl, -⟩ | ⟨-, ht⟩
    · exact Nat.lt_succ_self _
    · exact Nat.lt_succ_of_lt (h.issued_lt ht)

end Tracking

end SpawnForest
