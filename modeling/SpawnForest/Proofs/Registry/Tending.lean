import SpawnForest.Proofs.Registry.Frame

/-!
# Entities that are not let go

An entity that the registry made is its own to destroy, until somebody reports
that it has left the world. Every other way out ends with the registry: the
entity dies and leaves remains, or it is destroyed. `Retains` says this about
two registries, and a change is `Tended` if it retains what it finds.

Every change is, but for two kinds that only a reported despawn is made of. An
operation that is taken apart into tended changes lets no entity go, which its
changes alone would not say.
-/

namespace SpawnForest

theorem Host.contains_destroy_self (h : Host) (handle : EntityHandle) :
    (h.destroy handle).entities.contains handle = false := by
  unfold Host.destroy
  by_cases hpresent : h.entities.contains handle = true
  · rw [if_pos hpresent]
    show ((h.entities.erase handle).get? handle).isSome = false
    rw [Table.get?_erase_self]
    rfl
  · rw [if_neg hpresent]
    exact Bool.eq_false_iff.mpr hpresent

namespace Registry

variable {may : Registry → PoolId → PointId → Prop} {r s t : Registry}

/-- What lies on the points. -/
def remains (r : Registry) : List Remains := r.points.values.flatMap (·.remains)

theorem mem_remains {x : Remains} :
    x ∈ r.remains ↔ ∃ id p, r.points.get? id = some p ∧ x ∈ p.remains := by
  rw [remains, List.mem_flatMap]
  constructor
  · rintro ⟨p, hp, hx⟩
    obtain ⟨id, hid⟩ := Table.mem_values.mp hp
    exact ⟨id, p, hid, hx⟩
  · rintro ⟨id, p, hid, hx⟩
    exact ⟨p, Table.mem_values.mpr ⟨id, hid⟩, hx⟩

/-- An entity that was spawned from a known pool at a known point is still alive, has left remains,
or is destroyed. -/
def Retains (r s : Registry) : Prop :=
  ∀ handle spawn, r.live.get? handle = some spawn → r.points.contains spawn.point = true →
    r.forest.contains spawn.pool = true →
      s.live.contains handle = true ∨ (∃ x ∈ s.remains, x.handle = handle) ∨
        s.host.entities.contains handle = false

theorem Retains.of_live (h : s.live = r.live) : Retains r s := by
  intro handle spawn hlive _ _
  rw [h, Table.contains, hlive]
  exact .inl rfl

/-- One entity goes from the live table, and if it was spawned as usual it is accounted for. -/
theorem Retains.of_erase {gone : EntityHandle} (h : s.live = r.live.erase gone)
    (hgone : ∀ spawn, r.live.get? gone = some spawn → r.points.contains spawn.point = true →
      r.forest.contains spawn.pool = true →
        (∃ x ∈ s.remains, x.handle = gone) ∨ s.host.entities.contains gone = false) :
    Retains r s := by
  intro handle spawn hlive hpoint hpool
  by_cases hself : handle = gone
  · subst hself
    exact .inr (hgone spawn hlive hpoint hpool)
  · refine .inl ?_
    rw [h, Table.contains, Table.get?_erase_of_ne _ hself, hlive]
    rfl

/-- A change that lets no entity go. -/
structure Tended (may : Registry → PoolId → PointId → Prop) (r s : Registry) : Prop where
  change : Change may r s
  retains : Retains r s

theorem Tended.samePlan (h : Tended may r s) : SamePlan r s := h.change.samePlan

/-- Any number of changes in a row that let no entity go. -/
abbrev TendedSteps (may : Registry → PoolId → PointId → Prop) : Registry → Registry → Prop :=
  Relation.ReflTransGen (Tended may)

theorem TendedSteps.steps (h : TendedSteps may r s) : Steps may r s :=
  Relation.ReflTransGen.mono (fun _ _ tended => tended.change) _ _ h

theorem TendedSteps.samePlan (h : TendedSteps may r s) : SamePlan r s := h.steps.samePlan

theorem TendedSteps.keep {P : Registry → Prop} (h : TendedSteps may r s)
    (keep : ∀ {r s}, Tended may r s → P r → P s) (hr : P r) : P s := by
  induction h with
  | refl => exact hr
  | tail _ tended ih => exact keep tended ih

/-! ## The changes that let no entity go -/

namespace Tended

theorem draw (r : Registry) (random : Pcg) : Tended may r { r with random := random } :=
  ⟨.draw r random, .of_live rfl⟩

theorem schedule (r : Registry) (timers : Schedule) : Tended may r { r with timers := timers } :=
  ⟨.schedule r timers, .of_live rfl⟩

theorem host (r : Registry) (change : HostChange) :
    Tended may r { r with host := change.apply r.host } :=
  ⟨.host r change, .of_live rfl⟩

theorem activate (r : Registry) (pool : PoolId) (active : Bool) :
    Tended may r
      { r with forest := r.forest.modify pool (fun p => { p with active := active }) } :=
  ⟨.activate r pool active, .of_live rfl⟩

theorem patch (scope : PatchScope) (patch : Patch) (h : r.applyPatch? scope patch = some s) :
    Tended may r s := by
  refine ⟨.patch scope patch h, .of_live ?_⟩
  rcases applyPatch?_cases h with ⟨_, rfl⟩ | ⟨_, _, _, -, -, rfl⟩ | ⟨_, rfl⟩ <;> rfl

theorem reserve {kind : SpawnKind} {pool : PoolId} {entry : UInt32} {point : PointId}
    {p : SpawnPoint} (hcandidate : r.hasCandidate kind pool entry = true)
    (hpoint : r.points.get? point = some p) (hfree : p.reservation = none)
    (hmay : may r pool point) : Tended may r (r.reserve point ⟨pool, entry, kind⟩) :=
  ⟨.reserve hcandidate hpoint hfree hmay, .of_live rfl⟩

theorem materialize (point : PointId) (h : r.materialize? point = some s) : Tended may r s := by
  refine ⟨.materialize point h, ?_⟩
  rcases materialize?_cases h with rfl | ⟨_, request, handle, _, -, -, -, -, rfl⟩
  · exact .of_live rfl
  · intro other spawn hlive _ _
    refine .inl ?_
    show ((r.live.insert handle _).get? other).isSome = true
    rw [Table.get?_insert]
    split
    · rfl
    · rw [hlive]
      rfl

theorem withdraw {point : PointId} {p : SpawnPoint} {held : Reservation}
    (hpoint : r.points.get? point = some p) (hheld : p.reservation = some held)
    (hentity : p.entity = none) : Tended may r (r.release point held.pool) :=
  ⟨.withdraw hpoint hheld hentity, .of_live rfl⟩

theorem vacate {p : SpawnPoint} {held : Reservation} (hpoint : r.points.get? p.id = some p)
    (hheld : p.reservation = some held) : Tended may r (r.vacate p) := by
  refine ⟨.vacate hpoint hheld, ?_⟩
  rw [vacate_eq r hheld]
  rcases r.destroyAt_cases p with ⟨-, h⟩ | ⟨handle, -, h⟩
  · rw [h]
    exact .of_live rfl
  · rw [h]
    exact .of_erase rfl (fun _ _ _ _ => .inr (r.host.contains_destroy_self handle))

theorem bury {handle : EntityHandle} {spawn : LiveSpawn} {p : SpawnPoint}
    (hlive : r.live.get? handle = some spawn) (hpoint : r.points.get? spawn.point = some p)
    (corpseSecs : Nat) : Tended may r (r.bury handle spawn corpseSecs) := by
  refine ⟨.bury hlive hpoint corpseSecs, .of_erase rfl (fun _ _ _ _ => .inl ?_)⟩
  refine ⟨⟨handle, spawn.pool, r.now.plus corpseSecs⟩, ?_, rfl⟩
  exact mem_remains.mpr ⟨spawn.point, _, Table.get?_modify_self hpoint,
    List.mem_append_right _ (List.mem_singleton_self _)⟩

theorem unload {handle : EntityHandle} {spawn : LiveSpawn}
    (hlive : r.live.get? handle = some spawn) :
    Tended may r { r.unlink handle spawn with host := r.host.destroy handle } :=
  ⟨.unload hlive, .of_erase rfl (fun _ _ _ _ => .inr (r.host.contains_destroy_self handle))⟩

/-- An entity that is forgotten was not spawned from a known pool at a known point. -/
theorem forget {handle : EntityHandle} {spawn : LiveSpawn}
    (hlive : r.live.get? handle = some spawn)
    (hlost : r.points.get? spawn.point = none ∨ r.forest.get? spawn.pool = none) :
    Tended may r { r with live := r.live.erase handle } := by
  refine ⟨.forget hlive hlost, .of_erase rfl ?_⟩
  intro known hknown hpoint hpool
  obtain rfl := Option.some.inj (hlive.symm.trans hknown)
  rcases hlost with hlost | hlost
  · rw [Table.contains, hlost] at hpoint
    cases hpoint
  · obtain ⟨p, hp⟩ := Forest.contains_iff.mp hpool
    rw [hlost] at hp
    cases hp

theorem clear (r : Registry) (gone : Remains → Bool) : Tended may r (r.clearRemains gone).2 :=
  ⟨.clear r gone, .of_live rfl⟩

end Tended

end Registry

end SpawnForest
