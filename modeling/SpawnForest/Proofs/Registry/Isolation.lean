import SpawnForest.Proofs.Registry.Sparing
import SpawnForest.Proofs.Registry.TimerCauses

/-!
# Hierarchies do not interfere

An operation that is addressed to a pool or to an entity of one hierarchy comes
down to changes that are confined to this hierarchy. A descent ends below the
pool that it starts from, and the points that a leaf may use are its own and
those of the groups above it, which no pool of another hierarchy is assigned.
Emptying and dropping timers go by subtrees. A death is followed by a timer of
the dead entity's own pool, and a replacement uses up that one or one of the
same root, so that even what a death sets off stays in the hierarchy.

What belongs to the other hierarchies is therefore the same after the operation,
whether it goes through or breaks off (`Reachable.hierarchies_apart`).
-/

namespace SpawnForest

namespace Forest

/-! ## The pools of one root -/

/-- Whether a pool is one of the hierarchy of a root. -/
def within (f : Forest) (root : PoolId) (id : PoolId) : Bool := f.rootOf? id == some root

theorem within_iff {f : Forest} {root id : PoolId} :
    f.within root id = true ↔ f.rootOf? id = some root := beq_iff_eq

theorem WellLinked.top_of_mem_subtree {f : Forest} (hf : f.WellLinked) {a b : PoolId}
    (hb : b ∈ f.subtree a) : f.top b = f.top a := by
  induction b using hf.up_induction with
  | step b ih =>
      obtain ⟨hknown, rfl | habove⟩ := hf.mem_subtree.mp hb
      · rfl
      · cases hq : f.parent? b with
        | none =>
            rw [ancestors_of_top hq] at habove
            cases habove
        | some q =>
            rw [hf.top_of_parent hq]
            refine ih q hq (hf.mem_subtree.mpr ⟨hf.contains_parent hq, ?_⟩)
            rw [hf.ancestors_of_parent hq] at habove
            exact (List.mem_cons.mp habove).imp_left Eq.symm

theorem Rooted.unsplit_within {f : Forest} (hf : f.Rooted) (hlinked : f.WellLinked)
    (root : PoolId) : f.Unsplit (f.within root) := by
  intro a b hbelow
  obtain ⟨q, hq⟩ := contains_iff.mp (hlinked.mem_subtree.mp hbelow).1
  obtain ⟨p, hp⟩ := contains_iff.mp (contains_of_mem_subtree hbelow)
  have hroot : q.root = p.root := by
    rw [hf b q hq, hf a p hp, hlinked.top_of_mem_subtree hbelow]
  rw [within, within, rootOf?, rootOf?, hq, hp, Option.map_some, Option.map_some, hroot]

end Forest

/-- Whether an operation is about a pool of the hierarchy of a root, or about an entity of one. An
entity that is not alive belongs to no pool, and what is reported of it comes to nothing. -/
def Operation.Addresses (r : Registry) (root : PoolId) : Operation → Prop
  | spawnPool pool _ | spawnSingle pool _ | despawnPool pool _ | respawnPool pool
  | reseedPool pool | setActive pool _ => r.forest.rootOf? pool = some root
  | handleDeath handle _ | handleDespawn handle _ =>
    ∀ spawn, r.live.get? handle = some spawn → r.forest.rootOf? spawn.pool = some root
  | _ => False

namespace Registry

variable {home : PoolId → Bool} {r s : Registry} {pool root : PoolId}

open Relation (ReflTransGen)

namespace Parted

/-! ## Spawning -/

/-- A point that a home pool may use is assigned to no pool away from home. -/
theorem not_assigned_of_usable (hr : r.Parted home) {leaf : PoolId}
    (hknown : r.forest.contains leaf = true) (hleaf : home leaf = true) {x : PointId}
    (hx : x ∈ r.forest.usablePoints leaf) :
    ∀ id, home id = false → x ∉ r.forest.assigned id := by
  intro id hid hmem
  obtain ⟨other, hother, hx⟩ := Forest.mem_usablePoints.mp hx
  obtain ⟨p, hp, hx⟩ := Forest.mem_assigned.mp hx
  obtain ⟨q, hq, hmem⟩ := Forest.mem_assigned.mp hmem
  obtain rfl := hr.assigned_once hp hq hx hmem
  rw [hr.unsplit other leaf ((hr.linked.mem_path_iff hknown).mp hother), hid] at hleaf
  cases hleaf

theorem spawnAt (hr : r.Parted home) {kind : SpawnKind} {entry : UInt32} {x : PointId}
    (hpool : home pool = true) (hours : ∀ id, home id = false → x ∉ r.forest.assigned id) :
    ConfinedSteps home r (exec (spawnAt kind pool entry x) r).2 := by
  rcases exec_spawnAt r kind pool entry x with
    ⟨-, h⟩ | ⟨_, _, -, -, h⟩ | ⟨p, hcandidate, hp, hfree, h⟩
  · rw [h]
  · rw [h]
  · have hreserve := Confined.reserve hr hcandidate hp hfree hpool hours
    have hheld : (r.reserve x ⟨pool, entry, kind⟩).points.get? x
        = some (p.reserve ⟨pool, entry, kind⟩) := Table.get?_modify_self hp
    have hreserved := hreserve.parted hr
    rcases h with h | ⟨made, hmade, h⟩ | ⟨-, h⟩
    · rw [h]
      exact .single hreserve
    · rw [h]
      exact .tail (.single hreserve) (.materialize hreserved hheld rfl hpool hmade)
    · rw [h]
      have hentity := hr.tracking.entity_of_free hp hfree
      exact .tail (.single hreserve) (.withdraw hreserved hheld rfl hentity hpool)

theorem spawnSingle (hr : r.Parted home) (hpool : home pool = true) (mode : Mode) :
    ConfinedSteps home r (exec (spawnSingle pool mode) r).2 := by
  obtain ⟨g, h⟩ := exec_spawnSingle hr.linked hr.named pool mode
  have hdraw : ConfinedSteps home r { r with random := g } := .single (.draw r g)
  rcases h with ⟨-, h⟩ | ⟨-, h⟩ | ⟨leaf, p, c, x, hdescent, hp, -, hx, h⟩
  · rw [h]
    exact hdraw
  · rw [h]
    exact hdraw
  · rw [h]
    have hleaf : home leaf = true := by
      rw [hr.unsplit pool leaf (hdescent.mem_subtree hr.linked), hpool]
    exact hdraw.trans ((hdraw.parted hr).spawnAt hleaf
      (hr.not_assigned_of_usable (Forest.contains_iff.mpr ⟨p, hp⟩) hleaf (mem_freePoints.mp hx).1))

theorem spawnPool (hr : r.Parted home) (hpool : home pool = true) (count : Nat) :
    ConfinedSteps home r (exec (spawnPool pool count) r).2 := by
  rcases exec_spawnPool r pool count with h | ⟨-, h⟩
  · rw [h]
  · rw [h]
    refine fill_steps_of (P := Parted home) (fun mode hs => ?_) hr _ _
    have hsteps := hs.spawnSingle hpool mode
    exact ⟨hsteps, hsteps.parted hs⟩

/-! ## Emptying -/

theorem despawnPool (hr : r.Parted home) (hpool : home pool = true) (corpses : Bool) :
    ConfinedSteps home r (r.despawnPool pool corpses).2 := by
  have hmember : ∀ id ∈ r.forest.subtree pool, home id = true := fun id hid => by
    rw [hr.unsplit pool id hid, hpool]
  refine despawnPool_steps_of (P := Parted home) ?_ ?_ hr.toPlanned hr corpses
  · intro s p held hs hp hheld hmem
    have hvacate := Confined.vacate hs hp hheld (hmember _ hmem)
    exact ⟨hvacate, hvacate.parted hs⟩
  · intro s hs
    exact .clear s (fun x hx => hmember _ (List.contains_iff_mem.mp hx))

theorem dropTimers (hr : r.Parted home) (hpool : home pool = true) :
    Confined home r (r.dropTimers pool) := by
  refine .schedule (r.dropTimers_writes pool) ?_ ?_
  · exact List.foldlRecOn _ _ (motive := fun s : Schedule => s.scans = r.timers.scans) rfl
      (fun s hs _ _ => hs)
  · intro kind key hkey
    refine (Schedule.drops_foldl_remove hr.coherent _ kind key).trans ?_
    cases ht : r.timers.get? kind key with
    | none => rfl
    | some t =>
        have hkept : t.pool ∉ r.forest.subtree pool := by
          intro hmem
          obtain ⟨-, rfl⟩ := hr.coherent.keyed ht
          rw [Timer.key, hr.unsplit pool t.pool hmem, hpool] at hkey
          cases hkey
        simp [Option.filter_some, hkept]

theorem respawnPool (hr : r.Parted home) (hpool : home pool = true) :
    ConfinedSteps home r (exec (respawnPool pool) r).2 := by
  unfold Registry.respawnPool
  rw [exec_modify_bind]
  have hdrop := hr.dropTimers hpool
  exact ReflTransGen.head hdrop ((hdrop.parted hr).spawnPool hpool 0)

theorem reseedPool (hr : r.Parted home) (hpool : home pool = true) :
    ConfinedSteps home r (exec (reseedPool pool) r).2 := by
  unfold Registry.reseedPool
  rw [exec_modify_bind]
  have hempty := hr.despawnPool hpool false
  exact hempty.trans ((hempty.parted hr).respawnPool hpool)

theorem setActive (hr : r.Parted home) (hpool : home pool = true) (active : Bool) :
    ConfinedSteps home r (exec (setActive pool active) r).2 := by
  unfold Registry.setActive
  rw [exec_get_bind]
  split
  · exact .refl
  · rw [exec_modify_bind]
    have hswitch : Confined home r
        { r with forest := r.forest.modify pool (fun p => { p with active := active }) } :=
      .activate hpool active
    have hswitched := hswitch.parted hr
    cases active with
    | true =>
        refine ReflTransGen.head hswitch ?_
        exact steps_bind (hswitched.spawnPool hpool 0) (fun _ _ _ => .refl)
    | false =>
        have hdrop := hswitched.dropTimers hpool
        exact ReflTransGen.head hswitch (ReflTransGen.head hdrop
          ((hdrop.parted hswitched).despawnPool hpool false))

/-! ## Losing entities -/

/-- A genuine timer of a home root is one of a home pool. -/
theorem home_of_root (hr : r.Parted home) {t : Timer} (ht : r.timers.get? t.kind t.key = some t)
    (hroot : home t.root = true) : home t.pool = true := by
  obtain ⟨q, p, hq, -, hsame⟩ := hr.genuine ht
  have hsettled : r.forest.rootOf? t.pool = some t.root := by
    rw [Forest.rootOf?, hq, hsame]
    rfl
  rw [hr.unsplit t.root t.pool (hr.rooted.mem_subtree hr.linked hsettled), hroot]

theorem home_of_replacementTimer (hr : r.Parted home) (hpool : home pool = true)
    {kind : SpawnKind} {x : PointId} {t : Timer} (hroot : home root = true)
    (h : r.replacementTimer? kind root pool x = some t) : home t.pool = true := by
  obtain ⟨hpending, hown, hfirst⟩ := replacementTimer?_eq_some hr.coherent h
  cases hself : r.timers.get? kind (pool, x) with
  | none =>
      obtain ⟨hsame, -⟩ := hfirst hself
      exact hr.home_of_root hpending (hsame ▸ hroot)
  | some u =>
      obtain rfl := hown u hself
      obtain ⟨-, hkey⟩ := hr.coherent.keyed hself
      rw [show t.pool = pool from congrArg Prod.fst hkey, hpool]

theorem expedite (hr : r.Parted home) (hpool : home pool = true) (kind : SpawnKind) (x : PointId) :
    ConfinedSteps home r (exec (expedite kind pool x) r).2 := by
  rcases exec_expedite_tries r kind pool x with h | ⟨root, t, hroot, -, ht, h⟩
  · rw [h]
  · rw [h]
    have hhome : home root = true := by
      rw [← hr.unsplit root pool (hr.rooted.mem_subtree hr.linked hroot), hpool]
    refine steps_bind (hr.spawnPool hhome 1) (fun n s _ => ?_)
    by_cases hone : n = 1
    · have hused := hr.home_of_replacementTimer hpool hhome ht
      rw [if_pos hone, exec_modify_bind]
      refine .single (.schedule (.single (.erase _ t.kind t.key)) ?_ ?_)
      · exact Schedule.scans_setIndex _ _ _
      · intro kind' key hkey
        rw [Schedule.get?_erase, if_neg]
        rintro ⟨-, rfl⟩
        rw [Timer.key, hused] at hkey
        cases hkey
    · rw [if_neg hone]
      exact .refl

theorem handleDeath (hr : r.Parted home) {handle : EntityHandle}
    (hhome : ∀ spawn, r.live.get? handle = some spawn → home spawn.pool = true) (looted : Bool) :
    ConfinedSteps home r (exec (handleDeath handle looted) r).2 := by
  rcases exec_handleDeath r handle looted with
    ⟨-, h⟩ | ⟨spawn, hlive, hlost, -⟩ | ⟨spawn, p, q, corpseSecs, g, due, hlive, hp, hq, h⟩
  · rw [h]
  · exact absurd hlost (hr.not_lost hlive)
  · have hpool := hhome spawn hlive
    have hbury := Confined.bury hr hlive hp hpool corpseSecs
    have hdrawn : Confined home (r.bury handle spawn corpseSecs)
        { r.bury handle spawn corpseSecs with random := g } := .draw _ g
    have hplan := hbury.change.samePlan.trans hdrawn.change.samePlan
    have hstored : Confined home { r.bury handle spawn corpseSecs with random := g }
        { r.bury handle spawn corpseSecs with
          random := g
          timers := r.timers.add (deathTimer spawn p q due) false } := by
      refine .schedule
        (.single (.add _ (hplan.genuine (hr.genuine_deathTimer hlive hp hq due)))) ?_ ?_
      · exact Schedule.scans_setIndex _ _ _
      · intro kind key hkey
        rw [Schedule.get?_add, if_neg]
        · rfl
        · rintro ⟨-, -, rfl⟩
          rw [Timer.key, deathTimer, hpool] at hkey
          cases hkey
    have hsteps := ((ReflTransGen.single hbury).tail hdrawn).tail hstored
    rw [h]
    exact hsteps.trans ((ConfinedSteps.parted hsteps hr).expedite hpool _ _)

theorem handleDespawn (hr : r.Parted home) {handle : EntityHandle}
    (hhome : ∀ spawn, r.live.get? handle = some spawn → home spawn.pool = true) (bulk : Bool) :
    ConfinedSteps home r (exec (handleDespawn handle bulk) r).2 := by
  rcases exec_handleDespawn r handle bulk with ⟨-, h⟩ | ⟨spawn, hlive, h | ⟨p, -, hp, h⟩⟩
  · rw [h]
  · rw [h]
    exact .single (.unlink hr hlive (hhome spawn hlive))
  · rw [h]
    have hleft := Confined.depart hr hlive hp (hhome spawn hlive)
    exact ReflTransGen.head hleft ((hleft.parted hr).expedite (hhome spawn hlive) _ _)

end Parted

/-! ## Any addressed operation -/

variable {rows : PoolRows} {allowed : Operation → Prop}

theorem Reachable.parted (hr : Reachable rows allowed r) (root : PoolId) :
    r.Parted (r.forest.within root) where
  toSound := hr.sound
  rooted := hr.rooted
  coherent := hr.coherent
  genuine := hr.genuine
  unsplit := hr.rooted.unsplit_within hr.sound.linked root

/-- What an operation on a pool or an entity of the hierarchy of a root does is confined to this
hierarchy. -/
theorem Parted.perform (hr : r.Parted (r.forest.within root)) {op : Operation}
    (hop : op.Addresses r root) : ConfinedSteps (r.forest.within root) r (r.perform op) := by
  cases op with
  | spawnPool pool count => exact hr.spawnPool (Forest.within_iff.mpr hop) count
  | spawnSingle pool mode => exact hr.spawnSingle (Forest.within_iff.mpr hop) mode
  | despawnPool pool corpses => exact hr.despawnPool (Forest.within_iff.mpr hop) corpses
  | respawnPool pool => exact hr.respawnPool (Forest.within_iff.mpr hop)
  | reseedPool pool => exact hr.reseedPool (Forest.within_iff.mpr hop)
  | setActive pool active => exact hr.setActive (Forest.within_iff.mpr hop) active
  | handleDeath handle looted =>
      exact hr.handleDeath (fun spawn hlive => Forest.within_iff.mpr (hop spawn hlive)) looted
  | handleDespawn handle bulk =>
      exact hr.handleDespawn (fun spawn hlive => Forest.within_iff.mpr (hop spawn hlive)) bulk
  | _ => exact hop.elim

/-- Hierarchies do not interfere. Whatever an operation on a pool or an entity of one hierarchy
does, and whether it goes through or breaks off, nothing changes that belongs to another one: not
its pools with their counts and switches, not the points that they hold with the entities there, not
their remains, live entities and timers, and none of the free points that are assigned to them is
taken. The entities that the host has of them are the same ones. Besides the hierarchy that the
operation is addressed to, only the random source and the handles may differ. -/
theorem Reachable.hierarchies_apart (hr : Reachable rows (fun _ => True) r) {op : Operation}
    (hop : op.Addresses r root) :
    Spares (r.forest.within root) r (r.perform op) ∧
      ∀ handle, r.Tends (fun id => !r.forest.within root id) handle →
        (r.perform op).host.entities.get? handle = r.host.entities.get? handle := by
  have hspares := ConfinedSteps.spares ((hr.parted root).perform hop)
  refine ⟨hspares, fun handle htended => ?_⟩
  have hdistinct := hr.distinct
  exact hspares.entities handle (hdistinct.issued_lt handle htended.mem_wards)
    (hdistinct.not_tends htended)

/-- Two hierarchies: a group over two leaves, and a leaf that stands alone. -/
def villageRows : PoolRows where
  templates := [{ (default : TemplateRow) with pool := ⟨1⟩, minLimit := 2, maxLimit := 2 },
    { (default : TemplateRow) with pool := ⟨2⟩, minLimit := 1, maxLimit := 2 },
    { (default : TemplateRow) with pool := ⟨3⟩, minLimit := 1, maxLimit := 1 },
    { (default : TemplateRow) with pool := ⟨5⟩, maxLimit := 2 }]
  edges := [⟨⟨1⟩, ⟨2⟩, .one⟩, ⟨⟨1⟩, ⟨3⟩, .one⟩]
  points := [⟨⟨1⟩, default, none⟩, ⟨⟨2⟩, default, none⟩, ⟨⟨3⟩, default, none⟩, ⟨⟨4⟩, default, none⟩,
    ⟨⟨5⟩, default, none⟩, ⟨⟨6⟩, default, none⟩]
  assignments := [⟨⟨1⟩, ⟨1⟩⟩, ⟨⟨2⟩, ⟨2⟩⟩, ⟨⟨2⟩, ⟨3⟩⟩, ⟨⟨3⟩, ⟨4⟩⟩, ⟨⟨5⟩, ⟨5⟩⟩, ⟨⟨5⟩, ⟨6⟩⟩]
  creatures := [⟨⟨2⟩, 7, .one, default⟩, ⟨⟨3⟩, 8, .one, default⟩, ⟨⟨5⟩, 9, .one, default⟩]
  gameObjects := []
  creaturePatches := []
  gameObjectPatches := []

/-- The registry of the two hierarchies, populated, after one entity of the lone leaf has died. -/
def village : Registry :=
  match load default villageRows .fresh default with
  | .ok r => (r.perform .spawnAll).perform (.handleDeath ⟨2⟩ false)
  | .error _ => .empty default .fresh default

/-- An entity of the group dies, which makes the group spawn another one in its place at once. The
lone leaf keeps its free point, the remains there and its timer, which is the older one, and its
other entity. -/
theorem hierarchies_apart_village :
    village.live.get? ⟨0⟩ = some ⟨.creature, ⟨3⟩, ⟨4⟩, 8⟩ ∧
      (village.perform (.handleDeath ⟨0⟩ false)).live.get? ⟨4⟩ = some ⟨.creature, ⟨3⟩, ⟨4⟩, 8⟩ ∧
      (village.timers.get? .creature (⟨5⟩, ⟨6⟩)).isSome = true ∧
      (village.perform (.handleDeath ⟨0⟩ false)).timers.get? .creature (⟨5⟩, ⟨6⟩) =
        village.timers.get? .creature (⟨5⟩, ⟨6⟩) ∧
      Spares (village.forest.within ⟨1⟩) village (village.perform (.handleDeath ⟨0⟩ false)) ∧
      village.Tends (fun id => !village.forest.within ⟨1⟩ id) ⟨3⟩ ∧
      (village.perform (.handleDeath ⟨0⟩ false)).host.entities.get? ⟨3⟩ =
        village.host.entities.get? ⟨3⟩ := by
  have hloaded : ∃ r, load default villageRows .fresh default = .ok r ∧
      village = (r.perform .spawnAll).perform (.handleDeath ⟨2⟩ false) := ⟨_, rfl, rfl⟩
  obtain ⟨r, hload, hvillage⟩ := hloaded
  have hreachable : Reachable villageRows (fun _ => True) village :=
    hvillage ▸ ((Reachable.loaded hload).step .spawnAll trivial).step _ trivial
  have hlive : village.live.get? ⟨0⟩ = some ⟨.creature, ⟨3⟩, ⟨4⟩, 8⟩ := by decide +kernel
  have hother : village.live.get? ⟨3⟩ = some ⟨.creature, ⟨5⟩, ⟨5⟩, 9⟩ := by decide +kernel
  have haddresses : (Operation.handleDeath ⟨0⟩ false).Addresses village ⟨1⟩ := by
    intro spawn hspawn
    obtain rfl := Option.some.inj (hlive.symm.trans hspawn)
    decide +kernel
  obtain ⟨hspares, hentities⟩ := Reachable.hierarchies_apart hreachable haddresses
  have htends : village.Tends (fun id => !village.forest.within ⟨1⟩ id) ⟨3⟩ :=
    .inl ⟨_, hother, by decide +kernel⟩
  exact ⟨hlive, by decide +kernel, by decide +kernel,
    hspares.timers .creature (⟨5⟩, ⟨6⟩) (by decide +kernel), hspares, htends,
    hentities ⟨3⟩ htends⟩

end Registry

end SpawnForest
