import SpawnForest.Proofs.Forest.Shares
import SpawnForest.Proofs.Report.Dumps

/-!
# Which switches room looks at

There are two answers to whether a pool is on. `isActive` goes up and asks every
pool above it. The walk of `room` goes down from the pool and passes over what is
off, but from above it takes limits only, never a switch
(`room_of_alike_unswitched`). The two agree for roots, and wherever the pools
above are on; below a pool that is off they need not, and a spawn for a single
entity, which asks for room only, goes through there.
-/

namespace SpawnForest

/-- A pool without its switch. -/
def Pool.unswitched (p : Pool) : Pool := { p with active := true }

namespace Forest

variable {f g : Forest} {id : PoolId} {mode : Mode}

/-- A walk down looks at the pools that it passes, and at no others. -/
theorem roomBelow_congr {S : PoolId → Prop} (hclosed : ∀ x, S x → ∀ c ∈ f.children x, S c)
    (hsame : ∀ x, S x → g.get? x = f.get? x) {bound : Nat} {budget floor : Nat} (hid : S id) :
    g.roomBelow mode bound id budget floor = f.roomBelow mode bound id budget floor := by
  induction bound generalizing id budget floor with
  | zero => rfl
  | succ bound ih =>
      rw [roomBelow, roomBelow, hsame id hid]
      cases hp : f.get? id with
      | none => rfl
      | some p =>
          have hstep : ∀ clamped start,
              p.children.foldl (fun (acc : Nat × Nat) c =>
                (acc.1 + (g.roomBelow mode bound c clamped acc.2).1,
                  (g.roomBelow mode bound c clamped acc.2).2)) start =
              p.children.foldl (fun (acc : Nat × Nat) c =>
                (acc.1 + (f.roomBelow mode bound c clamped acc.2).1,
                  (f.roomBelow mode bound c clamped acc.2).2)) start := by
            intro clamped start
            refine List.foldl_ext _ _ _ (fun acc c hc => ?_)
            rw [ih (hclosed id hid c (by rwa [children_of_get hp]))]
          simp only [hstep]

/-- What comes down from above is limits, so no switch matters to it. -/
theorem budgetAbove_of_alike_unswitched (h : Alike Pool.unswitched f g) (id : PoolId) :
    g.budgetAbove id = f.budgetAbove id := by
  have hlinks : Alike Pool.links f g := h.through Pool.links
  have hrooms : Alike Pool.maxRoom f g := h.through Pool.maxRoom
  rw [budgetAbove, budgetAbove, hlinks.ancestors, List.map_filterMap, List.map_filterMap]
  congr 2
  funext x
  exact (hrooms.get? x).symm

theorem boundingGroup?_of_alike_unswitched (h : Alike Pool.unswitched f g) (id : PoolId) :
    g.boundingGroup? id = f.boundingGroup? id := by
  have hlinks : Alike Pool.links f g := h.through Pool.links
  have hbounded : Alike (fun p => decide (0 < p.maxLimit)) f g :=
    h.through (fun p => decide (0 < p.maxLimit))
  rw [boundingGroup?, boundingGroup?, hlinks.ancestors]
  congr 1
  funext x
  have hx := congrArg (Option.any (fun bounded => bounded)) (hbounded.get? x)
  simp only [Option.any_map] at hx
  exact hx.symm

theorem floorAbove_of_alike_unswitched (h : Alike Pool.unswitched f g) (id : PoolId) :
    g.floorAbove id = f.floorAbove id := by
  have hrooms : Alike Pool.minRoom f g := h.through Pool.minRoom
  have hview : ∀ k : Forest, k.floorAbove id =
      ((k.boundingGroup? id).bind fun x => (k.get? x).map Pool.minRoom).getD 0 := by
    intro k
    rw [floorAbove, boundingAncestor?_eq]
    cases k.boundingGroup? id with
    | none => rfl
    | some x =>
        rw [Option.bind_some, Option.bind_some]
        cases k.get? x <;> rfl
  rw [hview, hview, boundingGroup?_of_alike_unswitched h]
  simp only [hrooms.get?]

/-- The room of a pool depends on the switches of its subtree and on no others. -/
theorem room_of_alike_unswitched (hf : f.WellLinked) (h : Alike Pool.unswitched f g)
    (hbelow : ∀ x ∈ f.subtree id, g.get? x = f.get? x) : g.room id mode = f.room id mode := by
  rw [room, room, budgetAbove_of_alike_unswitched h, floorAbove_of_alike_unswitched h, h.size]
  cases hid : f.contains id with
  | true =>
      rw [roomBelow_congr (fun _ hx _ hc => hf.mem_subtree_of_child hx hc) hbelow
        (hf.self_mem_subtree hid)]
  | false =>
      have hid' := h.contains id ▸ hid
      rw [roomBelow, roomBelow, not_contains_iff.mp hid, not_contains_iff.mp hid']

theorem room_switch_of_not_mem_subtree (hf : f.WellLinked) {x : PoolId} (hx : x ∉ f.subtree id)
    (active : Bool) :
    (f.modify x (fun p => { p with active := active })).room id mode = f.room id mode := by
  refine room_of_alike_unswitched hf (alike_modify (fun _ _ => rfl)) ?_
  intro y hy
  rw [get?_modify, if_neg]
  rintro rfl
  exact hx hy

theorem room_of_off (hoff : ∀ p, f.get? id = some p → p.active = false) : f.room id mode = 0 := by
  rw [room, roomBelow]
  cases hp : f.get? id with
  | none => rfl
  | some p => simp only [hoff p hp, Bool.not_false, if_true]

end Forest

namespace Registry

variable {r : Registry} {pool : PoolId}

/-- Without room there is no descent, and nothing is drawn. -/
theorem exec_spawnSingle_of_no_room {mode : Mode} (h : r.forest.room pool mode = 0) :
    exec (spawnSingle pool mode) r = (.ok false, r) := by
  have hroom : r.forest.hasRoom pool mode = false := by
    rw [Forest.hasRoom, h]
    rfl
  have hnowhere : exec (descendToLeaf mode (r.forest.size + 1) pool) r = (.ok none, r) := by
    rw [descendToLeaf, exec_get_bind, hroom]
    rfl
  rw [spawnSingle, exec_get_bind, exec_bind_of_ok hnowhere]
  rfl

theorem exec_spawnPool_of_not_active (h : r.forest.isActive pool = false) (count : Nat) :
    exec (spawnPool pool count) r = (.ok 0, r) := by
  rw [spawnPool, exec_get_bind, h, Bool.not_false, Bool.or_true]
  rfl

/-- A dump shows the room of each pool in it. -/
theorem rooms_of_dumpPool (hf : r.forest.WellLinked) {d e : PoolDump} (h : r.dumpPool pool = .ok d)
    (he : e ∈ d.parts) : e.entry.minRoom = r.forest.room e.entry.pool .minimum ∧
      e.entry.maxRoom = r.forest.room e.entry.pool .maximum := by
  obtain ⟨x, -, hx⟩ := exists_of_mem_forall₂ (forall₂_parts hf h) he
  obtain ⟨p, ds, -, -, rfl⟩ := exists_of_dumpPool hf hx
  exact ⟨rfl, rfl⟩

/-! ## Reachable registries -/

variable {rows : PoolRows}

/-- A pool that is off itself has no room, and a single spawn there does nothing. To a count nothing
is spawned either where a pool above is off. But room goes by the switches of the subtree alone:
throwing any other one, above the pool too, leaves it as it is, and dumps show it so. -/
theorem Reachable.room_by_switches_below (hr : Reachable rows (fun _ => True) r) (pool : PoolId)
    (mode : Mode) :
    ((∀ p, r.forest.get? pool = some p → p.active = false) →
      r.forest.room pool mode = 0 ∧ exec (spawnSingle pool mode) r = (.ok false, r)) ∧
    (r.forest.isActive pool = false → ∀ count, exec (spawnPool pool count) r = (.ok 0, r)) ∧
    (∀ x, x ∉ r.forest.subtree pool → ∀ active,
      (r.forest.modify x (fun p => { p with active := active })).room pool mode =
        r.forest.room pool mode) ∧
    ∀ d, r.dumpPool pool = .ok d → ∀ e ∈ d.parts,
      e.entry.minRoom = r.forest.room e.entry.pool .minimum ∧
        e.entry.maxRoom = r.forest.room e.entry.pool .maximum := by
  have hlinked := hr.sound.linked
  refine ⟨fun hoff => ?_, exec_spawnPool_of_not_active,
    fun x hx => Forest.room_switch_of_not_mem_subtree hlinked hx,
    fun d hd e he => rooms_of_dumpPool hlinked hd he⟩
  have hnone : r.forest.room pool mode = 0 := Forest.room_of_off hoff
  exact ⟨hnone, exec_spawnSingle_of_no_room hnone⟩

/-- The camp switched off at its root. -/
def darkCamp : Registry := camp.perform (.setActive ⟨1⟩ false)

theorem reachable_darkCamp : Reachable campRows (fun _ => True) darkCamp :=
  (reachable_camp _).step _ trivial

/-- The root has no room any more, and its leaf has as much as before. -/
theorem room_by_switches_below_camp :
    darkCamp.forest.room ⟨1⟩ .maximum = 0 ∧
      exec (spawnSingle ⟨1⟩ .maximum) darkCamp = (.ok false, darkCamp) ∧
      exec (spawnPool ⟨2⟩ 1) darkCamp = (.ok 0, darkCamp) := by
  have hoff : ∀ p, darkCamp.forest.get? ⟨1⟩ = some p → p.active = false := by
    intro p hp
    have hnone : (darkCamp.forest.get? ⟨1⟩).all (fun p => !p.active) = true := by decide +kernel
    rw [hp] at hnone
    simpa using hnone
  have hroot := (reachable_darkCamp.room_by_switches_below ⟨1⟩ .maximum).1 hoff
  have hgate : darkCamp.forest.isActive ⟨2⟩ = false := by decide +kernel
  exact ⟨hroot.1, hroot.2,
    (reachable_darkCamp.room_by_switches_below ⟨2⟩ .maximum).2.1 hgate 1⟩

/-- Below a pool that is off there may be room, and single spawns go through. -/
theorem not_room_of_not_active :
    (¬∀ (rows : PoolRows) (r : Registry), Reachable rows (fun _ => True) r → ∀ pool mode,
      r.forest.isActive pool = false → r.forest.room pool mode = 0) ∧
    ¬∀ (rows : PoolRows) (r : Registry), Reachable rows (fun _ => True) r → ∀ pool mode,
      r.forest.isActive pool = false →
        (exec (spawnSingle pool mode) r).2.points.values.map (·.reservation) =
          r.points.values.map (·.reservation) := by
  have hgate : darkCamp.forest.isActive ⟨2⟩ = false := by decide +kernel
  constructor
  · intro hclaim
    have hroom : darkCamp.forest.room ⟨2⟩ .maximum = 2 := by decide +kernel
    have hnone := hclaim campRows darkCamp reachable_darkCamp ⟨2⟩ .maximum hgate
    omega
  · intro hclaim
    have hsame := hclaim campRows darkCamp reachable_darkCamp ⟨2⟩ .maximum hgate
    have hmoved : (exec (spawnSingle ⟨2⟩ .maximum) darkCamp).2.points.values.map (·.reservation) ≠
        darkCamp.points.values.map (·.reservation) := by decide +kernel
    exact hmoved hsame

end Registry

end SpawnForest
