import SpawnForest.Proofs.Forest.Shares
import SpawnForest.Proofs.Registry.Roots
import SpawnForest.Proofs.Registry.WellFormed

/-!
# Minimums of a running registry

Handing down marks a leaf as sharing a minimum only together with the maximum
that it takes from a group above it, so that group is there, and it keeps its
maximum from then on (`Reachable.sheltered`). Limits never change while a
registry runs. So what a registry answers when it is asked for its room at the
minimum is the best that can be done if every minimum counts once, those that
are shared included (`Reachable.floors_isGreatest`).
-/

namespace SpawnForest

namespace Forest

/-! ## Inherited limits -/

theorem boundingGroup?_ne_none_iff {f : Forest} {id : PoolId} :
    f.boundingGroup? id ≠ none ↔
      ∃ g ∈ f.ancestors id, ∃ p, f.get? g = some p ∧ 0 < p.maxLimit := by
  rw [boundingGroup?, ← Option.isSome_iff_ne_none, List.find?_isSome]
  simp only [Option.any_eq_true, decide_eq_true_eq]

/-- Pools keep being bounded if maximums stay. -/
theorem boundingGroup?_ne_none_mono {f g : Forest} (hlinks : Alike Pool.links f g)
    (hmax : ∀ {id p}, f.get? id = some p → 0 < p.maxLimit →
      ∃ q, g.get? id = some q ∧ 0 < q.maxLimit) {id : PoolId} (h : f.boundingGroup? id ≠ none) :
    g.boundingGroup? id ≠ none := by
  obtain ⟨b, hb, p, hp, hpos⟩ := boundingGroup?_ne_none_iff.mp h
  refine boundingGroup?_ne_none_iff.mpr ⟨b, ?_, hmax hp hpos⟩
  rwa [← hlinks.ancestors]

theorem Sheltered.of_alike {f g : Forest} (hf : f.Sheltered)
    (h : Alike (fun p => (p.links, p.maxLimit, p.inheritsLimits)) f g) : g.Sheltered := by
  intro id q hq hmark
  obtain ⟨p, hp, hsame⟩ := h.symm.find hq
  simp only [Prod.mk.injEq] at hsame
  refine boundingGroup?_ne_none_mono (h.through Prod.fst) ?_ (hf id p hp (hsame.2.2.trans hmark))
  intro x p' hp' hpos
  obtain ⟨q', hq', hsame'⟩ := h.find hp'
  simp only [Prod.mk.injEq] at hsame'
  exact ⟨q', hq', by rwa [hsame'.2.1]⟩

theorem maxLimit_inheritFrom {parent : Template} {cap : Option UInt32} {p : Pool}
    (h : 0 < p.maxLimit) : (inheritFrom parent cap p).maxLimit = p.maxLimit := by
  have hstays := (completes_inheritFrom parent cap p).maxLimit
  refine congrArg UInt32.toNat (hstays (fun hzero => ?_))
  rw [Pool.maxLimit, hzero] at h
  exact absurd h (Nat.lt_irrefl 0)

/-- A leaf is marked only if there is a cap for it. -/
theorem inheritsLimits_inheritFrom {parent : Template} {cap : Option UInt32} {p : Pool}
    (h : (inheritFrom parent cap p).inheritsLimits = true) :
    p.inheritsLimits = true ∨ cap ≠ none := by
  cases cap with
  | none => exact .inl h
  | some limit => exact .inr (Option.some_ne_none limit)

theorem Sheltered.settle {f : Forest} (hf : f.Sheltered) (id : PoolId) :
    (f.settle id).Sheltered := by
  have hlinks : Alike Pool.links f (f.settle id) := alike_settle links_inheritFrom f id
  unfold Forest.settle at hlinks ⊢
  cases habove : (f.parent? id).bind f.get? with
  | none => exact hf
  | some parent =>
      rw [habove] at hlinks
      dsimp only at hlinks ⊢
      have hmax : ∀ {x p}, f.get? x = some p → 0 < p.maxLimit →
          ∃ q, (f.modify id (inheritFrom parent.template
            ((f.boundingAncestor? id).map (·.template.maxLimit)))).get? x = some q ∧
              0 < q.maxLimit := by
        intro x p hp hpos
        rw [get?_modify, hp]
        split
        · exact ⟨_, rfl, by rwa [maxLimit_inheritFrom hpos]⟩
        · exact ⟨p, rfl, hpos⟩
      intro x q hq hmark
      refine boundingGroup?_ne_none_mono hlinks hmax ?_
      rcases Table.get?_modify_cases hq with ⟨rfl, p, hp, rfl⟩ | ⟨-, hp⟩
      · rcases inheritsLimits_inheritFrom hmark with hmark | hcap
        · exact hf _ p hp hmark
        · intro hnone
          rw [boundingAncestor?_eq, hnone] at hcap
          exact hcap rfl
      · exact hf x q hp hmark

theorem Sheltered.trickle {f : Forest} (hf : f.Sheltered) : f.trickle.Sheltered :=
  List.foldlRecOn _ Forest.settle (motive := Sheltered) hf (fun _ hg id _ => hg.settle id)

end Forest

namespace Registry

variable {r s : Registry}

theorem load_sheltered {map : MapId} {rows : PoolRows} {host : Host} {config : RegistryConfig}
    (h : load map rows host config = .ok r) : r.forest.Sheltered := by
  refine load_keep h (P := fun s => s.forest.Sheltered) ?_ ?_ ?_ ?_ (fun hs => hs.trickle)
  · -- before anything is handed down, nothing is marked
    intro id p hp hmark
    have hpool := addStructure_pools map rows host config id
    rw [hp, Option.map_some] at hpool
    obtain ⟨t, -, ht⟩ := Option.map_eq_some_iff.mp hpool.symm
    have hunmarked : p.inheritsLimits = false := (congrArg Pool.inheritsLimits ht.symm :)
    rw [hunmarked] at hmark
    cases hmark
  · intro s row hs
    exact hs.of_alike ((alike_addAssignment s row).1.through
      (fun p => (p.links, p.maxLimit, p.inheritsLimits)))
  · intro s t c hs hc
    exact hs.of_alike ((alike_addCandidate hc).1.through
      (fun p => (p.links, p.maxLimit, p.inheritsLimits)))
  · intro s scope patch hs
    exact hs.of_alike ((alike_addPatch s scope patch).through
      (fun p => (p.links, p.maxLimit, p.inheritsLimits)))

theorem SamePlan.sheltered (h : SamePlan r s) (hr : r.forest.Sheltered) : s.forest.Sheltered :=
  hr.of_alike (h.forest.through (fun p => (p.links, p.maxLimit, p.inheritsLimits)))

theorem Reachable.sheltered {rows : PoolRows} {allowed : Operation → Prop}
    (hr : Reachable rows allowed r) : r.forest.Sheltered :=
  hr.keep_plan (fun h => load_sheltered h) (fun h hs => h.sheltered hs)

/-! ## The best distribution at the minimum -/

/-- The room of a pool at the minimum is the greatest total that can be given to the open leaves
below it if a leaf with limits of its own takes what it lacks to its minimum, leaves that inherited
theirs share what the group above them lacks to its minimum, and no maximum is exceeded; and no more
than fits 32 bits. -/
theorem Reachable.floors_isGreatest {rows : PoolRows} (hr : Reachable rows (fun _ => True) r)
    (id : PoolId) :
    ∃ n, IsGreatest {t | ∃ a, r.forest.FeasibleFloors id a ∧ r.forest.load a id = t} n ∧
      r.forest.room id .minimum = min (2 ^ 32 - 1) n :=
  hr.sound.linked.exists_isGreatest_floors hr.sheltered id

/-- A group that wants at least two entities, over a leaf that wants one by itself and two leaves
without limits, one of them in a group of its own. -/
def hamletRows : PoolRows where
  templates := [{ (default : TemplateRow) with pool := ⟨1⟩, minLimit := 2, maxLimit := 5 },
    { (default : TemplateRow) with pool := ⟨2⟩, minLimit := 1, maxLimit := 1 },
    { (default : TemplateRow) with pool := ⟨3⟩ },
    { (default : TemplateRow) with pool := ⟨4⟩ },
    { (default : TemplateRow) with pool := ⟨5⟩ }]
  edges := [⟨⟨1⟩, ⟨2⟩, .one⟩, ⟨⟨1⟩, ⟨3⟩, .one⟩, ⟨⟨1⟩, ⟨4⟩, .one⟩, ⟨⟨4⟩, ⟨5⟩, .one⟩]
  points := [⟨⟨1⟩, default, none⟩, ⟨⟨2⟩, default, none⟩, ⟨⟨3⟩, default, none⟩]
  assignments := [⟨⟨2⟩, ⟨1⟩⟩, ⟨⟨3⟩, ⟨2⟩⟩, ⟨⟨5⟩, ⟨3⟩⟩]
  creatures := [⟨⟨2⟩, 7, .one, default⟩, ⟨⟨3⟩, 8, .one, default⟩, ⟨⟨5⟩, 9, .one, default⟩]
  gameObjects := []
  creaturePatches := []
  gameObjectPatches := []

/-- The registry of the hamlet, before anything is spawned. -/
def hamlet : Registry :=
  match load default hamletRows .fresh default with
  | .ok r => r
  | .error _ => .empty default .fresh default

theorem reachable_hamlet (allowed : Operation → Prop) : Reachable hamletRows allowed hamlet := by
  have h : load default hamletRows .fresh default = .ok hamlet := rfl
  exact .loaded h

/-- The two leaves without limits get two together and not two each. -/
theorem floors_isGreatest_hamlet :
    IsGreatest {t | ∃ a, hamlet.forest.FeasibleFloors ⟨1⟩ a ∧ hamlet.forest.load a ⟨1⟩ = t} 3 := by
  obtain ⟨n, hn, hroom⟩ := Reachable.floors_isGreatest (reachable_hamlet _) ⟨1⟩
  have hthree : hamlet.forest.room ⟨1⟩ .minimum = 3 := by decide +kernel
  obtain rfl : n = 3 := by omega
  exact hn

end Registry

end SpawnForest
