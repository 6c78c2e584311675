import SpawnForest.Proofs.Forest.Inheriting
import SpawnForest.Proofs.Registry.Minimums
import SpawnForest.Proofs.Registry.RootTimers

/-!
# Templates of a loaded registry

Until the last step of loading, the template of each pool is that of the first
row that counts, and no limits are marked as inherited. The last step goes
through the pools root by root, which lists every pool once and parents first
(`WellLinked.parentsFirst_roots`), so the templates are then what the rows on
the way up make of them (`load_handedDown`).
-/

namespace SpawnForest

namespace Forest

variable {f : Forest}

/-- The pools are listed root by root, and with parents first. -/
theorem WellLinked.parentsFirst_roots (hf : f.WellLinked) (hnamed : f.Named) :
    f.ParentsFirst (f.roots.flatMap (fun root => f.subtree root.id)) := by
  refine List.pairwise_flatMap.mpr ⟨fun root _ => hf.parentsFirst_subtree root.id, ?_⟩
  have hdistinct : f.roots.Pairwise (fun p q => p.id ≠ q.id) :=
    List.pairwise_map.mp hnamed.roots_nodup
  have htop : ∀ p ∈ f.roots, ∀ x ∈ f.subtree p.id, f.top x = p.id := by
    intro p hp x hx
    obtain ⟨-, hparent⟩ := hnamed.mem_roots.mp (List.mem_map_of_mem hp)
    exact ((hf.mem_subtree_root hparent).mp hx).2
  refine hdistinct.imp_of_mem (fun hp hq hne a ha b hb => ⟨?_, fun hparent => hne ?_⟩)
  · rintro rfl
    exact hne ((htop _ hp a ha).symm.trans (htop _ hq a hb))
  · rw [← htop _ hp a ha, ← htop _ hq b hb, hf.top_of_parent hparent]

theorem Named.mem_subtree_roots (hnamed : f.Named) (hf : f.WellLinked) {id : PoolId}
    (h : f.contains id = true) : id ∈ f.roots.flatMap (fun root => f.subtree root.id) := by
  have hroot : f.top id ∈ f.roots.map (·.id) := hnamed.mem_roots.mpr
    ⟨contains_of_mem_subtree (hf.mem_subtree_top h), hf.parent?_top id⟩
  obtain ⟨p, hp, htop⟩ := List.mem_map.mp hroot
  refine List.mem_flatMap.mpr ⟨p, hp, ?_⟩
  rw [htop]
  exact hf.mem_subtree_top h

theorem WellLinked.settledBy_trickle (hf : f.WellLinked) (hnamed : f.Named) :
    f.SettledBy f.trickle :=
  hf.settledBy_foldl (hf.parentsFirst_roots hnamed) (fun _ h => hnamed.mem_subtree_roots hf h)

end Forest

namespace Registry

variable {map : MapId} {rows : PoolRows} {host : Host} {config : RegistryConfig} {r : Registry}

/-- The part of a pool that is told from the templates and the edges alone. -/
def outline (p : Pool) : (Option PoolId × List PoolId) × Template × Bool :=
  (p.links, p.template, p.inheritsLimits)

/-- A registry that loads was finished from one with the outlines that the structure gave it. -/
theorem load_outline (h : load map rows host config = .ok r) :
    ∃ s : Registry, r = s.finish ∧
      Forest.Alike outline ((empty map host config).addStructure rows).forest s.forest := by
  obtain ⟨s, hs, hfinish⟩ := load_finish h
    (P := fun s => Forest.Alike outline ((empty map host config).addStructure rows).forest s.forest)
    (.refl _ _)
    (fun row hs => hs.trans ((alike_addAssignment _ row).1.through outline))
    (fun hs hc => hs.trans ((alike_addCandidate hc).1.through outline))
    (fun scope patch hs => hs.trans ((alike_addPatch _ scope patch).through outline))
  exact ⟨s, hfinish, hs⟩

/-- Until something is handed down, each pool has the template of its first row and limits of its
own. -/
theorem outline_of_rows {f : Forest}
    (h : Forest.Alike outline ((empty map host config).addStructure rows).forest f) :
    f.template? = firstTemplate? map rows.templates ∧
      ∀ id p, f.get? id = some p → p.inheritsLimits = false := by
  constructor
  · funext id
    have hpools := congrArg (Option.map Pool.template) (addStructure_pools map rows host config id)
    rw [Option.map_map, Option.map_map] at hpools
    exact (h.through (fun seen => seen.2.1) id).symm.trans (hpools.trans Option.map_id')
  · intro id q hq
    obtain ⟨p, hp, hsame⟩ := Forest.Alike.find (Table.Alike.symm h) hq
    have hpool := addStructure_pools map rows host config id
    rw [hp, Option.map_some] at hpool
    obtain ⟨t, -, ht⟩ := Option.map_eq_some_iff.mp hpool.symm
    have hunmarked : p.inheritsLimits = false := (congrArg Pool.inheritsLimits ht.symm :)
    rw [← hunmarked]
    exact (congrArg (·.2.2) hsame :).symm

/-- Each pool of a loaded registry has the template of its first row, with open fields filled from
the first rows of the pools above it and with the limits that go with them. Handing down once more
changes nothing. -/
theorem load_handedDown (h : load map rows host config = .ok r) :
    (∀ id p, r.forest.get? id = some p →
      ∃ own, firstTemplate? map rows.templates id = some own ∧
        p.HandedDown own
          ((r.forest.ancestors id).filterMap (firstTemplate? map rows.templates))) ∧
      r.forest.trickle = r.forest := by
  have hstructure : ((empty map host config).addStructure rows).Planned :=
    (addStructure_fresh (fresh_empty map host config) (fun _ _ h => by cases h) rows).1.planned
  have hplanned : r.Planned := (load_fresh h).fresh.planned
  obtain ⟨s, rfl, houtline⟩ := load_outline h
  obtain ⟨htemplate, hopen⟩ := outline_of_rows houtline
  have hlinked : s.forest.WellLinked := hstructure.linked.of_alike (houtline.through Prod.fst)
  have hnamed : s.forest.Named := by
    intro id q hq
    obtain ⟨p, hp, hsame⟩ := Forest.Alike.find (Table.Alike.symm houtline) hq
    rw [← hstructure.named hp]
    exact (congrArg (fun seen => seen.2.1.pool) hsame :).symm
  have hsettled := hlinked.settledBy_trickle hnamed
  have hlinks : Forest.Alike Pool.links s.forest s.forest.trickle :=
    hsettled.alike Forest.links_inheritFrom
  refine ⟨fun id p hp => ?_, ?_⟩
  · obtain ⟨own, hown, hdown⟩ := hlinked.handedDown hsettled hopen hp
    rw [Forest.templatesAbove, htemplate, hlinks.ancestors] at hdown
    exact ⟨own, htemplate ▸ hown, hdown⟩
  · exact hlinked.eq_of_settledBy hsettled (hplanned.linked.settledBy_trickle hplanned.named)

/-- In the hamlet, a leaf deep down has no maximum in its row and is capped by the top group. -/
theorem load_handedDown_hamlet :
    load default hamletRows .fresh default = .ok hamlet ∧
      (firstTemplate? default hamletRows.templates ⟨5⟩).map (·.maxLimit) = some 0 ∧
      (hamlet.forest.get? ⟨5⟩).map (fun p => (p.template.maxLimit, p.inheritsLimits)) =
        some (5, true) ∧
      (∀ id p, hamlet.forest.get? id = some p →
        ∃ own, firstTemplate? default hamletRows.templates id = some own ∧
          p.HandedDown own ((hamlet.forest.ancestors id).filterMap
            (firstTemplate? default hamletRows.templates))) ∧
      hamlet.forest.trickle = hamlet.forest := by
  have hload : load default hamletRows .fresh default = .ok hamlet := rfl
  exact ⟨hload, by decide +kernel, by decide +kernel, load_handedDown hload⟩

end Registry

end SpawnForest
