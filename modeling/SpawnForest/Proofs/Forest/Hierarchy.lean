import SpawnForest.Proofs.Forest.Building

/-!
# The hierarchy that edits build

A forest starts without pools and grows by two kinds of edits: a pool that
stands alone, and an edge. Whatever is asked for, and in whatever order, the
links stay a forest, because an edit that would spoil it is refused and leaves
everything as it was.

The walks of the library carry a bound on their length. `WayUp` and `WayDown`
are the same walks without one: a walk up that goes on as long as there is a
parent, and a walk down with a stack of pools that wait for their turn. That
they have a derivation at all is what it means for them to come to an end, and
what they list is what the bounded walks list.
-/

namespace SpawnForest.Forest

/-! ## Edits -/

/-- A change that is asked of a forest. -/
inductive Edit where
  | add (template : Template)
  | link (parent child : PoolId) (chance : Single)

/-- What is left of a forest after an edit. A refused one leaves it as it was. -/
def edit (f : Forest) : Edit → Forest
  | .add template => (f.insert? (.ofTemplate template)).getD f
  | .link parent child chance =>
    match f.link parent child chance with
    | .ok g => g
    | .error _ => f

theorem WellLinked.edit {f : Forest} (hf : f.WellLinked) (e : Edit) : (f.edit e).WellLinked := by
  cases e with
  | add template =>
      cases h : f.insert? (.ofTemplate template) with
      | none => simpa [Forest.edit, h] using hf
      | some g => simpa [Forest.edit, h] using hf.insert h rfl rfl
  | link parent child chance =>
      cases h : f.link parent child chance with
      | error e => simpa [Forest.edit, h] using hf
      | ok g => simpa [Forest.edit, h] using hf.link h

theorem wellLinked_edits (edits : List Edit) : (edits.foldl edit empty).WellLinked :=
  List.foldlRecOn edits edit wellLinked_empty (fun _ hf e _ => hf.edit e)

/-! ## Walks without a bound -/

/-- The pools that a walk up meets, one parent after the other. -/
inductive WayUp (f : Forest) : Option PoolId → List PoolId → Prop where
  | top : WayUp f none []
  | step {id : PoolId} {above : List PoolId} :
      WayUp f (f.parent? id) above → WayUp f (some id) (id :: above)

/-- The pools that a walk down meets, the next one on top of the stack. The children of a pool
go before whatever waits there already. -/
inductive WayDown (f : Forest) : List PoolId → List PoolId → Prop where
  | done : WayDown f [] []
  | step {id : PoolId} {waiting below : List PoolId} :
      WayDown f (f.children id ++ waiting) below → WayDown f (id :: waiting) (id :: below)

section

variable {f : Forest} (hf : f.WellLinked)

include hf

theorem WellLinked.wayUp (id : PoolId) : f.WayUp (f.parent? id) (f.ancestors id) := by
  induction id using hf.up_induction with
  | step id ih =>
      cases hq : f.parent? id with
      | none =>
          rw [ancestors_of_top hq]
          exact .top
      | some q =>
          rw [hf.ancestors_of_parent hq]
          exact .step (ih q hq)

omit hf in
theorem wayDown_flatMap (ids : List PoolId)
    (each : ∀ id ∈ ids, ∀ waiting below, f.WayDown waiting below →
      f.WayDown (id :: waiting) (f.subtree id ++ below))
    {waiting below : List PoolId} (h : f.WayDown waiting below) :
    f.WayDown (ids ++ waiting) (ids.flatMap f.subtree ++ below) := by
  induction ids with
  | nil => exact h
  | cons id ids ih =>
      rw [List.flatMap_cons, List.append_assoc]
      exact each id List.mem_cons_self _ _ (ih (fun x hx => each x (List.mem_cons_of_mem _ hx)))

/-- A pool on the stack is met with its whole subtree before the ones that wait under it. -/
theorem WellLinked.wayDown_cons {id : PoolId} (hid : f.contains id = true)
    {waiting below : List PoolId} (h : f.WayDown waiting below) :
    f.WayDown (id :: waiting) (f.subtree id ++ below) := by
  induction id using hf.down_induction generalizing waiting below with
  | step id ih =>
      rw [hf.subtree_eq hid]
      exact .step (wayDown_flatMap _
        (fun c hc _ _ h => ih c hc (hf.contains_child hc) h) h)

theorem WellLinked.wayDown {id : PoolId} (hid : f.contains id = true) :
    f.WayDown [id] (f.subtree id) := by
  simpa using hf.wayDown_cons hid .done

/-! ## Counting links -/

theorem WellLinked.count_children (q c : PoolId) :
    (f.children q).count c = if f.parent? c = some q then 1 else 0 := by
  rw [(hf.children_nodup q).count]
  simp only [hf.child_iff]

theorem WellLinked.parent?_top (id : PoolId) : f.parent? (f.top id) = none := by
  induction id using hf.up_induction with
  | step id ih =>
      cases hq : f.parent? id with
      | none => rwa [top_of_top hq]
      | some q => rw [hf.top_of_parent hq, ih q hq]

/-- A pool stands before its children. -/
theorem WellLinked.parent_sublist {id q c : PoolId} (hq : q ∈ f.subtree id)
    (hc : c ∈ f.children q) : [q, c].Sublist (f.subtree id) := by
  induction id using hf.down_induction with
  | step id ih =>
      have hid := contains_of_mem_subtree hq
      rw [hf.subtree_eq hid] at hq ⊢
      rcases List.mem_cons.mp hq with rfl | hq
      · refine List.Sublist.cons_cons _ (List.singleton_sublist.mpr ?_)
        exact List.mem_flatMap.mpr ⟨c, hc, hf.self_mem_subtree (hf.contains_child hc)⟩
      · obtain ⟨d, hd, hq⟩ := List.mem_flatMap.mp hq
        refine ((ih d hd hq).trans ?_).cons _
        exact (List.infix_flatMap_of_mem hd f.subtree).sublist

/-! ## The answer to an edge -/

/-- Whatever is in the hierarchy of a pool has the top of that hierarchy as its own. -/
theorem WellLinked.inHierarchy_iff {id x : PoolId}
    (hx : f.contains x = true) : f.inHierarchy id x = true ↔ f.top x = f.top id := by
  rw [inHierarchy, List.contains_iff_mem]
  constructor
  · intro hmem
    have htop := hf.parent?_top id
    generalize f.top id = root at hmem htop
    induction x using hf.up_induction with
    | step x ih =>
        cases hq : f.parent? x with
        | none =>
            rcases (hf.mem_subtree.mp hmem).2 with rfl | hup
            · exact top_of_top hq
            · rw [ancestors_of_top hq] at hup
              cases hup
        | some q =>
            rw [hf.top_of_parent hq]
            refine ih q hq (hf.contains_parent hq) (hf.mem_subtree.mpr ⟨hf.contains_parent hq, ?_⟩)
            rcases (hf.mem_subtree.mp hmem).2 with rfl | hup
            · rw [htop] at hq
              cases hq
            · rw [hf.ancestors_of_parent hq] at hup
              rcases List.mem_cons.mp hup with rfl | hup
              · exact .inl rfl
              · exact .inr hup
  · intro same
    rw [← same]
    exact hf.mem_subtree_top hx

end

/-- The reason an edge is refused for. Each reason takes it for granted that the ones before it
do not apply. -/
def Refuses (f : Forest) (parent child : PoolId) : LinkError → Prop
  | .missingParent p => parent = p ∧ f.contains parent = false
  | .missingChild c => child = c ∧ f.contains parent = true ∧ f.contains child = false
  | .cycle p c => (parent = p ∧ child = c) ∧ (f.contains parent = true ∧ f.contains child = true) ∧
      f.top child = f.top parent
  | .alreadyParented c existing => child = c ∧
      (f.contains parent = true ∧ f.contains child = true) ∧ f.top child ≠ f.top parent ∧
      f.parent? child = some existing

/-- An edge is accepted if both ends exist and the child is the top of another hierarchy. -/
def Accepts (f : Forest) (parent child : PoolId) : Prop :=
  f.contains parent = true ∧ f.contains child = true ∧ f.parent? child = none ∧ f.top parent ≠ child

section

variable {f : Forest} (hf : f.WellLinked) (parent child : PoolId) (chance : Single)

include hf

theorem WellLinked.link_error_iff (e : LinkError) :
    f.link parent child chance = .error e ↔ f.Refuses parent child e := by
  unfold Forest.link
  cases hp : f.contains parent with
  | false => cases e <;> simp [Refuses, hp]
  | true =>
      cases hc : f.get? child with
      | none =>
          have hunknown := not_contains_iff.mpr hc
          cases e <;> simp [Refuses, hp, hunknown]
      | some pool =>
          have hknown := contains_iff.mpr ⟨pool, hc⟩
          have hup := parent?_of_get hc
          cases htop : f.inHierarchy parent child with
          | true =>
              have hsame := (hf.inHierarchy_iff hknown).mp htop
              cases e <;> simp [Refuses, hp, hknown, hsame]
          | false =>
              have hapart : f.top child ≠ f.top parent := fun same => by
                rw [(hf.inHierarchy_iff hknown).mpr same] at htop
                cases htop
              cases hq : pool.parent with
              | none =>
                  cases e <;> simp [Refuses, hp, hknown, hapart, hup, hq]
              | some existing =>
                  cases e <;> simp [Refuses, hp, hknown, hapart, hup, hq]

theorem WellLinked.link_ok_iff :
    (∃ g, f.link parent child chance = .ok g) ↔ f.Accepts parent child := by
  constructor
  · rintro ⟨g, hg⟩
    have hlinked := hf.linked hg
    exact ⟨hlinked.parent_known, hlinked.child_known, hlinked.child_free, hlinked.apart⟩
  · rintro ⟨hp, hc, hfree, hapart⟩
    cases h : f.link parent child chance with
    | ok g => exact ⟨g, rfl⟩
    | error e =>
        have hrefused := (hf.link_error_iff parent child chance e).mp h
        cases e with
        | missingParent p => rw [hrefused.2] at hp; cases hp
        | missingChild c => rw [hrefused.2.2] at hc; cases hc
        | cycle p c => exact absurd (hrefused.2.2.symm.trans (top_of_top hfree)) hapart
        | alreadyParented c existing => rw [hrefused.2.2.2] at hfree; cases hfree

end

/-! ## Every forest that edits build -/

/-- Parents and children agree, and every walk along the links comes to its end. -/
structure Hierarchical (f : Forest) : Prop where
  /-- A parent lists each of its children once, and nothing else. -/
  listed : ∀ q c, (f.children q).count c = if f.parent? c = some q then 1 else 0
  walk_up : ∀ id, f.WayUp (f.parent? id) (f.ancestors id)
  /-- The way up is shorter than the number of pools, passes no pool twice and ends at a top. -/
  way_up : ∀ id, f.contains id = true →
    (f.ancestors id).length < f.size ∧ (id :: f.ancestors id).Nodup ∧ f.parent? (f.top id) = none
  walk_down : ∀ id, f.contains id = true → f.WayDown [id] (f.subtree id)
  below : ∀ id x, (f.subtree id).count x =
    if f.contains x = true ∧ (x = id ∨ id ∈ f.ancestors x) then 1 else 0
  /-- A pool of a subtree stands in it before its children. -/
  parents_first : ∀ id q c, q ∈ f.subtree id → f.parent? c = some q →
    [q, c].Sublist (f.subtree id)

theorem WellLinked.hierarchical {f : Forest} (hf : f.WellLinked) : f.Hierarchical where
  listed := hf.count_children
  walk_up := hf.wayUp
  way_up id h := ⟨hf.length_ancestors_lt h, hf.nodup_path id, hf.parent?_top id⟩
  walk_down _ := hf.wayDown
  below id x := by
    rw [(hf.nodup_subtree id).count]
    simp only [hf.mem_subtree]
  parents_first _ _ _ hq hc := hf.parent_sublist hq (hf.child_iff.mpr hc)

/-- Edits build a forest, in whatever order they come and whichever pools they name: its walks
end, and an edge is accepted or refused for what it would do to the links. -/
theorem hierarchical_edits (edits : List Edit) :
    (edits.foldl edit empty).Hierarchical ∧
      ∀ parent child chance,
        ((∃ g, (edits.foldl edit empty).link parent child chance = .ok g) ↔
          (edits.foldl edit empty).Accepts parent child) ∧
        ∀ e, ((edits.foldl edit empty).link parent child chance = .error e ↔
            (edits.foldl edit empty).Refuses parent child e) ∧
          ((edits.foldl edit empty).link parent child chance = .error e →
            (edits.foldl edit empty).edit (.link parent child chance) =
              edits.foldl edit empty) := by
  have hf := wellLinked_edits edits
  generalize edits.foldl edit empty = f at hf
  refine ⟨hf.hierarchical, fun parent child chance => ⟨hf.link_ok_iff parent child chance, ?_⟩⟩
  intro e
  refine ⟨hf.link_error_iff parent child chance e, ?_⟩
  intro hrefused
  simp only [edit, hrefused]

end SpawnForest.Forest
