import SpawnForest.Forest.Inheritance
import SpawnForest.Proofs.Forest.Subtree

/-!
# Building a forest

Starting from no pools at all, adding pools that stand alone and edges that
`link` accepts keeps the forest well linked. What makes the difference is the
check of the hierarchy: a child without a parent is the top of its own
hierarchy, so if it is not in the hierarchy of its new parent, the two
hierarchies are different ones, and every pool of the lower one can be put
deeper than the parent (`WellLinked.link`).
-/

namespace SpawnForest.Forest

/-! ## The top of a hierarchy -/

theorem top_of_top {f : Forest} {id : PoolId} (h : f.parent? id = none) : f.top id = id := by
  rw [top, ancestors_of_top h]
  rfl

section

variable {f : Forest} (hf : f.WellLinked)

include hf

theorem WellLinked.top_of_parent {id q : PoolId} (h : f.parent? id = some q) :
    f.top id = f.top q := by
  rw [top, top, hf.ancestors_of_parent h, List.getLast?_cons]
  rfl

/-- The way up from every pool of a hierarchy ends at its top. -/
theorem WellLinked.mem_subtree_top {id : PoolId} (h : f.contains id = true) :
    id ∈ f.subtree (f.top id) := by
  induction id using hf.up_induction with
  | step id ih =>
      cases hq : f.parent? id with
      | none =>
          rw [top_of_top hq]
          exact hf.self_mem_subtree h
      | some q =>
          rw [hf.top_of_parent hq]
          exact hf.mem_subtree_of_child (ih q hq (hf.contains_parent hq)) (hf.child_iff.mpr hq)

end

/-! ## Well-linked by construction -/

/-- Forests with the same parents and children are well linked together. -/
theorem WellLinked.of_links {f g : Forest} (hf : f.WellLinked)
    (hparent : ∀ id, g.parent? id = f.parent? id)
    (hchildren : ∀ id, g.children id = f.children id) : g.WellLinked := by
  obtain ⟨depth, hdepth⟩ := hf.grounded
  refine ⟨?_, ?_, depth, ?_⟩
  · intro c q
    rw [hchildren, hparent]
    exact hf.child_iff
  · intro q
    rw [hchildren]
    exact hf.children_nodup q
  · intro c q h
    rw [hparent] at h
    exact hdepth h

theorem WellLinked.of_alike {f g : Forest} (hf : f.WellLinked) (hfg : Alike Pool.links f g) :
    g.WellLinked :=
  hf.of_links (fun id => (hfg.parent? id).symm) (fun id => (hfg.children id).symm)

theorem wellLinked_empty : empty.WellLinked := by
  refine ⟨?_, fun q => .nil, fun _ => 0, ?_⟩
  · intro c q
    exact ⟨fun h => absurd h List.not_mem_nil, fun h => absurd h (Option.some_ne_none q).symm⟩
  · intro c q h
    cases h

theorem get?_insert (f : Forest) (pool : Pool) (id : PoolId) :
    get? ⟨f.pools.insert pool.id pool⟩ id = if id = pool.id then some pool else f.get? id := by
  rw [get?, Table.get?_insert]
  simp only [Key.rank_eq_iff, get?]

theorem insert?_eq_some {f g : Forest} {pool : Pool} (h : f.insert? pool = some g) :
    f.get? pool.id = none ∧ g = ⟨f.pools.insert pool.id pool⟩ := by
  obtain ⟨hnew, h⟩ := Option.ite_none_left_eq_some.mp h
  refine ⟨?_, (Option.some.inj h).symm⟩
  rwa [contains, Table.contains, Bool.not_eq_true, Option.isSome_eq_false_iff,
    Option.isNone_iff_eq_none] at hnew

/-- A pool that stands alone changes no link. -/
theorem WellLinked.insert {f g : Forest} {pool : Pool} (hf : f.WellLinked)
    (h : f.insert? pool = some g) (hparent : pool.parent = none) (hchildren : pool.children = []) :
    g.WellLinked := by
  obtain ⟨hnew, rfl⟩ := insert?_eq_some h
  refine hf.of_links ?_ ?_
  · intro id
    rw [parent?, parent?, get?_insert]
    by_cases same : id = pool.id
    · simp [same, hnew, hparent]
    · rw [if_neg same]
  · intro id
    rw [children_eq, children_eq, get?_insert]
    by_cases same : id = pool.id
    · rw [if_pos same, same, hnew, Option.map_some, Option.map_none, hchildren]
      rfl
    · rw [if_neg same]

/-! ## Edges -/

theorem link_eq_ok {f g : Forest} {parent child : PoolId} {chance : Single}
    (h : f.link parent child chance = .ok g) :
    ∃ pool, f.contains parent = true ∧ f.get? child = some pool ∧
      f.inHierarchy parent child = false ∧ pool.parent = none ∧
      g = (f.modify parent (fun p => { p with children := p.children ++ [child] })).modify child
        (fun c => { c with parent := some parent, chance := chance }) := by
  unfold link at h
  cases hparent : f.contains parent with
  | false =>
      rw [hparent, Bool.not_false, if_pos rfl] at h
      cases h
  | true =>
      rw [hparent, Bool.not_true, if_neg Bool.false_ne_true] at h
      cases hpool : f.get? child with
      | none =>
          rw [hpool] at h
          cases h
      | some pool =>
          rw [hpool] at h
          dsimp only at h
          cases hcycle : f.inHierarchy parent child with
          | true =>
              rw [hcycle, if_pos rfl] at h
              cases h
          | false =>
              rw [hcycle, if_neg Bool.false_ne_true] at h
              cases hfree : pool.parent with
              | some existing =>
                  rw [hfree] at h
                  cases h
              | none =>
                  rw [hfree] at h
                  exact ⟨pool, rfl, rfl, rfl, hfree, (Except.ok.inj h).symm⟩

/-- What an accepted edge says about the forest, and what it does to it. -/
structure Linked (f : Forest) (parent child : PoolId) (chance : Single) (g : Forest) : Prop where
  parent_known : f.contains parent = true
  child_known : f.contains child = true
  child_free : f.parent? child = none
  apart : f.top parent ≠ child
  result : g = (f.modify parent (fun p => { p with children := p.children ++ [child] })).modify
    child (fun c => { c with parent := some parent, chance := chance })

theorem WellLinked.linked {f g : Forest} {parent child : PoolId} {chance : Single}
    (hf : f.WellLinked) (h : f.link parent child chance = .ok g) :
    Linked f parent child chance g := by
  obtain ⟨pool, hparent, hpool, hcycle, hfree, hresult⟩ := link_eq_ok h
  have hchild := contains_iff.mpr ⟨pool, hpool⟩
  refine ⟨hparent, hchild, ?_, ?_, hresult⟩
  · rw [parent?_of_get hpool, hfree]
  · intro htop
    refine Bool.eq_false_iff.mp hcycle (List.contains_iff_mem.mpr ?_)
    rw [htop]
    exact hf.self_mem_subtree hchild

section

variable {f g : Forest} {parent child : PoolId} {chance : Single}

theorem Linked.ne (h : Linked f parent child chance g) : parent ≠ child := by
  intro same
  refine h.apart ?_
  rw [same]
  exact top_of_top h.child_free

theorem Linked.parent? (h : Linked f parent child chance g) (id : PoolId) :
    g.parent? id = if child = id then some parent else f.parent? id := by
  rw [h.result, Forest.parent?, get?_modify, get?_modify, Forest.parent?]
  obtain ⟨c, hc⟩ := contains_iff.mp h.child_known
  by_cases hchild : child = id
  · subst hchild
    rw [if_pos rfl, if_neg h.ne, if_pos rfl, hc]
    rfl
  · rw [if_neg hchild, if_neg hchild]
    split
    · cases f.get? id <;> rfl
    · rfl

theorem Linked.children (h : Linked f parent child chance g) (id : PoolId) :
    g.children id = if parent = id then f.children id ++ [child] else f.children id := by
  obtain ⟨p, hp⟩ := contains_iff.mp h.parent_known
  rw [h.result, children_eq, get?_modify, get?_modify, children_eq]
  by_cases hparent : parent = id
  · subst hparent
    rw [if_neg h.ne.symm, if_pos rfl, if_pos rfl, hp]
    rfl
  · rw [if_neg hparent, if_neg hparent]
    split
    · cases f.get? id <;> rfl
    · rfl

/-- An accepted edge keeps the forest well linked: the hierarchy of the child goes below the
parent as a whole. -/
theorem Linked.wellLinked (h : Linked f parent child chance g) (hf : f.WellLinked) :
    g.WellLinked := by
  have hlone : ∀ q, child ∉ f.children q := by
    intro q hmem
    rw [hf.child_iff, h.child_free] at hmem
    cases hmem
  obtain ⟨depth, hdepth⟩ := hf.grounded
  refine ⟨?_, ?_,
    fun id => if f.top id = child then depth id + depth parent + 1 else depth id, ?_⟩
  · intro c q
    rw [h.children, h.parent?]
    by_cases hchild : child = c
    · subst hchild
      by_cases hq : parent = q
      · simp [hq]
      · simp [hq, hlone q]
    · have hne : c ≠ child := fun h => hchild h.symm
      rw [if_neg hchild]
      split
      · simp [hne, hf.child_iff]
      · exact hf.child_iff
  · intro q
    rw [h.children]
    split
    · refine List.nodup_append.mpr ⟨hf.children_nodup q, List.nodup_singleton _, ?_⟩
      intro a ha b hb hab
      rw [List.mem_singleton] at hb
      exact hlone q (hb ▸ hab ▸ ha)
    · exact hf.children_nodup q
  · intro c q hcq
    rw [h.parent?] at hcq
    by_cases hchild : child = c
    · rw [if_pos hchild] at hcq
      subst hchild
      obtain rfl := Option.some.inj hcq
      beta_reduce
      rw [if_pos (top_of_top h.child_free), if_neg h.apart]
      omega
    · rw [if_neg hchild] at hcq
      have hless := hdepth hcq
      beta_reduce
      rw [hf.top_of_parent hcq]
      split <;> omega

end

theorem WellLinked.link {f g : Forest} {parent child : PoolId} {chance : Single}
    (hf : f.WellLinked) (h : f.link parent child chance = .ok g) : g.WellLinked :=
  (hf.linked h).wellLinked hf

/-! ## Handing down -/

/-- An edge is not seen by a view that sees no links. -/
theorem alike_link {α : Type} {view : Pool → α} {f g : Forest} {parent child : PoolId}
    {chance : Single} (hparent : ∀ p children, view { p with children := children } = view p)
    (hchild : ∀ p parent chance, view { p with parent := parent, chance := chance } = view p)
    (h : f.link parent child chance = .ok g) : Alike view f g := by
  obtain ⟨pool, -, -, -, -, rfl⟩ := link_eq_ok h
  exact (alike_modify (fun p _ => hparent p _)).trans (alike_modify (fun p _ => hchild p _ _))

/-- A pool takes what it lacks, and a leaf without a maximum that has a cap over it takes that as
well. -/
theorem inheritFrom_cases (parent : Template) (cap : Option UInt32) (p : Pool) :
    inheritFrom parent cap p = { p with template := p.template.inherit parent } ∨
    ∃ limit, cap = some limit ∧ p.isLeaf = true ∧ p.template.maxLimit = 0 ∧
      inheritFrom parent cap p = { p with
        template := { p.template.inherit parent with minLimit := 0, maxLimit := limit }
        inheritsLimits := true } := by
  cases cap with
  | none => exact .inl rfl
  | some limit =>
      by_cases hopen : p.isLeaf = true ∧ p.template.maxLimit = 0
      · have hzero : p.maxLimit = 0 := congrArg UInt32.toNat hopen.2
        exact .inr ⟨limit, rfl, hopen.1, hopen.2,
          if_pos (Bool.and_eq_true_iff.mpr ⟨hopen.1, decide_eq_true hzero⟩)⟩
      · refine .inl (if_neg (fun hboth => hopen ?_))
        obtain ⟨hleaf, hzero⟩ := Bool.and_eq_true_iff.mp hboth
        exact ⟨hleaf, UInt32.toNat_inj.mp (of_decide_eq_true hzero)⟩

theorem links_inheritFrom (parent : Template) (cap : Option UInt32) (p : Pool) :
    (inheritFrom parent cap p).links = p.links := by
  obtain h | ⟨_, -, -, -, h⟩ := inheritFrom_cases parent cap p <;> exact (congrArg Pool.links h :)

/-- Whatever handing down may change is left out of a view that does not see templates beyond
the number and the kind, nor the mark of inherited limits. -/
theorem alike_settle {α : Type} {view : Pool → α}
    (hview : ∀ parent cap pool, view (inheritFrom parent cap pool) = view pool) (f : Forest)
    (id : PoolId) : Alike view f (f.settle id) := by
  unfold settle
  split
  · exact .refl view f
  · exact alike_modify (fun p _ => hview _ _ p)

theorem alike_foldl_settle {α : Type} {view : Pool → α}
    (hview : ∀ parent cap pool, view (inheritFrom parent cap pool) = view pool)
    (ids : List PoolId) (f : Forest) : Alike view f (ids.foldl settle f) := by
  induction ids generalizing f with
  | nil => exact .refl view f
  | cons id ids ih => exact (alike_settle hview f id).trans (ih (f.settle id))

theorem alike_trickle {α : Type} {view : Pool → α}
    (hview : ∀ parent cap pool, view (inheritFrom parent cap pool) = view pool) (f : Forest) :
    Alike view f f.trickle :=
  alike_foldl_settle hview _ f

end SpawnForest.Forest
