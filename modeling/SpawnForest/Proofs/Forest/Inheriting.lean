import SpawnForest.Proofs.Forest.Building

/-!
# What is handed down

The pass over a forest overwrites pools in place, while the pools that come
later read those that were overwritten. It meets every pool once and no pool
after one of its children (`ParentsFirst`), so what a pool reads of its parent
is final. What it reads of the limits above it never changes, since the pools
above others are groups and only leaves take a cap. At the end every pool is
therefore what it was, settled by the pools above it as they are at the end
(`WellLinked.settledBy_foldl`).

That equation has one solution, from the roots downward. It gives each field
the first value on the way up (`WellLinked.handedDown`), and a second pass finds
nothing to do (`WellLinked.eq_of_settledBy`).
-/

namespace SpawnForest

namespace Template

/-! ## Values on the way up -/

/-- The first value of a field that is not zero, or zero if there is none. -/
def firstValue {α : Type} [DecidableEq α] [OfNat α 0] (field : Template → α)
    (l : List Template) : α :=
  ((l.map field).find? (fun value => value ≠ 0)).getD 0

/-- A template with every inheritable field filled from those above it, nearest first. -/
def filled (own : Template) (above : List Template) : Template :=
  { own with
    spawnTimes :=
      { minSecs := firstValue (·.spawnTimes.minSecs) (own :: above)
        maxSecs := firstValue (·.spawnTimes.maxSecs) (own :: above)
        fastSecs := firstValue (·.spawnTimes.fastSecs) (own :: above) }
    corpseTimes :=
      { lootedSecs := firstValue (·.corpseTimes.lootedSecs) (own :: above)
        unlootedSecs := firstValue (·.corpseTimes.unlootedSecs) (own :: above) }
    phaseMask := firstValue (·.phaseMask) (own :: above)
    spawnMask := firstValue (·.spawnMask) (own :: above) }

/-- The nearest maximum above a pool. -/
def capOver (above : List Template) : Option UInt32 :=
  (above.map (·.maxLimit)).find? (fun limit => limit ≠ 0)

theorem capOver_ne_zero {above : List Template} {limit : UInt32} (h : capOver above = some limit) :
    limit ≠ 0 := of_decide_eq_true (List.find?_some h :)

theorem firstValue_cons {α : Type} [DecidableEq α] [OfNat α 0] (field : Template → α)
    (t : Template) (l : List Template) :
    firstValue field (t :: l) = if field t = 0 then firstValue field l else field t := by
  rw [firstValue, List.map_cons, List.find?_cons]
  by_cases h : field t = 0
  · rw [if_pos h, decide_eq_false (not_not.mpr h)]
    rfl
  · rw [if_neg h, decide_eq_true h]
    rfl

theorem firstValue_singleton {α : Type} [DecidableEq α] [OfNat α 0] (field : Template → α)
    (t : Template) : firstValue field [t] = field t := by
  rw [firstValue_cons]
  by_cases h : field t = 0
  · rw [if_pos h, h]
    rfl
  · rw [if_neg h]

theorem filled_nil (own : Template) : own.filled [] = own := by
  simp only [filled, firstValue_singleton]

/-- Filling from all templates above is inheriting from the nearest one, once that one is filled
from the others. -/
theorem filled_cons (own parent : Template) (above : List Template) :
    own.filled (parent :: above) = own.inherit (parent.filled above) := by
  simp only [filled, inherit, inheritWord, firstValue_cons]

theorem inherit_inherit (own parent : Template) :
    (own.inherit parent).inherit parent = own.inherit parent := by
  have hword : ∀ a b, inheritWord (inheritWord a b) b = inheritWord a b := by
    intro a b
    unfold inheritWord
    split <;> simp_all
  simp only [inherit, hword]
  by_cases hmask : own.spawnMask = 0 <;> simp [hmask]

end Template

/-- A pool that everything was handed down to: its own template, those above it nearest first, and
what became of it. -/
structure Pool.HandedDown (own : Template) (above : List Template) (p : Pool) : Prop where
  filled : p.template = { own.filled above with
    minLimit := p.template.minLimit, maxLimit := p.template.maxLimit }
  /-- A leaf without a maximum is capped by the nearest one above it. -/
  capped : ∀ limit, p.isLeaf = true → own.maxLimit = 0 → Template.capOver above = some limit →
    p.template.minLimit = 0 ∧ p.template.maxLimit = limit ∧ p.inheritsLimits = true
  /-- Any other pool has its own limits. -/
  kept : ¬(p.isLeaf = true ∧ own.maxLimit = 0 ∧ Template.capOver above ≠ none) →
    p.template.minLimit = own.minLimit ∧ p.template.maxLimit = own.maxLimit ∧
      p.inheritsLimits = false

namespace Forest

variable {f g k : Forest} {id : PoolId}

/-! ## One pool -/

def template? (f : Forest) (id : PoolId) : Option Template := (f.get? id).map (·.template)

/-- The templates above a pool, nearest first. -/
def templatesAbove (f : Forest) (id : PoolId) : List Template :=
  (f.ancestors id).filterMap f.template?

theorem map_boundingAncestor? (f : Forest) (id : PoolId) :
    (f.boundingAncestor? id).map (·.template.maxLimit) =
      Template.capOver (f.templatesAbove id) := by
  have htemplates : f.templatesAbove id = ((f.ancestors id).filterMap f.get?).map (·.template) := by
    rw [templatesAbove, List.map_filterMap]
    rfl
  rw [htemplates, Template.capOver, List.map_map, List.find?_map, boundingAncestor?]
  congr 2
  funext p
  exact decide_eq_decide.mpr (Nat.pos_iff_ne_zero.trans
    (not_congr (UInt32.toNat_inj (b := 0))))

/-- A pool settled by the pools above it, as they are in a forest. -/
def inheriting (f : Forest) (id : PoolId) (p : Pool) : Pool :=
  match (f.parent? id).bind f.get? with
  | none => p
  | some parent => inheritFrom parent.template (Template.capOver (f.templatesAbove id)) p

theorem get?_settle (f : Forest) (id other : PoolId) :
    (f.settle id).get? other =
      if id = other then (f.get? other).map (f.inheriting id) else f.get? other := by
  unfold settle inheriting
  cases (f.parent? id).bind f.get? with
  | none => simp
  | some parent =>
      dsimp only
      rw [get?_modify, map_boundingAncestor?]

theorem inheriting_keeps {α : Type} {view : Pool → α}
    (hview : ∀ parent cap pool, view (inheritFrom parent cap pool) = view pool) (f : Forest)
    (id : PoolId) (p : Pool) : view (f.inheriting id p) = view p := by
  unfold inheriting
  split
  · rfl
  · exact hview _ _ _

theorem inheriting_congr (hparent : (g.parent? id).bind g.get? = (f.parent? id).bind f.get?)
    (hcap : Template.capOver (g.templatesAbove id) = Template.capOver (f.templatesAbove id)) :
    g.inheriting id = f.inheriting id := by
  unfold inheriting
  rw [hparent, hcap]

theorem inheritFrom_capped {parent : Template} {limit : UInt32} {p : Pool}
    (hleaf : p.isLeaf = true) (hmax : p.template.maxLimit = 0) :
    inheritFrom parent (some limit) p = { p with
      template := { p.template.inherit parent with minLimit := 0, maxLimit := limit }
      inheritsLimits := true } := by
  have hzero : p.maxLimit = 0 := congrArg UInt32.toNat hmax
  exact if_pos (Bool.and_eq_true_iff.mpr ⟨hleaf, decide_eq_true hzero⟩)

theorem inheritFrom_kept {parent : Template} {cap : Option UInt32} {p : Pool}
    (h : ¬(p.isLeaf = true ∧ p.template.maxLimit = 0 ∧ cap ≠ none)) :
    inheritFrom parent cap p = { p with template := p.template.inherit parent } := by
  obtain hkept | ⟨limit, rfl, hleaf, hmax, -⟩ := inheritFrom_cases parent cap p
  · exact hkept
  · exact absurd ⟨hleaf, hmax, Option.some_ne_none limit⟩ h

/-- The maximum of a group. A leaf has none that others could take. -/
def groupLimit (p : Pool) : Option UInt32 := if p.isLeaf then none else some p.template.maxLimit

/-- The part of a pool that decides about the pools below it and is never written. -/
def standing (p : Pool) : (Option PoolId × List PoolId) × Option UInt32 := (p.links, groupLimit p)

theorem groupLimit_inheritFrom (parent : Template) (cap : Option UInt32) (p : Pool) :
    groupLimit (inheritFrom parent cap p) = groupLimit p := by
  obtain h | ⟨_, -, hleaf, -, h⟩ := inheritFrom_cases parent cap p
  · rw [h]
    rfl
  · rw [h]
    exact (if_pos hleaf).trans (if_pos hleaf).symm

theorem standing_inheritFrom (parent : Template) (cap : Option UInt32) (p : Pool) :
    standing (inheritFrom parent cap p) = standing p :=
  Prod.ext (links_inheritFrom parent cap p) (groupLimit_inheritFrom parent cap p)

/-- The cap over a pool is a matter of the groups. -/
theorem WellLinked.capOver_congr (hf : f.WellLinked) (h : Alike standing f g) (id : PoolId) :
    Template.capOver (g.templatesAbove id) = Template.capOver (f.templatesAbove id) := by
  have hlinks : Alike Pool.links f g := h.through Prod.fst
  have hlimits : ∀ {e : Forest}, e.WellLinked →
      (e.templatesAbove id).map (·.maxLimit) =
        (e.ancestors id).filterMap (fun a => (e.get? a).bind groupLimit) := by
    intro e he
    rw [templatesAbove, List.map_filterMap]
    refine List.filterMap_congr (fun a ha => ?_)
    obtain ⟨c, hc⟩ := he.exists_child_of_ancestor ha
    obtain ⟨p, hp⟩ := contains_iff.mp (contains_of_child hc)
    have hgroup : p.isLeaf = false := by
      rw [children_of_get hp] at hc
      exact List.isEmpty_eq_false_iff.mpr (List.ne_nil_of_mem hc)
    rw [template?, hp, Option.map_some, Option.map_some, Option.bind_some, groupLimit, hgroup]
    rfl
  have hgroups : ∀ a, (g.get? a).bind groupLimit = (f.get? a).bind groupLimit := by
    intro a
    have hseen := congrArg (fun seen => seen.bind Prod.snd) (h.get? a)
    rw [Option.bind_map, Option.bind_map] at hseen
    exact hseen.symm
  rw [Template.capOver, Template.capOver, hlimits hf, hlimits (hf.of_alike hlinks),
    hlinks.ancestors, funext hgroups]

/-! ## The whole pass -/

/-- No pool comes twice, and none after one of its children. -/
def ParentsFirst (f : Forest) (ids : List PoolId) : Prop :=
  ids.Pairwise (fun a b => a ≠ b ∧ f.parent? a ≠ some b)

/-- Every pool of one forest is what it was in another, settled by the pools above it as they are
in the one. -/
def SettledBy (f g : Forest) : Prop := ∀ id, g.get? id = (f.get? id).map (g.inheriting id)

theorem WellLinked.parent?_ne_self (hf : f.WellLinked) (id : PoolId) : f.parent? id ≠ some id := by
  intro hself
  obtain ⟨depth, hdepth⟩ := hf.grounded
  exact Nat.lt_irrefl _ (hdepth hself)

/-- Each pool that a pass meets is settled by those above it, as they are in the end. -/
theorem WellLinked.get?_foldl_settle (hf : f.WellLinked) {ids : List PoolId}
    (h : f.ParentsFirst ids) (id : PoolId) :
    (ids.foldl settle f).get? id =
      if id ∈ ids then (f.get? id).map ((ids.foldl settle f).inheriting id) else f.get? id := by
  induction ids generalizing f id with
  | nil => simp
  | cons next ids ih =>
      have halike : Alike standing f (f.settle next) := alike_settle standing_inheritFrom f next
      have hlinks : Alike Pool.links f (f.settle next) := halike.through Prod.fst
      have hstanding : Alike standing f (ids.foldl settle (f.settle next)) :=
        halike.trans (alike_foldl_settle standing_inheritFrom ids _)
      obtain ⟨hnext, hrest⟩ := List.pairwise_cons.mp h
      have hlater : (f.settle next).ParentsFirst ids :=
        hrest.imp (fun hab => by rwa [← hlinks.parent?])
      have hend := ih (hf.of_alike hlinks) hlater
      rw [List.foldl_cons]
      generalize ids.foldl settle (f.settle next) = e at hend hstanding ⊢
      by_cases hmem : id ∈ ids
      · rw [hend, if_pos hmem, get?_settle, if_neg (hnext id hmem).1,
          if_pos (List.mem_cons_of_mem _ hmem)]
      · by_cases hid : next = id
        · -- what this pool reads of its parent is not written any more
          subst hid
          have hparent : (e.parent? next).bind e.get? = (f.parent? next).bind f.get? := by
            have hlinks : Alike Pool.links f e := hstanding.through Prod.fst
            rw [← hlinks.parent?]
            cases hq : f.parent? next with
            | none => rfl
            | some q =>
                have hne : next ≠ q := fun same => hf.parent?_ne_self next (same ▸ hq)
                rw [Option.bind_some, Option.bind_some, hend, get?_settle, if_neg hne,
                  if_neg (fun hq' => (hnext q hq').2 hq)]
          rw [hend, if_neg hmem, get?_settle, if_pos rfl, if_pos List.mem_cons_self,
            inheriting_congr hparent (hf.capOver_congr hstanding next)]
        · rw [hend, if_neg hmem, get?_settle, if_neg hid, if_neg]
          rw [List.mem_cons, not_or]
          exact ⟨Ne.symm hid, hmem⟩

theorem WellLinked.settledBy_foldl (hf : f.WellLinked) {ids : List PoolId}
    (h : f.ParentsFirst ids) (hall : ∀ id, f.contains id = true → id ∈ ids) :
    f.SettledBy (ids.foldl settle f) := by
  intro id
  rw [hf.get?_foldl_settle h]
  by_cases hlisted : id ∈ ids
  · rw [if_pos hlisted]
  · rw [if_neg hlisted]
    have hunknown : f.get? id = none := not_contains_iff.mp
      (Bool.not_eq_true _ ▸ fun hknown => hlisted (hall id hknown))
    rw [hunknown]
    rfl

/-- The pools below a pool are listed with parents first. -/
theorem WellLinked.parentsFirst_subtree (hf : f.WellLinked) (id : PoolId) :
    f.ParentsFirst (f.subtree id) := by
  induction id using hf.down_induction with
  | step id ih =>
      cases hid : f.contains id with
      | false =>
          rw [subtree_of_unknown hid]
          exact .nil
      | true =>
          rw [hf.subtree_eq hid]
          refine List.pairwise_cons.mpr ⟨fun b hb => ?_, List.pairwise_flatMap.mpr ⟨ih, ?_⟩⟩
          · obtain ⟨c, hc, hb⟩ := List.mem_flatMap.mp hb
            refine ⟨?_, fun hparent => ?_⟩
            · rintro rfl
              exact hf.not_mem_subtree_child hc hb
            · have hbelow : b ∈ f.subtree id :=
                hf.subtree_trans (hf.mem_subtree_of_child (hf.self_mem_subtree hid) hc) hb
              exact hf.not_mem_subtree_child (hf.child_iff.mpr hparent) hbelow
          · refine (hf.children_nodup id).imp_of_mem (fun hc hd hne a ha b hb => ⟨?_, ?_⟩)
            · rintro rfl
              exact hne (hf.child_eq_of_mem_subtree hc hd ha hb)
            · intro hparent
              have hbelow := hf.mem_subtree_of_child hb (hf.child_iff.mpr hparent)
              exact hne (hf.child_eq_of_mem_subtree hc hd ha hbelow)

/-! ## The one solution -/

theorem SettledBy.alike {α : Type} {view : Pool → α} (h : f.SettledBy g)
    (hview : ∀ parent cap pool, view (inheritFrom parent cap pool) = view pool) :
    Alike view f g := by
  intro id
  show (f.get? id).map view = (g.get? id).map view
  rw [h id, Option.map_map]
  exact congrArg (Option.map · (f.get? id)) (funext fun p => (inheriting_keeps hview g id p).symm)

/-- A pool takes from its parent's template what that one was filled with. -/
theorem handedDown_inheritFrom {p parent : Pool} (hopen : p.inheritsLimits = false)
    {own : Template} {above : List Template} (h : parent.HandedDown own above) :
    (inheritFrom parent.template (Template.capOver (own :: above)) p).HandedDown p.template
      (own :: above) := by
  have hfilled : p.template.inherit parent.template = p.template.filled (own :: above) := by
    rw [Template.filled_cons, h.filled]
    rfl
  by_cases hcapped : p.isLeaf = true ∧ p.template.maxLimit = 0 ∧
      Template.capOver (own :: above) ≠ none
  · obtain ⟨hleaf, hmax, hcap⟩ := hcapped
    obtain ⟨limit, hlimit⟩ := Option.ne_none_iff_exists'.mp hcap
    rw [hlimit, inheritFrom_capped hleaf hmax, hfilled]
    refine ⟨rfl, fun limit' _ _ hlimit' => ?_, fun hkept => absurd ⟨hleaf, hmax, hcap⟩ hkept⟩
    obtain rfl := Option.some.inj (hlimit.symm.trans hlimit')
    exact ⟨rfl, rfl, rfl⟩
  · rw [inheritFrom_kept hcapped, hfilled]
    refine ⟨rfl, fun limit hleaf hmax hlimit => ?_, fun _ => ⟨rfl, rfl, hopen⟩⟩
    exact absurd ⟨hleaf, hmax, by rw [hlimit]; exact Option.some_ne_none limit⟩ hcapped

theorem handedDown_alone {p : Pool} (hopen : p.inheritsLimits = false) :
    p.HandedDown p.template [] :=
  ⟨by rw [Template.filled_nil], fun _ _ _ hlimit => (Option.some_ne_none _ hlimit.symm).elim,
    fun _ => ⟨rfl, rfl, hopen⟩⟩

/-- If nothing is marked before the pass, each field of a pool ends up with the first value on the
way up, and its limits are its own or those of the nearest cap. -/
theorem WellLinked.handedDown (hf : f.WellLinked) (h : f.SettledBy g)
    (hopen : ∀ id p, f.get? id = some p → p.inheritsLimits = false) {id : PoolId} {q : Pool}
    (hq : g.get? id = some q) :
    ∃ own, f.template? id = some own ∧ q.HandedDown own (f.templatesAbove id) := by
  have hstanding : Alike standing f g := h.alike standing_inheritFrom
  have hlinks : Alike Pool.links f g := hstanding.through Prod.fst
  induction id using hf.up_induction generalizing q with
  | step id ih =>
      rw [h id] at hq
      obtain ⟨p, hp, rfl⟩ := Option.map_eq_some_iff.mp hq
      refine ⟨p.template, by rw [template?, hp]; rfl, ?_⟩
      unfold inheriting
      rw [← hlinks.parent?, hf.capOver_congr hstanding]
      cases hparent : f.parent? id with
      | none =>
          rw [templatesAbove, ancestors_of_top hparent]
          exact handedDown_alone (hopen id p hp)
      | some above =>
          obtain ⟨parent, habove⟩ :=
            contains_iff.mp ((hlinks.contains above).symm.trans (hf.contains_parent hparent))
          obtain ⟨own, hown, hparentDown⟩ := ih above hparent habove
          rw [Option.bind_some, habove, templatesAbove, hf.ancestors_of_parent hparent,
            List.filterMap_cons_some hown]
          exact handedDown_inheritFrom (hopen id p hp) hparentDown

theorem inheritFrom_inheritFrom {parent : Template} {above : List Template} (p : Pool) :
    inheritFrom parent (Template.capOver above) (inheritFrom parent (Template.capOver above) p) =
      inheritFrom parent (Template.capOver above) p := by
  by_cases hcapped : p.isLeaf = true ∧ p.template.maxLimit = 0 ∧ Template.capOver above ≠ none
  · obtain ⟨hleaf, hmax, hcap⟩ := hcapped
    obtain ⟨limit, hlimit⟩ := Option.ne_none_iff_exists'.mp hcap
    -- the cap is a maximum, so the second time the leaf is not without one
    rw [hlimit, inheritFrom_capped hleaf hmax,
      inheritFrom_kept (fun h => Template.capOver_ne_zero hlimit h.2.1)]
    show { p with
      template := { (p.template.inherit parent).inherit parent with
        minLimit := 0, maxLimit := limit }
      inheritsLimits := true } = _
    rw [Template.inherit_inherit]
  · have hstill : ¬({ p with template := p.template.inherit parent }.isLeaf = true ∧
        p.template.maxLimit = 0 ∧ Template.capOver above ≠ none) := hcapped
    rw [inheritFrom_kept hcapped, inheritFrom_kept hstill, Template.inherit_inherit]

/-- Handing down a second time changes nothing. -/
theorem WellLinked.eq_of_settledBy (hf : f.WellLinked) (h : f.SettledBy g) (h' : g.SettledBy k) :
    k = g := by
  have hstanding : Alike standing f g := h.alike standing_inheritFrom
  have hg : g.WellLinked := hf.of_alike (hstanding.through Prod.fst)
  have hstanding' : Alike standing g k := h'.alike standing_inheritFrom
  have hlinks : Alike Pool.links g k := hstanding'.through Prod.fst
  have hsame : ∀ id, k.get? id = g.get? id := by
    intro id
    induction id using hg.up_induction with
    | step id ih =>
        have hparent : (k.parent? id).bind k.get? = (g.parent? id).bind g.get? := by
          rw [← hlinks.parent?]
          cases hq : g.parent? id with
          | none => rfl
          | some q => exact ih q hq
        rw [h' id, inheriting_congr hparent (hg.capOver_congr hstanding' id), h id,
          Option.map_map]
        refine congrArg (Option.map · (f.get? id)) (funext fun p => ?_)
        show g.inheriting id (g.inheriting id p) = g.inheriting id p
        unfold inheriting
        split
        · rfl
        · exact inheritFrom_inheritFrom p
  exact congrArg Forest.mk (Table.ext_get? hsame)

end Forest

end SpawnForest
