import SpawnForest.Proofs.Layers.Fields
import SpawnForest.Proofs.Registry.Frame

/-!
# Overlaying patches

A value that is set hides what lies below it (`overlay`). Resolving attributes
is this and nothing else, name by name: the patch of the pair over that of the
candidate over that of the point over the base (`Placement.value_resolve`).

What is claimed of patches as wholes follows from that. Overlaying is
associative, and a value that is not set hides nothing. So the three layers come
to one patch that merges them, empty patches make no difference, and each name
is a matter of the values of that name alone (`Placement.overlaid`).
-/

namespace SpawnForest

/-! ## One value over another -/

def Datum.isSet : Datum → Bool
  | .word n => !Unset.isUnset n
  | .byte n => !Unset.isUnset n
  | .single x => !Unset.isUnset x
  | .text s => !Unset.isUnset s
  | .rotation r => !Unset.isUnset r

/-- The upper value if it is set, else the lower one. -/
def overlay (upper lower : Option Datum) : Option Datum :=
  if upper.any Datum.isSet then upper else lower

theorem overlay_of_unset {upper : Option Datum} (h : upper.any Datum.isSet = false)
    (lower : Option Datum) : overlay upper lower = lower := by
  rw [overlay, h]
  rfl

theorem overlay_assoc (a b c : Option Datum) :
    overlay (overlay a b) c = overlay a (overlay b c) := by
  unfold overlay
  cases ha : a.any Datum.isSet <;> simp [ha]

/-- Layers that know nothing of a name leave it as it is. -/
theorem foldr_overlay_absent {β : Type} (layers : List (Option β)) (base : Option Datum) :
    layers.foldr (fun layer lower => overlay (layer.bind (fun _ => none)) lower) base = base := by
  induction layers with
  | nil => rfl
  | cons layer layers ih =>
      rw [List.foldr_cons, ih]
      cases layer <;> rfl

section FirstSet

variable {α : Type} [Unset α]

/-- The first value that is set among those of some layers is what they come to when they are
overlaid. -/
theorem firstSet_overlay {β : Type} (shown kept : α → Datum)
    (hset : ∀ v, (shown v).isSet = !Unset.isUnset v)
    (hkept : ∀ v, Unset.isUnset v = false → shown v = kept v) (field : β → α)
    (layers : List (Option β)) (base : α) :
    some (kept (firstSet ((layers.filterMap id).map field) base)) =
      layers.foldr (fun layer lower => overlay (layer.bind (fun p => some (shown (field p)))) lower)
        (some (kept base)) := by
  induction layers with
  | nil => rfl
  | cons layer layers ih =>
      rw [List.foldr_cons, ← ih]
      cases layer with
      | none => rfl
      | some p =>
          rw [Option.bind_some, overlay, Option.any_some, hset, List.filterMap_cons_some (by rfl),
            List.map_cons, firstSet, List.find?_cons]
          cases hv : Unset.isUnset (field p) with
          | true => rfl
          | false => exact congrArg some (hkept _ hv).symm

theorem overlay_firstSet (shown : α → Datum) (hset : ∀ v, (shown v).isSet = !Unset.isUnset v)
    (a b : α) : some (shown (firstSet [a] b)) = overlay (some (shown a)) (some (shown b)) :=
  firstSet_overlay shown shown hset (fun _ _ => rfl) (fun v => v) [some a] b

end FirstSet

/-! ## Merging patches -/

/-- One patch over another. -/
def CreaturePatch.merge (a b : CreaturePatch) : CreaturePatch where
  spawnTimeMin := firstSet [a.spawnTimeMin] b.spawnTimeMin
  spawnTimeMax := firstSet [a.spawnTimeMax] b.spawnTimeMax
  aiName := firstSet [a.aiName] b.aiName
  scriptName := firstSet [a.scriptName] b.scriptName
  modelId := firstSet [a.modelId] b.modelId
  equipmentId := firstSet [a.equipmentId] b.equipmentId
  currentWaypoint := firstSet [a.currentWaypoint] b.currentWaypoint
  curHealth := firstSet [a.curHealth] b.curHealth
  curMana := firstSet [a.curMana] b.curMana
  npcFlag := firstSet [a.npcFlag] b.npcFlag
  unitFlags := firstSet [a.unitFlags] b.unitFlags
  dynamicFlags := firstSet [a.dynamicFlags] b.dynamicFlags
  movementType := firstSet [a.movementType] b.movementType
  spawnDist := firstSet [a.spawnDist] b.spawnDist
  corpseTimeLooted := firstSet [a.corpseTimeLooted] b.corpseTimeLooted
  corpseTimeUnlooted := firstSet [a.corpseTimeUnlooted] b.corpseTimeUnlooted
  phaseMask := firstSet [a.phaseMask] b.phaseMask
  spawnMask := firstSet [a.spawnMask] b.spawnMask

/-- One patch over another. -/
def GameObjectPatch.merge (a b : GameObjectPatch) : GameObjectPatch where
  spawnTimeMin := firstSet [a.spawnTimeMin] b.spawnTimeMin
  spawnTimeMax := firstSet [a.spawnTimeMax] b.spawnTimeMax
  aiName := firstSet [a.aiName] b.aiName
  scriptName := firstSet [a.scriptName] b.scriptName
  animProgress := firstSet [a.animProgress] b.animProgress
  state := firstSet [a.state] b.state
  rotation := firstSet [a.rotation] b.rotation
  phaseMask := firstSet [a.phaseMask] b.phaseMask
  spawnMask := firstSet [a.spawnMask] b.spawnMask

theorem CreaturePatch.value_merge (a b : CreaturePatch) (name : AttributeName) :
    (a.merge b).value name = overlay (a.value name) (b.value name) := by
  cases name with
  | modelId | currentWaypoint | curHealth | curMana | npcFlag | unitFlags | dynamicFlags
  | phaseMask | spawnTimeMin | spawnTimeMax | corpseTimeLooted | corpseTimeUnlooted =>
      exact overlay_firstSet .word (fun _ => rfl) _ _
  | equipmentId | movementType | spawnMask => exact overlay_firstSet .byte (fun _ => rfl) _ _
  | spawnDist => exact overlay_firstSet .single (fun _ => rfl) _ _
  | aiName | scriptName => exact overlay_firstSet .text (fun _ => rfl) _ _
  | animProgress | state | rotation => rfl

theorem GameObjectPatch.value_merge (a b : GameObjectPatch) (name : AttributeName) :
    (a.merge b).value name = overlay (a.value name) (b.value name) := by
  cases name with
  | phaseMask | spawnTimeMin | spawnTimeMax => exact overlay_firstSet .word (fun _ => rfl) _ _
  | animProgress | state | spawnMask => exact overlay_firstSet .byte (fun _ => rfl) _ _
  | aiName | scriptName => exact overlay_firstSet .text (fun _ => rfl) _ _
  | rotation => exact overlay_firstSet .rotation (fun _ => rfl) _ _
  | _ => rfl

theorem CreaturePatch.merge_assoc (a b c : CreaturePatch) :
    (a.merge b).merge c = a.merge (b.merge c) :=
  ext_value (fun _ => by simp only [value_merge, overlay_assoc])

theorem GameObjectPatch.merge_assoc (a b c : GameObjectPatch) :
    (a.merge b).merge c = a.merge (b.merge c) :=
  ext_value (fun _ => by simp only [value_merge, overlay_assoc])

namespace Patch

/-- The patch of a kind that leaves every field alone. -/
def blank : SpawnKind → Patch
  | .creature => .creature default
  | .gameObject => .gameObject default

/-- One patch over another of its kind. No patch of the other kind fits below it. -/
def merge : Patch → Patch → Patch
  | .creature a, .creature b => .creature (a.merge b)
  | .gameObject a, .gameObject b => .gameObject (a.merge b)
  | a, _ => a

theorem kind_blank (kind : SpawnKind) : (blank kind).kind = kind := by
  cases kind <;> rfl

theorem kind_merge (a b : Patch) : (a.merge b).kind = a.kind := by
  cases a <;> cases b <;> rfl

theorem value_merge {a b : Patch} (h : a.kind = b.kind) (name : AttributeName) :
    (a.merge b).value name = overlay (a.value name) (b.value name) := by
  cases a with
  | creature a =>
      cases b with
      | creature b => exact a.value_merge b name
      | gameObject b => cases h
  | gameObject a =>
      cases b with
      | creature b => cases h
      | gameObject b => exact a.value_merge b name

theorem blank_unset (kind : SpawnKind) (name : AttributeName) :
    ((blank kind).value name).any Datum.isSet = false := by
  cases kind <;> cases name <;> decide

end Patch

/-! ## Resolving name by name -/

/-- Where a patch may come from. -/
inductive Layer where
  | pair
  | item
  | point
deriving DecidableEq

/-- A candidate at a point, with the patches of pairs. -/
structure Placement where
  patches : PairPatches
  point : SpawnPoint
  candidate : Candidate

namespace Placement

variable (x : Placement) (t : Template)

def kind : SpawnKind := x.candidate.kind

def resolve : Attributes := x.patches.resolve x.point x.candidate t

/-- The patch of a layer that is of the candidate's kind and meant for it. -/
def patch? : Layer → Option Patch :=
  match x.candidate.data with
  | .creature _ item => fun
    | .pair => (x.patches.creatures.get? (x.point.id, x.candidate.entry)).map .creature
    | .item => item.map .creature
    | .point => x.point.creaturePatch.map .creature
  | .gameObject _ item => fun
    | .pair => (x.patches.gameObjects.get? (x.point.id, x.candidate.entry)).map .gameObject
    | .item => item.map .gameObject
    | .point => x.point.gameObjectPatch.map .gameObject

/-- The value that a layer has for a name. -/
def layer (l : Layer) (name : AttributeName) : Option Datum :=
  (x.patch? l).bind (fun p => p.value name)

/-- The value below all patches. -/
def base (name : AttributeName) : Option Datum :=
  (x.candidate.data.value name).or ((x.point.value x.kind name).or
    ((t.value x.kind name).or (emptyName name)))

theorem kind_resolve : (x.resolve t).kind = x.kind := by
  obtain ⟨patches, point, ⟨pool, entry, chance, data⟩⟩ := x
  cases data <;> rfl

/-- A name has the first value that is set among the three layers, or the one below them. -/
theorem value_resolve (name : AttributeName) : (x.resolve t).value name =
    overlay (x.layer .pair name) (overlay (x.layer .item name)
      (overlay (x.layer .point name) (x.base t name))) := by
  obtain ⟨patches, point, ⟨pool, entry, chance, data⟩⟩ := x
  cases data with
  | creature defaults item =>
      simp only [layer, patch?, Option.bind_map]
      cases name with
      | modelId | currentWaypoint | curHealth | curMana | npcFlag | unitFlags | dynamicFlags
      | phaseMask | spawnTimeMin | spawnTimeMax | corpseTimeLooted | corpseTimeUnlooted =>
          exact firstSet_overlay .word .word (fun _ => rfl) (fun _ _ => rfl) _ [_, _, _] _
      | equipmentId | movementType | spawnMask =>
          exact firstSet_overlay .byte .byte (fun _ => rfl) (fun _ _ => rfl) _ [_, _, _] _
      | spawnDist =>
          exact firstSet_overlay .single .single (fun _ => rfl) (fun _ _ => rfl) _ [_, _, _] _
      | aiName | scriptName =>
          exact firstSet_overlay .text .text (fun _ => rfl) (fun _ _ => rfl) _ [_, _, _] _
      | animProgress | state | rotation => exact (foldr_overlay_absent [_, _, _] none).symm
  | gameObject defaults item =>
      simp only [layer, patch?, Option.bind_map]
      cases name with
      | phaseMask | spawnTimeMin | spawnTimeMax =>
          exact firstSet_overlay .word .word (fun _ => rfl) (fun _ _ => rfl) _ [_, _, _] _
      | animProgress | state | spawnMask =>
          exact firstSet_overlay .byte .byte (fun _ => rfl) (fun _ _ => rfl) _ [_, _, _] _
      | aiName | scriptName =>
          exact firstSet_overlay .text .text (fun _ => rfl) (fun _ _ => rfl) _ [_, _, _] _
      | rotation =>
          -- a rotation that is set is kept as it is, and only the point's may be replaced
          exact firstSet_overlay .rotation (fun r => .rotation (some (r.getD .identity)))
            (fun _ => rfl) (fun r hr => by cases r with | none => cases hr | some _ => rfl) _
            [_, _, _] _
      | _ => exact (foldr_overlay_absent [_, _, _] _).symm

/-- Placements of one kind with the same layers and the same base resolve to the same. -/
theorem resolve_congr {x y : Placement} {t u : Template} (hkind : x.kind = y.kind)
    (hlayers : ∀ l name, x.layer l name = y.layer l name)
    (hbase : ∀ name, x.base t name = y.base u name) : x.resolve t = y.resolve u := by
  refine Attributes.ext_value ?_ (fun name => ?_)
  · rw [kind_resolve, kind_resolve, hkind]
  · rw [value_resolve, value_resolve, hlayers, hlayers, hlayers, hbase]

/-! ## Changes of a placement -/

/-- A placement with the patch of one layer replaced. A candidate takes no patch of the other
kind. -/
def set : Layer → Patch → Placement
  | .pair, p => { x with patches := x.patches.insert x.point.id x.candidate.entry p }
  | .item, p => { x with candidate := (x.candidate.patched? p).getD x.candidate }
  | .point, p => { x with point := x.point.patched p }

theorem kind_set (l : Layer) (p : Patch) : (x.set l p).kind = x.kind := by
  obtain ⟨patches, point, ⟨pool, entry, chance, data⟩⟩ := x
  cases l <;> cases p <;> cases data <;> rfl

theorem base_set (l : Layer) (p : Patch) (name : AttributeName) :
    (x.set l p).base t name = x.base t name := by
  obtain ⟨patches, point, ⟨pool, entry, chance, data⟩⟩ := x
  cases l <;> cases p <;> cases data <;> rfl

theorem patch?_set {p : Patch} (h : p.kind = x.kind) (l other : Layer) :
    (x.set l p).patch? other = if other = l then some p else x.patch? other := by
  obtain ⟨patches, point, ⟨pool, entry, chance, data⟩⟩ := x
  cases p <;> cases data <;> cases h <;> cases l <;> cases other <;>
    simp [set, patch?, Candidate.patched?, SpawnPoint.patched, PairPatches.insert]

/-- A patch of the other kind is not seen. -/
theorem patch?_set_of_ne {p : Patch} (h : p.kind ≠ x.kind) (l other : Layer) :
    (x.set l p).patch? other = x.patch? other := by
  obtain ⟨patches, point, ⟨pool, entry, chance, data⟩⟩ := x
  cases p <;> cases data <;> first | exact absurd rfl h | (cases l <;> cases other <;> rfl)

theorem layer_set {p : Patch} (h : p.kind = x.kind) (l other : Layer) (name : AttributeName) :
    (x.set l p).layer other name = if other = l then p.value name else x.layer other name := by
  rw [layer, layer, x.patch?_set h]
  split <;> rfl

/-- What is said of the values that a patch has over others is said of the patch. -/
theorem resolve_set_congr {p q : Patch} (hp : p.kind = x.kind) (hq : q.kind = x.kind)
    (h : ∀ name lower, overlay (p.value name) lower = overlay (q.value name) lower) (l : Layer) :
    (x.set l p).resolve t = (x.set l q).resolve t := by
  refine Attributes.ext_value ?_ (fun name => ?_)
  · rw [kind_resolve, kind_resolve, kind_set, kind_set]
  · rw [value_resolve, value_resolve, base_set, base_set]
    simp only [x.layer_set hp, x.layer_set hq]
    cases l <;> simp only [reduceCtorEq, if_true, if_false, h]

/-! ## One patch for all layers -/

/-- The patch of a layer, or an empty one. -/
def patch (l : Layer) : Patch := (x.patch? l).getD (.blank x.kind)

/-- The three layers as one patch. -/
def merged : Patch := (x.patch .pair).merge ((x.patch .item).merge (x.patch .point))

/-- The placement with its layers merged into a patch of the pair, and with no other patch. -/
def collapsed : Placement where
  patches := PairPatches.empty.insert x.point.id x.candidate.entry x.merged
  point := { x.point with creaturePatch := none, gameObjectPatch := none }
  candidate := x.candidate.unpatched

theorem kind_of_patch? {l : Layer} {p : Patch} (h : x.patch? l = some p) : p.kind = x.kind := by
  obtain ⟨patches, point, ⟨pool, entry, chance, data⟩⟩ := x
  cases data <;> cases l <;> (obtain ⟨_, -, rfl⟩ := Option.map_eq_some_iff.mp h; rfl)

theorem kind_patch (l : Layer) : (x.patch l).kind = x.kind := by
  rw [patch]
  cases h : x.patch? l with
  | some p => exact x.kind_of_patch? h
  | none => exact Patch.kind_blank x.kind

theorem overlay_patch (l : Layer) (name : AttributeName) (lower : Option Datum) :
    overlay ((x.patch l).value name) lower = overlay (x.layer l name) lower := by
  rw [patch, layer]
  cases x.patch? l with
  | some p => rfl
  | none => exact overlay_of_unset (Patch.blank_unset x.kind name) lower

theorem patch?_collapsed (l : Layer) :
    x.collapsed.patch? l = if l = .pair then some x.merged else none := by
  have hkind : x.merged.kind = x.kind := by rw [merged, Patch.kind_merge, kind_patch]
  unfold collapsed
  generalize x.merged = m at hkind
  obtain ⟨patches, point, ⟨pool, entry, chance, data⟩⟩ := x
  cases m <;> cases data <;> cases hkind <;> cases l <;>
    simp [patch?, Candidate.unpatched, PairPatches.insert]

theorem value_merged (name : AttributeName) : x.merged.value name =
    overlay ((x.patch .pair).value name)
      (overlay ((x.patch .item).value name) ((x.patch .point).value name)) := by
  rw [merged, Patch.value_merge, Patch.value_merge]
  · rw [kind_patch, kind_patch]
  · rw [Patch.kind_merge, kind_patch, kind_patch]

theorem resolve_collapsed : x.resolve t = x.collapsed.resolve t := by
  have hkind : x.kind = x.collapsed.kind := by
    obtain ⟨patches, point, ⟨pool, entry, chance, data⟩⟩ := x
    cases data <;> rfl
  have hbase : ∀ name, x.collapsed.base t name = x.base t name := by
    obtain ⟨patches, point, ⟨pool, entry, chance, data⟩⟩ := x
    intro name
    cases data <;> rfl
  have hpair : ∀ name, x.collapsed.layer .pair name = x.merged.value name := fun name => by
    rw [layer, patch?_collapsed]
    rfl
  have hrest : ∀ l name, l ≠ .pair → x.collapsed.layer l name = none := fun l name hl => by
    rw [layer, patch?_collapsed, if_neg hl]
    rfl
  refine Attributes.ext_value ?_ (fun name => ?_)
  · rw [kind_resolve, kind_resolve, hkind]
  · rw [value_resolve, value_resolve, hpair, hrest _ _ (by decide), hrest _ _ (by decide), hbase,
      value_merged, overlay_assoc, overlay_assoc, overlay_patch, overlay_patch, overlay_patch]
    rfl

/-! ## One name at a time -/

/-- Two records have the same values, but for one name. -/
def AgreeBut (name : AttributeName) (v w : AttributeName → Option Datum) : Prop :=
  ∀ other, other ≠ name → v other = w other

/-- Attributes are resolved field by field, as an overlay of three layers over a base. -/
structure Overlaid : Prop where
  /-- The layers come to a single patch of the pair, empty ones standing for those missing. -/
  collapsed : x.resolve t = x.collapsed.resolve t
  /-- An empty patch over or under another one makes no difference. -/
  blank_over : ∀ l p, p.kind = x.kind →
    (x.set l ((Patch.blank x.kind).merge p)).resolve t = (x.set l p).resolve t
  blank_under : ∀ l p, p.kind = x.kind →
    (x.set l (p.merge (.blank x.kind))).resolve t = (x.set l p).resolve t
  /-- A field of a patch, of the defaults or of the template feeds no other attribute. -/
  patches : ∀ l name p q, q.kind = p.kind → AgreeBut name p.value q.value →
    AgreeBut name ((x.set l p).resolve t).value ((x.set l q).resolve t).value
  creatureDefaults : ∀ name d e item, x.candidate.data = .creature d item →
    AgreeBut name d.value e.value → AgreeBut name (x.resolve t).value
      (resolve { x with candidate := { x.candidate with data := .creature e item } } t).value
  gameObjectDefaults : ∀ name d e item, x.candidate.data = .gameObject d item →
    AgreeBut name d.value e.value → AgreeBut name (x.resolve t).value
      (resolve { x with candidate := { x.candidate with data := .gameObject e item } } t).value
  template : ∀ name u, AgreeBut name (t.value x.kind) (u.value x.kind) →
    AgreeBut name (x.resolve t).value (x.resolve u).value
  rotation : ∀ r, AgreeBut .rotation (x.resolve t).value
    (resolve { x with point := { x.point with rotation := r } } t).value
  /-- Patches of the other kind, of another point or of another entry are not seen. -/
  otherKind : ∀ l p, p.kind ≠ x.kind → (x.set l p).resolve t = x.resolve t
  otherPair : ∀ point entry p, (point, entry) ≠ (x.point.id, x.candidate.entry) →
    resolve { x with patches := x.patches.insert point entry p } t = x.resolve t

theorem resolve_set_of_ne {p : Patch} (h : p.kind ≠ x.kind) (l : Layer) :
    (x.set l p).resolve t = x.resolve t :=
  resolve_congr (x.kind_set l p) (fun other name => by rw [layer, layer, x.patch?_set_of_ne h])
    (x.base_set t l p)

theorem patch?_insert_of_ne {point : PointId} {entry : UInt32}
    (h : (point, entry) ≠ (x.point.id, x.candidate.entry)) (p : Patch) (l : Layer) :
    patch? { x with patches := x.patches.insert point entry p } l = x.patch? l := by
  obtain ⟨patches, at', ⟨pool, entry', chance, data⟩⟩ := x
  cases p <;> cases data <;> cases l <;>
    simp [patch?, PairPatches.insert, Table.get?_insert_of_ne _ _ h.symm]

theorem overlaid : x.Overlaid t where
  collapsed := x.resolve_collapsed t
  blank_over l p hp := by
    have hblank : (Patch.blank x.kind).kind = p.kind := (Patch.kind_blank _).trans hp.symm
    refine x.resolve_set_congr t ((Patch.kind_merge _ _).trans (Patch.kind_blank _)) hp ?_ l
    intro name lower
    rw [Patch.value_merge hblank, overlay_assoc, overlay_of_unset (Patch.blank_unset _ _)]
  blank_under l p hp := by
    have hblank : p.kind = (Patch.blank x.kind).kind := hp.trans (Patch.kind_blank _).symm
    refine x.resolve_set_congr t ((Patch.kind_merge _ _).trans hp) hp ?_ l
    intro name lower
    rw [Patch.value_merge hblank, overlay_assoc, overlay_of_unset (Patch.blank_unset _ _)]
  patches l name p q hkind hagree other hother := by
    by_cases hp : p.kind = x.kind
    · rw [value_resolve, value_resolve, base_set, base_set]
      simp only [x.layer_set hp, x.layer_set (hkind.trans hp), hagree other hother]
    · rw [x.resolve_set_of_ne t hp, x.resolve_set_of_ne t (hkind ▸ hp)]
  creatureDefaults name d e item hdata hagree other hother := by
    obtain ⟨patches, point, ⟨pool, entry, chance, data⟩⟩ := x
    cases hdata
    have hdefaults : d.value other = e.value other := hagree other hother
    rw [value_resolve, value_resolve, base, base]
    simp only [CandidateData.value, hdefaults]
    rfl
  gameObjectDefaults name d e item hdata hagree other hother := by
    obtain ⟨patches, point, ⟨pool, entry, chance, data⟩⟩ := x
    cases hdata
    have hdefaults : d.value other = e.value other := hagree other hother
    rw [value_resolve, value_resolve, base, base]
    simp only [CandidateData.value, hdefaults]
    rfl
  template name u hagree other hother := by
    rw [value_resolve, value_resolve, base, base, hagree other hother]
  rotation r other hother := by
    have hpoint : x.point.value x.kind other =
        SpawnPoint.value { x.point with rotation := r } x.kind other := by
      cases x.kind <;> cases other <;> first | rfl | exact absurd rfl hother
    rw [value_resolve, value_resolve, base, base, hpoint]
    rfl
  otherKind l p hp := x.resolve_set_of_ne t hp l
  otherPair point entry p hother :=
    resolve_congr rfl (fun l name => by rw [layer, layer, x.patch?_insert_of_ne hother])
      (fun _ => rfl)

end Placement

/-- Each attribute of a placement has the first value that is set among those of the pair, of the
candidate and of the point, or the base below them. Every placement is resolved as an overlay, and
merging patches is associative. -/
theorem resolve_overlaid :
    (∀ (x : Placement) (t : Template), (x.resolve t).kind = x.kind ∧
      ∀ name, (x.resolve t).value name =
        overlay (x.layer .pair name) (overlay (x.layer .item name)
          (overlay (x.layer .point name) (x.base t name)))) ∧
      (∀ (x : Placement) (t : Template), x.Overlaid t) ∧
      (∀ a b c : CreaturePatch, (a.merge b).merge c = a.merge (b.merge c)) ∧
      ∀ a b c : GameObjectPatch, (a.merge b).merge c = a.merge (b.merge c) :=
  ⟨fun x t => ⟨x.kind_resolve t, x.value_resolve t⟩, Placement.overlaid,
    CreaturePatch.merge_assoc, GameObjectPatch.merge_assoc⟩

end SpawnForest
