import SpawnForest.Attributes

/-!
# Candidates

A candidate is something a leaf pool may spawn: an entry number, a weight
among the other candidates of its pool, defaults of its kind and at most one
patch of that kind.
-/

namespace SpawnForest

/-- The part of a candidate that depends on its kind. -/
inductive CandidateData where
  | creature (defaults : CreatureDefaults) (patch : Option CreaturePatch)
  | gameObject (defaults : GameObjectDefaults) (patch : Option GameObjectPatch)
deriving DecidableEq

structure Candidate where
  pool : PoolId
  entry : UInt32
  chance : Single
  data : CandidateData
deriving DecidableEq

namespace Candidate

def ofCreature (pool : PoolId) (entry : UInt32) (chance : Single) (defaults : CreatureDefaults) :
    Candidate :=
  ⟨pool, entry, chance, .creature defaults none⟩

def ofGameObject (pool : PoolId) (entry : UInt32) (chance : Single)
    (defaults : GameObjectDefaults) : Candidate :=
  ⟨pool, entry, chance, .gameObject defaults none⟩

def kind (c : Candidate) : SpawnKind :=
  match c.data with
  | .creature _ _ => .creature
  | .gameObject _ _ => .gameObject

def weight (c : Candidate) : Single := c.chance.max .one

/-- The candidate with a patch of its own kind; no patch of the other kind fits. -/
def patched? (c : Candidate) (patch : Patch) : Option Candidate :=
  match c.data, patch with
  | .creature defaults _, .creature p => some { c with data := .creature defaults (some p) }
  | .gameObject defaults _, .gameObject p => some { c with data := .gameObject defaults (some p) }
  | _, _ => none

end Candidate

end SpawnForest
