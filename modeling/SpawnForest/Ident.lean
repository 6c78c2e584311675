import SpawnForest.Text.Numeral

/-!
# Identifiers and game time

Pools, spawn points, maps, grids and zones are numbered apart from each
other. One type `Id`, indexed by the realm it counts in, keeps a pool from
being passed where a spawn point is meant, and every table of the library
needs only one ordering for all of them.

Game time is a 64-bit count of seconds. It saturates at both ends: adding
stops at the last second there is, and the time since a later moment is zero.
-/

namespace SpawnForest

/-! ## Numbered things -/

inductive Realm where
  | pool
  | point
  | map
  | grid
  | zone
deriving DecidableEq

/-- The word written before the number. -/
def Realm.label : Realm → String
  | .pool => "pool"
  | .point => "point"
  | .map => "map"
  | .grid => "grid"
  | .zone => "zone"

/-- The name of the identifier's type, as diagnostics spell it. -/
def Realm.typeName : Realm → String
  | .pool => "PoolId"
  | .point => "PointId"
  | .map => "MapId"
  | .grid => "GridId"
  | .zone => "ZoneId"

structure Id (realm : Realm) where
  number : UInt32
deriving DecidableEq

instance {realm : Realm} : Inhabited (Id realm) := ⟨⟨0⟩⟩

/-- A pool, unique within its map. -/
abbrev PoolId := Id .pool

/-- A spawn point, unique within its map. -/
abbrev PointId := Id .point

abbrev MapId := Id .map

/-- A cell of a map that is loaded and unloaded as one. -/
abbrev GridId := Id .grid

/-- A square of cells whose timers wake up together. -/
abbrev ZoneId := Id .zone

namespace Id

variable {realm : Realm}

/-- `pool#4`. -/
def display (id : Id realm) : String :=
  realm.label ++ "#" ++ Text.decimal id.number.toNat

/-- `PoolId(4)`. -/
def diagnostic (id : Id realm) : String :=
  realm.typeName ++ "(" ++ Text.decimal id.number.toNat ++ ")"

theorem eq_of_toNat_eq {a b : Id realm} (h : a.number.toNat = b.number.toNat) : a = b := by
  cases a; cases b
  simp only [mk.injEq]
  exact UInt32.toNat_inj.mp h

end Id

/-! ## Game time -/

/-- A moment, in whole seconds. -/
structure Timestamp where
  secs : UInt64
deriving DecidableEq

namespace Timestamp

instance : Inhabited Timestamp := ⟨⟨0⟩⟩

/-- The number of seconds. All orderings of moments go through it. -/
def toNat (t : Timestamp) : Nat := t.secs.toNat

instance : LE Timestamp := ⟨fun a b => a.toNat ≤ b.toNat⟩

instance : LT Timestamp := ⟨fun a b => a.toNat < b.toNat⟩

instance (a b : Timestamp) : Decidable (a ≤ b) := inferInstanceAs (Decidable (a.toNat ≤ b.toNat))

instance (a b : Timestamp) : Decidable (a < b) := inferInstanceAs (Decidable (a.toNat < b.toNat))

def last : Nat := 0xffffffffffffffff

/-- The moment `secs` seconds later, at most the last one. -/
def plus (t : Timestamp) (secs : Nat) : Timestamp :=
  ⟨UInt64.ofNat (min (t.toNat + secs) last)⟩

/-- The seconds from `earlier` to `t`, zero if `earlier` lies ahead. -/
def since (t earlier : Timestamp) : Nat := t.toNat - earlier.toNat

/-- `t=4s`. -/
def display (t : Timestamp) : String := "t=" ++ Text.decimal t.toNat ++ "s"

/-- `Timestamp(4)`. -/
def diagnostic (t : Timestamp) : String := "Timestamp(" ++ Text.decimal t.toNat ++ ")"

theorem toNat_inj {a b : Timestamp} : a.toNat = b.toNat ↔ a = b := by
  cases a; cases b
  simp [toNat, UInt64.toNat_inj]

theorem toNat_plus (t : Timestamp) (secs : Nat) :
    (t.plus secs).toNat = min (t.toNat + secs) last := by
  simp only [plus, toNat, last, UInt64.toNat_ofNat']
  omega

end Timestamp

end SpawnForest
