import SpawnForest.Random.Source

/-!
# The generator of a map

A permuted congruential generator: 128 bits of state advance by a
multiplication and an odd increment, and each output folds the two halves and
rotates the result by the state's highest bits. Equal seeds give equal draws,
so a map replays exactly.
-/

namespace SpawnForest

structure Pcg where
  state : BitVec 128
  increment : BitVec 128
deriving DecidableEq

namespace Pcg

/-! ## Seeding -/

/-- The congruential step that stretches a seed. -/
def stretch (s : UInt64) : UInt64 := s * 6364136223846793005 + 11634580027462260723

/-- The 32 bits that a stretched seed yields. -/
def stretchedWord (s : UInt64) : UInt32 :=
  let x := (((s >>> 18) ^^^ s) >>> 27).toUInt32
  let r := (s >>> 59).toUInt32
  (x >>> r) ||| (x <<< (32 - r))

/-- The next `count` words of a stretched seed, the first one lowest. -/
def seedBits : Nat → UInt64 → Nat
  | 0, _ => 0
  | count + 1, s =>
    let s := stretch s
    (stretchedWord s).toNat + 0x100000000 * seedBits count s

def multiplier : BitVec 128 := 0x2360ED051FC65DA44385DF649FCCF645#128

def step (g : Pcg) : Pcg := { g with state := g.state * multiplier + g.increment }

def ofSeed (seed : UInt64) : Pcg :=
  let bits := seedBits 8 seed
  let increment := BitVec.ofNat 128 (bits / Nat.pow 2 128) ||| 1#128
  step ⟨BitVec.ofNat 128 bits + increment, increment⟩

/-! ## Draws -/

def next64 (g : Pcg) : UInt64 × Pcg :=
  let g := g.step
  let folded := ((g.state >>> 64) ^^^ g.state).setWidth 64
  (UInt64.ofBitVec (folded.rotateRight (g.state >>> 122).toNat), g)

/-- 32 random bits, the lower half of a draw. -/
def next32 (g : Pcg) : UInt32 × Pcg :=
  let (n, g) := g.next64
  (n.toUInt32, g)

/-- Draws until the lower half of `draw * width` is at most `zone`, so that all
values of the upper half are equally likely. After `tries` misses the last draw
stands; it is in range as well. -/
def upperHalf (width zone : Nat) : Nat → Pcg → Nat × Pcg
  | 0, g =>
    let (n, g) := g.next32
    (n.toNat * width / 0x100000000, g)
  | tries + 1, g =>
    let (n, g) := g.next32
    let product := n.toNat * width
    if product % 0x100000000 ≤ zone then (product / 0x100000000, g)
    else upperHalf width zone tries g

/-- A whole number of 32 bits between `lo` and `hi`. -/
def natIn (lo hi : Nat) (g : Pcg) : Nat × Pcg :=
  if hi ≤ lo then (lo, g)
  else
    let width := hi - lo + 1
    if 0x100000000 ≤ width then
      let (n, g) := g.next32
      (n.toNat, g)
    else
      let zone := width * Nat.pow 2 (31 - width.log2) - 1
      let (n, g) := upperHalf width zone 127 g
      (lo + n, g)

/-- The greatest number below one with 23 binary places. -/
def belowOne : Single := .one - Single.ofNat 1 / Single.ofNat 0x800000

/-- The greatest scale not above an ordinal that keeps the draws within `hi`. -/
def fittingScale (lo hi : Single) : Nat → Nat
  | 0 => 0
  | ordinal + 1 =>
    if hi.lt (Single.ofOrdinal false (ordinal + 1) * belowOne + lo) then fittingScale lo hi ordinal
    else ordinal + 1

/-- A single-precision number between `lo` and `hi`, in 2²³ steps. -/
def singleIn (lo hi : Single) (g : Pcg) : Except Fault (Single × Pcg) :=
  if hi.le lo then .ok (lo, g)
  else
    let scale := (hi - lo) / belowOne
    if !(lo.isFinite && hi.isFinite && scale.isFinite) then .error .infiniteRange
    else
      let scale := Single.ofOrdinal false (fittingScale lo hi scale.ordinal)
      let (n, g) := g.next32
      let unit := Single.ofNat (n.toNat / 0x200) / Single.ofNat 0x800000
      .ok (unit * scale + lo, g)

instance : RandomSource Pcg := ⟨natIn, singleIn⟩

end Pcg

end SpawnForest
