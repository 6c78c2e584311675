import SpawnForest.Binary.Single

/-!
# The shortest decimal text of a number

A finite number is written with the fewest significant digits that round back
to it, the nearest such digits if there are several, and the larger ones on a
tie. The search walks decimal grids from coarse to fine: on each grid only the
two neighbours of the number can lie in the interval that rounds to it, and
the first grid with a hit has the fewest digits.

The digits are laid out without an exponent: `33.3333`, `10000000000`,
`0.0000001`.
-/

namespace SpawnForest.Binary

/-- `digits * 10 ^ exponent`. -/
structure Decimal where
  digits : Nat
  exponent : Int

/-- A number and the ends of the interval that rounds to it, over one denominator. -/
structure RoundingInterval where
  low : Nat
  value : Nat
  high : Nat
  den : Nat
  /-- Whether the ends round to the number themselves. -/
  closed : Bool

namespace RoundingInterval

/-- The interval of a finite, non-zero ordinal. The gap below a power of two is
half the gap above it. -/
def ofOrdinal (f : Format) (ordinal : Nat) : RoundingInterval :=
  let (m, e) := f.parts ordinal
  let (unit, den) := scale 1 (e - 2)
  let below := if m = Nat.pow 2 (f.precision - 1) && f.lowestExponent < e then 1 else 2
  { low := (4 * m - below) * unit
    value := 4 * m * unit
    high := (4 * m + 2) * unit
    den := den
    closed := m % 2 == 0 }

/-- Whether `n / d` rounds to the number. -/
def holds (i : RoundingInterval) (n d : Nat) : Bool :=
  if i.closed then decide (i.low * d ≤ n * i.den) && decide (n * i.den ≤ i.high * d)
  else decide (i.low * d < n * i.den) && decide (n * i.den < i.high * d)

/-- The better neighbour on the grid of step `10 ^ exponent`, if one is in the interval. -/
def onGrid? (i : RoundingInterval) (exponent : Int) : Option Nat :=
  let (stepNum, stepDen) : Nat × Nat :=
    if 0 ≤ exponent then (Nat.pow 10 exponent.toNat, 1) else (1, Nat.pow 10 (-exponent).toNat)
  let under := i.value * stepDen / (i.den * stepNum)
  let twice := 2 * (i.value * stepDen % (i.den * stepNum))
  let lower := i.holds (under * stepNum) stepDen
  let upper := i.holds ((under + 1) * stepNum) stepDen
  if lower && upper then some (if twice < i.den * stepNum then under else under + 1)
  else if lower then some under
  else if upper then some (under + 1)
  else none

/-- Tries `steps` grids, each ten times finer than the one before. -/
def search (i : RoundingInterval) : Nat → Int → Decimal
  | 0, exponent => ⟨i.value / i.den, exponent⟩
  | steps + 1, exponent =>
    match i.onGrid? exponent with
    | some digits => ⟨digits, exponent⟩
    | none => search i steps (exponent - 1)

end RoundingInterval

/-- The fewest digits that round back to a finite, non-zero ordinal. -/
def Format.shortest (f : Format) (ordinal : Nat) : Decimal :=
  let interval := RoundingInterval.ofOrdinal f ordinal
  let coarsest := (interval.value / interval.den).log2 / 3 + 1
  interval.search (coarsest + 1 + (-f.lowestExponent).toNat) coarsest

/-- Digits and a decimal point where the exponent puts it. -/
def Decimal.layout (d : Decimal) : List Char :=
  let digits := Nat.toDigits 10 d.digits
  let places := (-d.exponent).toNat
  if 0 ≤ d.exponent then digits ++ List.replicate d.exponent.toNat '0'
  else if places < digits.length then
    digits.take (digits.length - places) ++ '.' :: digits.drop (digits.length - places)
  else '0' :: '.' :: List.replicate (places - digits.length) '0' ++ digits

end SpawnForest.Binary

namespace SpawnForest.Single

open Binary (single)

/-- The number as reports print it. -/
def display (x : Single) : String :=
  if x.isUndefined then "NaN"
  else
    let sign := if x.negative then "-" else ""
    if x.isInfinite then sign ++ "inf"
    else if x.isZero then sign ++ "0"
    else sign ++ String.ofList (single.shortest x.ordinal).layout

end SpawnForest.Single
