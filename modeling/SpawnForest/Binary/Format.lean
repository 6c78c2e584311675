/-!
# Binary floating-point formats

Weights, positions and distances are single-precision numbers, and numerals in
documents pass through double precision on their way there. Both are the same
construction with other constants: the non-negative members of a format are
counted off in ascending order by an *ordinal*, zero being zero, and the
ordinal of infinity follows that of the largest finite number.

Ordinals are what the bit pattern stores besides the sign, so order on them is
order on values, the next smaller number is one ordinal down, and rounding up
past a power of two, out of the subnormal range or to infinity needs no case
of its own (`Format.round`).
-/

namespace SpawnForest.Binary

structure Format where
  /-- Bits of a full significand. -/
  precision : Nat
  /-- The exponent of the last place of the smallest numbers. -/
  lowestExponent : Int
  infinity : Nat

/-- 32 bits. -/
def single : Format := ⟨24, -149, 255 * 0x800000⟩

/-- 64 bits. -/
def double : Format := ⟨53, -1074, 2047 * 0x10000000000000⟩

/-- A numerator and a denominator for `m * 2 ^ e`. -/
def scale (m : Nat) (e : Int) : Nat × Nat :=
  if 0 ≤ e then (m * Nat.pow 2 e.toNat, 1) else (m, Nat.pow 2 (-e).toNat)

/-- The quotient to the nearest whole number, a half going to the even neighbour. -/
def nearestEven (num den : Nat) : Nat :=
  let quotient := num / den
  let twice := 2 * (num % den)
  if twice < den then quotient
  else if den < twice then quotient + 1
  else quotient + quotient % 2

namespace Format

/-- The finite number of an ordinal, as a significand and the exponent of its last place. -/
def parts (f : Format) (ordinal : Nat) : Nat × Int :=
  let step := Nat.pow 2 (f.precision - 1)
  if ordinal < step then (ordinal, f.lowestExponent)
  else (step + ordinal % step, f.lowestExponent + (ordinal / step - 1 : Nat))

/-- The finite number of an ordinal, as a fraction. -/
def fraction (f : Format) (ordinal : Nat) : Nat × Nat :=
  let (m, e) := f.parts ordinal
  scale m e

/-- The exponent of the leading bit of `num / den`. -/
def leadingExponent (num den : Nat) : Int :=
  let guess : Int := (num.log2 : Int) - den.log2
  let (n, d) := scale num (-guess)
  if den * d ≤ n then guess else guess - 1

/-- The ordinal of the number nearest to `num / den`, ties going to the even
significand, and infinity from half a place above the largest finite number. -/
def round (f : Format) (num den : Nat) : Nat :=
  if num = 0 then 0
  else
    let place := max f.lowestExponent (leadingExponent num den - (f.precision - 1 : Nat))
    let (n, d) := scale num (-place)
    let significand := nearestEven n (den * d)
    min f.infinity ((place - f.lowestExponent).toNat * Nat.pow 2 (f.precision - 1) + significand)

def ofNat (f : Format) (n : Nat) : Nat := f.round n 1

/-- The product of two ordinals, neither of them infinite. -/
def product (f : Format) (a b : Nat) : Nat :=
  let (an, ad) := f.fraction a
  let (bn, bd) := f.fraction b
  f.round (an * bn) (ad * bd)

/-- The quotient of two ordinals, neither of them infinite and the second not zero. -/
def quotient (f : Format) (a b : Nat) : Nat :=
  let (an, ad) := f.fraction a
  let (bn, bd) := f.fraction b
  f.round (an * bd) (ad * bn)

/-- The ordinal that a number of one format rounds to in another. -/
def convert (source target : Format) (ordinal : Nat) : Nat :=
  if source.infinity ≤ ordinal then target.infinity
  else
    let (n, d) := source.fraction ordinal
    target.round n d

end Format

end SpawnForest.Binary
