import SpawnForest.Binary.Single

/-!
# The value of a decimal numeral

A numeral with a fraction or an exponent is read through double precision:
as many leading digits as fit 64 bits form a whole number, and that number is
multiplied or divided by a power of ten, each step rounding once. A value past
the largest double is refused; one past the largest single rounds to infinity
later. This is a fixed rule of the document format, not the correctly rounded
value of the numeral, so the order of the steps matters.
-/

namespace SpawnForest.Binary

/-- Appends digits to a whole number while the result fits 64 bits. The second
component counts the digits left over. -/
def keepDigits : List Nat → Nat → Nat × Nat
  | [], kept => (kept, 0)
  | d :: rest, kept =>
    if kept * 10 + d < 0x10000000000000000 then keepDigits rest (kept * 10 + d)
    else (kept, rest.length + 1)

/-- The leading digits of `whole.fraction` as a whole number, and the power of ten they count. -/
def leadingDigits (whole fraction : List Nat) : Nat × Int :=
  let (kept, dropped) := keepDigits whole 0
  let (kept, unused) := keepDigits fraction kept
  (kept, (dropped : Int) - (fraction.length - unused : Nat))

/-- The greatest power of ten that a double holds. -/
def greatestPower : Nat := 308

def powerOfTen (n : Nat) : Nat := double.ofNat (Nat.pow 10 n)

/-- A double times a power of ten, unless that is past the largest double. A
power beyond `greatestPower` is divided out in steps; two of them take any
64-bit number to zero. -/
def timesPowerOfTen : Nat → Nat → Int → Option Nat
  | steps, ordinal, exponent =>
    if exponent.natAbs ≤ greatestPower then
      if 0 ≤ exponent then
        let product := double.product ordinal (powerOfTen exponent.natAbs)
        if product < double.infinity then some product else none
      else some (double.quotient ordinal (powerOfTen exponent.natAbs))
    else if ordinal = 0 then some 0
    else if 0 ≤ exponent then none
    else
      match steps with
      | 0 => some 0
      | steps + 1 =>
        timesPowerOfTen steps (double.quotient ordinal (powerOfTen greatestPower))
          (exponent + greatestPower)

/-- The double read from a decimal numeral, by its ordinal. -/
def ofScientific (whole fraction : List Nat) (exponent : Int) : Option Nat :=
  let (kept, power) := leadingDigits whole fraction
  timesPowerOfTen 2 (double.ofNat kept) (power + exponent)

end SpawnForest.Binary
