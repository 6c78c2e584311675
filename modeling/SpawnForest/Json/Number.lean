import SpawnForest.Binary.Shortest
import SpawnForest.Json.Value

/-!
# Single-precision numbers in documents

A finite number is written with its shortest digits and always as a fraction,
so that it is not taken for a whole number: `1.0`, `33.3333`, `1e16`. What is
neither very large nor very small has no exponent. Infinite and undefined
numbers have no numeral, and `null` stands in for them.
-/

namespace SpawnForest

namespace Binary.Decimal

/-- The most digits before the point of a numeral without exponent. -/
def longestWhole : Int := 13

/-- One more than the most zeros after the point of a numeral without exponent. -/
def longestZeros : Int := 6

def numeral (d : Decimal) (negative : Bool) : JsonNumeral :=
  let digits := (Nat.toDigits 10 d.digits).map (fun c => c.toNat - '0'.toNat)
  /- The digits before the point. -/
  let before : Int := digits.length + d.exponent
  if before ≤ longestWhole && -longestZeros < before then
    if 0 ≤ d.exponent then ⟨negative, d.digits * Nat.pow 10 d.exponent.toNat, [0], none⟩
    else
      { negative := negative
        whole := d.digits / Nat.pow 10 (-d.exponent).toNat
        fraction := List.replicate (-before).toNat 0 ++ digits.drop before.toNat
        exponent := none }
  else
    { negative := negative
      whole := digits.headD 0
      fraction := digits.tail
      exponent := some (before - 1) }

end Binary.Decimal

namespace Single

def numeral (x : Single) : JsonNumeral :=
  if x.isZero then ⟨x.negative, 0, [0], none⟩
  else (Binary.single.shortest x.ordinal).numeral x.negative

def toJson (x : Single) : Json := if x.isFinite then .number x.numeral else .null

end Single

end SpawnForest
