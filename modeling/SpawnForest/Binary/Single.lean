import SpawnForest.Binary.Format

/-!
# Single-precision numbers

A `Single` is its bit pattern. Arithmetic takes the operands as exact
fractions, computes exactly and rounds once, which is what the standard for
floating-point arithmetic asks of every basic operation; signs of zero,
infinities and the undefined results are settled beforehand.

Equality of the type is equality of bit patterns. The comparisons `lt` and `le`
are those of numbers: the two zeros are equal, and nothing compares with an
undefined result.
-/

namespace SpawnForest

/-- A single-precision number, by its bit pattern. -/
structure Single where
  bits : UInt32
deriving DecidableEq

namespace Single

open Binary (Format single)

def ofOrdinal (negative : Bool) (ordinal : Nat) : Single :=
  ⟨UInt32.ofNat ((if negative then 0x80000000 else 0) + ordinal)⟩

/-- Whether the sign bit is set, as it is for the negative zero. -/
def negative (x : Single) : Bool := decide (0x80000000 ≤ x.bits.toNat)

/-- The place of the absolute value in the format's ascending order. -/
def ordinal (x : Single) : Nat := x.bits.toNat % 0x80000000

def zero : Single := ⟨0⟩

instance : Inhabited Single := ⟨zero⟩

/-- The result of an operation that has none. -/
def undefined : Single := ⟨0x7fc00000⟩

def infinity (negative : Bool) : Single := ofOrdinal negative single.infinity

def isUndefined (x : Single) : Bool := decide (single.infinity < x.ordinal)

def isInfinite (x : Single) : Bool := x.ordinal == single.infinity

def isFinite (x : Single) : Bool := decide (x.ordinal < single.infinity)

def ofInt (n : Int) : Single := ofOrdinal (decide (n < 0)) (single.ofNat n.natAbs)

def ofNat (n : Nat) : Single := ofOrdinal false (single.ofNat n)

def one : Single := ofNat 1

/-- Either of the two zeros. -/
def isZero (x : Single) : Bool := x.ordinal == 0

/-! ## Order -/

/-- The place of the number among all numbers, the two zeros sharing one. -/
def position (x : Single) : Int := if x.negative then -(x.ordinal : Int) else x.ordinal

def le (x y : Single) : Bool :=
  !x.isUndefined && !y.isUndefined && decide (x.position ≤ y.position)

def lt (x y : Single) : Bool :=
  !x.isUndefined && !y.isUndefined && decide (x.position < y.position)

/-- The larger of two numbers; an undefined one yields to the other. -/
def max (x y : Single) : Single :=
  if x.isUndefined then y
  else if y.isUndefined then x
  else if x.lt y then y else x

/-! ## Arithmetic -/

def neg (x : Single) : Single := ofOrdinal (!x.negative) x.ordinal

/-- The finite number as a multiple of two to the second component. -/
def exact (x : Single) : Int × Int :=
  let (m, e) := single.parts x.ordinal
  (if x.negative then -(m : Int) else m, e)

/-- Rounds `m * 2 ^ e`, where zero gets the sign given. -/
def ofExact (zeroNegative : Bool) (m e : Int) : Single :=
  if m = 0 then ofOrdinal zeroNegative 0
  else
    let (n, d) := Binary.scale m.natAbs e
    ofOrdinal (decide (m < 0)) (single.round n d)

def add (x y : Single) : Single :=
  if x.isUndefined || y.isUndefined then undefined
  else if x.isInfinite then
    if y.isInfinite && x.negative != y.negative then undefined else x
  else if y.isInfinite then y
  else
    let (xm, xe) := x.exact
    let (ym, ye) := y.exact
    let e := min xe ye
    let total := xm * Nat.pow 2 (xe - e).toNat + ym * Nat.pow 2 (ye - e).toNat
    ofExact (x.negative && y.negative) total e

def sub (x y : Single) : Single := x.add y.neg

def mul (x y : Single) : Single :=
  let sign := x.negative != y.negative
  if x.isUndefined || y.isUndefined then undefined
  else if x.isInfinite || y.isInfinite then
    if x.isZero || y.isZero then undefined else infinity sign
  else ofOrdinal sign (single.product x.ordinal y.ordinal)

def div (x y : Single) : Single :=
  let sign := x.negative != y.negative
  if x.isUndefined || y.isUndefined then undefined
  else if x.isInfinite then
    if y.isInfinite then undefined else infinity sign
  else if y.isInfinite then ofOrdinal sign 0
  else if y.isZero then
    if x.isZero then undefined else infinity sign
  else ofOrdinal sign (single.quotient x.ordinal y.ordinal)

instance : Neg Single := ⟨neg⟩
instance : Add Single := ⟨add⟩
instance : Sub Single := ⟨sub⟩
instance : Mul Single := ⟨mul⟩
instance : Div Single := ⟨div⟩

/-- The whole part, kept between zero and `top`; zero if undefined. -/
def wholeUpTo (top : Nat) (x : Single) : Nat :=
  if x.isUndefined || x.negative then 0
  else if x.isInfinite then top
  else
    let (n, d) := single.fraction x.ordinal
    min top (n / d)

end Single

end SpawnForest
