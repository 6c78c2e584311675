import SpawnForest.Binary.Scientific

/-!
# JSON values as written

Documents are judged by the form of their tokens: `1` is a whole number, `1.0`
and `-0` are not. A value therefore keeps its numerals as written, and its
objects keep repeated members in order. Three faults are kept inside the value
instead of ending the reading, because only the reader of a record knows
whether the place matters: a numeral past the largest double, a text whose
escapes name half a surrogate pair (`none`), and an array or object below the
deepest level that readers follow (`buried`).
-/

namespace SpawnForest

/-- A number token. The whole part has no leading zeros, so its value is enough. -/
structure JsonNumeral where
  negative : Bool
  whole : Nat
  /-- The digits after the point; none means that there is no point. -/
  fraction : List Nat
  exponent : Option Int
deriving DecidableEq

namespace JsonNumeral

def ofNat (n : Nat) : JsonNumeral := ⟨false, n, [], none⟩

/-- The integer a token stands for: no fraction, no exponent, not `-0`, and
within 64 bits, unsigned if positive and signed if negative. -/
def integer? (n : JsonNumeral) : Option Int :=
  if !n.fraction.isEmpty || n.exponent.isSome then none
  else if n.negative then
    if n.whole = 0 || 0x8000000000000000 < n.whole then none else some (-(n.whole : Int))
  else if n.whole < 0x10000000000000000 then some n.whole
  else none

/-- The double of a token that is not an integer, without its sign. -/
def double? (n : JsonNumeral) : Option Nat :=
  let digits := (Nat.toDigits 10 n.whole).map (fun c => c.toNat - '0'.toNat)
  Binary.ofScientific digits n.fraction (n.exponent.getD 0)

/-- The single-precision number of a token: integers are rounded once, all
others by way of a double. -/
def single? (n : JsonNumeral) : Option Single :=
  match n.integer? with
  | some i => some (Single.ofInt i)
  | none =>
    n.double?.map (fun d => Single.ofOrdinal n.negative (Binary.double.convert Binary.single d))

/-- Whether the token has a value at all. -/
def inRange (n : JsonNumeral) : Bool := n.integer?.isSome || n.double?.isSome

end JsonNumeral

inductive Json where
  | null
  | bool (value : Bool)
  | number (numeral : JsonNumeral)
  | text (value : Option String)
  | list (items : List Json)
  | object (members : List (Option String × Json))
  /-- An array or object that lies too deep to be read. -/
  | buried

namespace Json

instance : Inhabited Json := ⟨null⟩

def ofNat (n : Nat) : Json := number (.ofNat n)

def ofUInt8 (n : UInt8) : Json := ofNat n.toNat

def ofUInt32 (n : UInt32) : Json := ofNat n.toNat

def ofUInt64 (n : UInt64) : Json := ofNat n.toNat

def ofString (s : String) : Json := text (some s)

def record (members : List (String × Json)) : Json :=
  object (members.map (fun m => (some m.1, m.2)))

/-- An array of values that are written the same way. -/
def ofList {α : Type} (f : α → Json) (items : List α) : Json := list (items.map f)

def ofOption {α : Type} (f : α → Json) : Option α → Json
  | none => null
  | some a => f a

end Json

end SpawnForest
