/-!
# Whole numbers as text

Decimal digits are written without leading zeros and read back by
`readNumeral`, which also takes leading zeros and one plus sign, as command
lines do. Both ends go through the digit lists of the core library
(`Nat.toDigits` and `Nat.ofDigitChars`), whose round trip is a library lemma.
-/

namespace SpawnForest.Text

def decimal (n : Nat) : String := String.ofList (Nat.toDigits 10 n)

/-- A number in lower-case hexadecimal digits after `0x`. -/
def hexadecimal (n : Nat) : String := "0x" ++ String.ofList (Nat.toDigits 16 n)

/-- The value of one or more decimal digits, if it is at most `greatest`. -/
def readDigits (greatest : Nat) (digits : List Char) : Option Nat :=
  if digits.isEmpty || !digits.all Char.isDigit then none
  else
    let n := Nat.ofDigitChars 10 digits 0
    if n ≤ greatest then some n else none

/-- The value of decimal digits after at most one plus sign, if it is at most `greatest`. -/
def readNumeral (greatest : Nat) : List Char → Option Nat
  | '+' :: digits => readDigits greatest digits
  | digits => readDigits greatest digits

end SpawnForest.Text
