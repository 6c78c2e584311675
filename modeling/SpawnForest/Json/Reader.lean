import SpawnForest.Json.Value

/-!
# Reading JSON

The strict grammar: no comments, no trailing commas, no leading zeros, no plus
sign, no raw control characters in texts, and nothing but blanks around the
value. Every function takes the characters ahead and returns what it read with
the rest, so the grammar can be followed rule by rule.

Recursion goes down a bound that every value, item and member lowers by one;
the length of the input is always enough. Beside it runs the number of levels
that may still be opened. An array or object past the last of them has to obey
the grammar like any other, but its content is not kept.
-/

namespace SpawnForest.Json.Reader

/-- The four blanks of the format. -/
def isSpace (c : Char) : Bool := c = ' ' || c = '\n' || c = '\t' || c = '\r'

def skipSpace (cs : List Char) : List Char := cs.dropWhile isSpace

/-! ## Numerals -/

def digitValue (c : Char) : Nat := c.toNat - '0'.toNat

def digits? (cs : List Char) : Option (List Char × List Char) :=
  let ds := cs.takeWhile Char.isDigit
  if ds.isEmpty then none else some (ds, cs.dropWhile Char.isDigit)

/-- The digits before the point: a lone zero, or no leading zero. -/
def whole? (cs : List Char) : Option (Nat × List Char) :=
  match digits? cs with
  | none => none
  | some (ds, rest) =>
    if ds.head? = some '0' && ds.length ≠ 1 then none
    else some (Nat.ofDigitChars 10 ds 0, rest)

/-- The digits after the point, or none if there is no point. -/
def fraction? : List Char → Option (List Nat × List Char)
  | '.' :: rest => (digits? rest).map (fun (ds, rest) => (ds.map digitValue, rest))
  | rest => some ([], rest)

def signedDigits? : List Char → Option (Int × List Char)
  | '-' :: rest => (digits? rest).map (fun (ds, rest) => (-(Nat.ofDigitChars 10 ds 0 : Int), rest))
  | '+' :: rest => (digits? rest).map (fun (ds, rest) => ((Nat.ofDigitChars 10 ds 0 : Int), rest))
  | rest => (digits? rest).map (fun (ds, rest) => ((Nat.ofDigitChars 10 ds 0 : Int), rest))

def exponent? : List Char → Option (Option Int × List Char)
  | 'e' :: rest => (signedDigits? rest).map (fun (n, rest) => (some n, rest))
  | 'E' :: rest => (signedDigits? rest).map (fun (n, rest) => (some n, rest))
  | rest => some (none, rest)

def unsigned? (negative : Bool) (cs : List Char) : Option (JsonNumeral × List Char) := do
  let (whole, cs) ← whole? cs
  let (fraction, cs) ← fraction? cs
  let (exponent, cs) ← exponent? cs
  return (⟨negative, whole, fraction, exponent⟩, cs)

def numeral? : List Char → Option (JsonNumeral × List Char)
  | '-' :: rest => unsigned? true rest
  | rest => unsigned? false rest

/-! ## Texts -/

/-- What stands between the quotes: characters, and escaped 16-bit units. -/
inductive Piece where
  | char (c : Char)
  | unit (n : Nat)

def hexDigit? (c : Char) : Option Nat :=
  if c.isDigit then some (c.toNat - '0'.toNat)
  else if 'a' ≤ c && c ≤ 'f' then some (c.toNat - 'a'.toNat + 10)
  else if 'A' ≤ c && c ≤ 'F' then some (c.toNat - 'A'.toNat + 10)
  else none

def unit? (a b c d : Char) : Option Nat := do
  let a ← hexDigit? a
  let b ← hexDigit? b
  let c ← hexDigit? c
  let d ← hexDigit? d
  return ((a * 16 + b) * 16 + c) * 16 + d

def simpleEscape? : Char → Option Char
  | '"' => some '"'
  | '\\' => some '\\'
  | '/' => some '/'
  | 'b' => some '\x08'
  | 'f' => some '\x0c'
  | 'n' => some '\n'
  | 'r' => some '\r'
  | 't' => some '\t'
  | _ => none

/-- The pieces up to the closing quote. -/
def pieces? : List Char → Option (List Piece × List Char)
  | [] => none
  | '"' :: rest => some ([], rest)
  | '\\' :: 'u' :: a :: b :: c :: d :: rest =>
    match unit? a b c d, pieces? rest with
    | some n, some (ps, rest) => some (.unit n :: ps, rest)
    | _, _ => none
  | '\\' :: e :: rest =>
    match simpleEscape? e, pieces? rest with
    | some c, some (ps, rest) => some (.char c :: ps, rest)
    | _, _ => none
  | c :: rest =>
    if c.toNat < 0x20 || c = '\\' then none
    else (pieces? rest).map (fun (ps, rest) => (.char c :: ps, rest))

def isHigh (n : Nat) : Bool := 0xd800 ≤ n && n < 0xdc00

def isLow (n : Nat) : Bool := 0xdc00 ≤ n && n < 0xe000

/-- The characters of the pieces; none if a surrogate stands without its partner. -/
def assemble : List Piece → Option (List Char)
  | [] => some []
  | .char c :: rest => (assemble rest).map (c :: ·)
  | .unit high :: .unit low :: rest =>
    if isHigh high && isLow low then
      (assemble rest).map (Char.ofNat (0x10000 + (high - 0xd800) * 0x400 + (low - 0xdc00)) :: ·)
    else if isHigh high || isLow high then none
    else (assemble (.unit low :: rest)).map (Char.ofNat high :: ·)
  | .unit n :: rest =>
    if isHigh n || isLow n then none
    else (assemble rest).map (Char.ofNat n :: ·)

/-- A text whose opening quote has been read. -/
def text? (cs : List Char) : Option (Option String × List Char) :=
  (pieces? cs).map (fun (ps, rest) => ((assemble ps).map String.ofList, rest))

/-! ## Values -/

/-- The levels of arrays and objects that a reader follows. -/
def deepestLevel : Nat := 127

/-- A closed array or object, where so many levels might have been opened. -/
def enclosed : Nat → Json → Json
  | 0, _ => .buried
  | _ + 1, value => value

mutual

/-- One value, blanks before it skipped. -/
def value? : Nat → Nat → List Char → Option (Json × List Char)
  | 0, _, _ => none
  | bound + 1, levels, cs =>
    match skipSpace cs with
    | 'n' :: 'u' :: 'l' :: 'l' :: rest => some (.null, rest)
    | 't' :: 'r' :: 'u' :: 'e' :: rest => some (.bool true, rest)
    | 'f' :: 'a' :: 'l' :: 's' :: 'e' :: rest => some (.bool false, rest)
    | '"' :: rest => (text? rest).map (fun (s, rest) => (.text s, rest))
    | '[' :: rest =>
      match skipSpace rest with
      | ']' :: rest => some (enclosed levels (.list []), rest)
      | rest =>
        match value? bound (levels - 1) rest with
        | none => none
        | some (first, rest) =>
          (items? bound (levels - 1) rest).map (fun (more, rest) =>
            (enclosed levels (.list (first :: more)), rest))
    | '\x7b' :: rest =>
      match skipSpace rest with
      | '\x7d' :: rest => some (enclosed levels (.object []), rest)
      | rest =>
        match member? bound (levels - 1) rest with
        | none => none
        | some (first, rest) =>
          (members? bound (levels - 1) rest).map (fun (more, rest) =>
            (enclosed levels (.object (first :: more)), rest))
    | rest => (numeral? rest).map (fun (n, rest) => (.number n, rest))

/-- The items after the first one, up to the closing bracket. -/
def items? : Nat → Nat → List Char → Option (List Json × List Char)
  | 0, _, _ => none
  | bound + 1, levels, cs =>
    match skipSpace cs with
    | ']' :: rest => some ([], rest)
    | ',' :: rest =>
      match value? bound levels rest with
      | none => none
      | some (item, rest) =>
        (items? bound levels rest).map (fun (more, rest) => (item :: more, rest))
    | _ => none

def member? : Nat → Nat → List Char → Option ((Option String × Json) × List Char)
  | 0, _, _ => none
  | bound + 1, levels, cs =>
    match skipSpace cs with
    | '"' :: rest =>
      match text? rest with
      | none => none
      | some (key, rest) =>
        match skipSpace rest with
        | ':' :: rest =>
          (value? bound levels rest).map (fun (value, rest) => ((key, value), rest))
        | _ => none
    | _ => none

/-- The members after the first one, up to the closing brace. -/
def members? : Nat → Nat → List Char → Option (List (Option String × Json) × List Char)
  | 0, _, _ => none
  | bound + 1, levels, cs =>
    match skipSpace cs with
    | '\x7d' :: rest => some ([], rest)
    | ',' :: rest =>
      match member? bound levels rest with
      | none => none
      | some (first, rest) =>
        (members? bound levels rest).map (fun (more, rest) => (first :: more, rest))
    | _ => none

end

end SpawnForest.Json.Reader

namespace SpawnForest.Json

def ofText? (s : String) : Option Json :=
  match Reader.value? (s.length + 1) Reader.deepestLevel s.toList with
  | some (value, rest) => if (Reader.skipSpace rest).isEmpty then some value else none
  | none => none

end SpawnForest.Json
