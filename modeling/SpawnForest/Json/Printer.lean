import SpawnForest.Json.Value
import SpawnForest.Text.Numeral

/-!
# Printing JSON

Two forms: `compact` has no blanks at all and is the form that digests are
taken of; `pretty` puts each item and member on a line of its own, two spaces
further in per level, and is the form that is stored. Nothing that is written
is buried; `null` stands in for it.
-/

namespace SpawnForest.Json

def escapeChar (c : Char) : List Char :=
  if c = '"' then ['\\', '"']
  else if c = '\\' then ['\\', '\\']
  else if c = '\n' then ['\\', 'n']
  else if c = '\r' then ['\\', 'r']
  else if c = '\t' then ['\\', 't']
  else if c = '\x08' then ['\\', 'b']
  else if c = '\x0c' then ['\\', 'f']
  else if c.toNat < 0x20 then
    ['\\', 'u', '0', '0', Nat.digitChar (c.toNat / 16), Nat.digitChar (c.toNat % 16)]
  else [c]

def escaped (s : String) : String :=
  String.ofList ('"' :: s.toList.flatMap escapeChar ++ ['"'])

def numeralText (n : JsonNumeral) : String :=
  (if n.negative then "-" else "") ++ Text.decimal n.whole
    ++ (if n.fraction.isEmpty then "" else "." ++ String.ofList (n.fraction.map Nat.digitChar))
    ++ (match n.exponent with
      | none => ""
      | some e => "e" ++ (if e < 0 then "-" else "") ++ Text.decimal e.natAbs)

mutual

def compact : Json → String
  | null => "null"
  | bool value => if value then "true" else "false"
  | number n => numeralText n
  | text s => escaped (s.getD "")
  | list items => "[" ++ compactItems items ++ "]"
  | object members => "\x7b" ++ compactMembers members ++ "\x7d"
  | buried => "null"

def compactItems : List Json → String
  | [] => ""
  | [item] => compact item
  | item :: next :: rest => compact item ++ "," ++ compactItems (next :: rest)

def compactMembers : List (Option String × Json) → String
  | [] => ""
  | [(key, value)] => escaped (key.getD "") ++ ":" ++ compact value
  | (key, value) :: next :: rest =>
    escaped (key.getD "") ++ ":" ++ compact value ++ "," ++ compactMembers (next :: rest)

end

/-- A new line, indented by `level` steps. -/
def newLine (level : Nat) : String := "\n" ++ String.ofList (List.replicate (2 * level) ' ')

mutual

/-- The text with one item or member a line. -/
def prettyAt (level : Nat) : Json → String
  | null => "null"
  | bool value => if value then "true" else "false"
  | number n => numeralText n
  | text s => escaped (s.getD "")
  | list items =>
    if items.isEmpty then "[]"
    else "[" ++ prettyItems (level + 1) items ++ newLine level ++ "]"
  | object members =>
    if members.isEmpty then "\x7b\x7d"
    else "\x7b" ++ prettyMembers (level + 1) members ++ newLine level ++ "\x7d"
  | buried => "null"

def prettyItems (level : Nat) : List Json → String
  | [] => ""
  | [item] => newLine level ++ prettyAt level item
  | item :: next :: rest =>
    newLine level ++ prettyAt level item ++ "," ++ prettyItems level (next :: rest)

def prettyMembers (level : Nat) : List (Option String × Json) → String
  | [] => ""
  | [(key, value)] => newLine level ++ escaped (key.getD "") ++ ": " ++ prettyAt level value
  | (key, value) :: next :: rest =>
    newLine level ++ escaped (key.getD "") ++ ": " ++ prettyAt level value ++ ","
      ++ prettyMembers level (next :: rest)

end

def pretty (value : Json) : String := prettyAt 0 value

end SpawnForest.Json
