import SpawnForest.Text.Unprintable

/-!
# Quoted text

Descriptions and names appear in reports between double quotes. Inside them a
quote and a backslash follow a backslash, four control characters have letters
of their own, and every other character without a visible form is spelled by
its code point. All others stand for themselves.
-/

namespace SpawnForest.Text

def quotedChar (c : Char) : List Char :=
  if c = '"' then ['\\', '"']
  else if c = '\\' then ['\\', '\\']
  else if c = '\n' then ['\\', 'n']
  else if c = '\r' then ['\\', 'r']
  else if c = '\t' then ['\\', 't']
  else if c = '\x00' then ['\\', '0']
  else if isUnprintable c then
    ['\\', 'u', '\x7b'] ++ Nat.toDigits 16 c.toNat ++ ['\x7d']
  else [c]

def quoted (s : String) : String :=
  String.ofList ('"' :: s.toList.flatMap quotedChar ++ ['"'])

end SpawnForest.Text
