/-!
# Blank characters and words

A word is a maximal run of characters that are not blank. Blank characters are
the 25 code points with the Unicode property White_Space.
-/

namespace SpawnForest.Text

/-- The first and last code points of each range of blanks. -/
def blankRanges : List (Nat × Nat) := [
  (0x9, 0xd), (0x20, 0x20), (0x85, 0x85), (0xa0, 0xa0), (0x1680, 0x1680), (0x2000, 0x200a),
  (0x2028, 0x2029), (0x202f, 0x202f), (0x205f, 0x205f), (0x3000, 0x3000)]

def isBlank (c : Char) : Bool :=
  blankRanges.any (fun (first, last) => decide (first ≤ c.toNat) && decide (c.toNat ≤ last))

def words : List Char → List (List Char)
  | [] => []
  | [c] => if isBlank c then [] else [[c]]
  | c :: d :: rest =>
    if isBlank c then words (d :: rest)
    else if isBlank d then [c] :: words (d :: rest)
    else
      match words (d :: rest) with
      | [] => [[c]]
      | word :: others => (c :: word) :: others

end SpawnForest.Text
