import Mathlib.Data.Nat.Digits.Defs
import SpawnForest.Text.Blank
import SpawnForest.Text.Numeral

/-!
# Words and numerals

What a command line is made of, said without the functions that read it: blanks
and maximal runs of other characters (`Runs`), and among the runs those that
stand for a whole number (`Denotes`). A line falls into runs in one way only,
and `words` finds it (`runs_iff`); a numeral has one value, and `readNumeral`
gives it unless it is too great (`readNumeral_eq_some_iff`).
-/

namespace SpawnForest.Text

/-! ## Runs -/

/-- The maximal runs of characters that are not blank, in order: what ends a run is a blank or the
end of the line, and whatever lies between two runs is blank. -/
inductive Runs : List Char → List (List Char) → Prop
  | nil : Runs [] []
  | blank {c : Char} {cs : List Char} {ws : List (List Char)} (hc : isBlank c = true)
    (h : Runs cs ws) : Runs (c :: cs) ws
  | run {word rest : List Char} {ws : List (List Char)} (hne : word ≠ [])
    (hword : ∀ c ∈ word, isBlank c = false) (hend : ∀ c ∈ rest.head?, isBlank c = true)
    (h : Runs rest ws) :
    Runs (word ++ rest) (word :: ws)

variable {c d : Char} {cs rest word : List Char} {ws : List (List Char)}

theorem words_blank (hc : isBlank c = true) (cs : List Char) : words (c :: cs) = words cs := by
  cases cs with
  | nil => simp [words, hc]
  | cons d rest => rw [words, if_pos hc]

theorem words_run (hne : word ≠ []) (hword : ∀ c ∈ word, isBlank c = false)
    (hend : ∀ c ∈ rest.head?, isBlank c = true) : words (word ++ rest) = word :: words rest := by
  induction word with
  | nil => exact absurd rfl hne
  | cons c word ih =>
      obtain ⟨hc, hword⟩ := List.forall_mem_cons.mp hword
      cases word with
      | nil =>
          cases rest with
          | nil => simp [words, hc]
          | cons d rest => simp [words, hc, hend d rfl]
      | cons d word =>
          have hd : isBlank d = false := hword d List.mem_cons_self
          have hrest : words (d :: (word ++ rest)) = (d :: word) :: words rest :=
            ih (List.cons_ne_nil _ _) hword
          rw [List.cons_append, List.cons_append, words, hc, hd, hrest]
          rfl

/-- What starts with a character that is not blank starts with a run, which a further character in
front of it belongs to. -/
theorem Runs.cons_run (h : Runs (d :: cs) ws) (hd : isBlank d = false) (hc : isBlank c = false) :
    ∃ word others, ws = word :: others ∧ Runs (c :: d :: cs) ((c :: word) :: others) := by
  generalize hline : d :: cs = line at h
  cases h with
  | nil => cases hline
  | blank hblank _ =>
      obtain rfl := (List.cons.inj hline).1
      rw [hd] at hblank
      cases hblank
  | run hne hword hend h =>
      exact ⟨_, _, rfl, .run (List.cons_ne_nil _ _) (List.forall_mem_cons.mpr ⟨hc, hword⟩) hend h⟩

/-- A run of one character. -/
theorem Runs.letter (h : Runs cs ws) (hc : isBlank c = false)
    (hend : ∀ d ∈ cs.head?, isBlank d = true) : Runs (c :: cs) ([c] :: ws) :=
  .run (List.cons_ne_nil c []) (List.forall_mem_singleton.mpr hc) hend h

theorem runs_words (cs : List Char) : Runs cs (words cs) := by
  fun_induction words cs with
  | case1 => exact .nil
  | case2 c hc => exact .blank hc .nil
  | case3 c hc =>
      exact Runs.nil.letter (Bool.eq_false_iff.mpr hc) nofun
  | case4 c d rest hc ih => exact .blank hc ih
  | case5 c d rest hc hd ih =>
      exact ih.letter (Bool.eq_false_iff.mpr hc) (fun x hx => Option.some.inj hx ▸ hd)
  | case6 c d rest hc hd hnone ih =>
      obtain ⟨word, others, hwords, -⟩ :=
        ih.cons_run (Bool.eq_false_iff.mpr hd) (Bool.eq_false_iff.mpr hc)
      rw [hnone] at hwords
      cases hwords
  | case7 c d rest hc hd word others hwords ih =>
      obtain ⟨_, _, hsame, hruns⟩ :=
        ih.cons_run (Bool.eq_false_iff.mpr hd) (Bool.eq_false_iff.mpr hc)
      cases hwords.symm.trans hsame
      exact hruns

/-- A line falls into runs in one way only. -/
theorem runs_iff : Runs cs ws ↔ ws = words cs := by
  refine ⟨fun h => ?_, fun h => h ▸ runs_words cs⟩
  induction h with
  | nil => rfl
  | blank hc _ ih => rw [words_blank hc, ih]
  | run hne hword hend _ ih => rw [words_run hne hword hend, ih]

/-! ## Numerals -/

/-- The value of decimal digits, the first one being the highest. -/
def decimalValue (digits : List Char) : Nat :=
  Nat.ofDigits 10 (digits.map (fun c => c.toNat - '0'.toNat)).reverse

/-- At most one plus sign and one or more digits, and the value they stand for. -/
inductive Denotes : List Char → Nat → Prop
  | plain {digits : List Char} (hne : digits ≠ []) (hdigits : ∀ c ∈ digits, c.isDigit = true) :
    Denotes digits (decimalValue digits)
  | signed {digits : List Char} (hne : digits ≠ []) (hdigits : ∀ c ∈ digits, c.isDigit = true) :
    Denotes ('+' :: digits) (decimalValue digits)

theorem ofDigitChars_eq_decimalValue (digits : List Char) :
    Nat.ofDigitChars 10 digits 0 = decimalValue digits := by
  rw [decimalValue, Nat.ofDigits_eq_foldr, List.foldr_reverse, List.foldl_map, Nat.ofDigitChars]
  congr 1
  funext sofar c
  simp [Nat.add_comm]

theorem readDigits_eq_some_iff {greatest n : Nat} {digits : List Char} :
    readDigits greatest digits = some n ↔
      digits ≠ [] ∧ (∀ c ∈ digits, c.isDigit = true) ∧ n = decimalValue digits ∧ n ≤ greatest := by
  rw [readDigits, ofDigitChars_eq_decimalValue]
  by_cases hshape : digits ≠ [] ∧ ∀ c ∈ digits, c.isDigit = true
  · have hread : (digits.isEmpty || !digits.all Char.isDigit) = false := by
      simpa using hshape
    rw [hread]
    dsimp only
    split <;> grind
  · have hread : (digits.isEmpty || !digits.all Char.isDigit) = true := by
      simp at hshape ⊢
      grind
    rw [hread, if_pos rfl]
    grind

theorem readNumeral_of_unsigned (h : ¬∃ digits, word = '+' :: digits) (greatest : Nat) :
    readNumeral greatest word = readDigits greatest word := by
  unfold readNumeral
  split
  · exact absurd ⟨_, rfl⟩ h
  · rfl

theorem readNumeral_eq_some_iff {greatest n : Nat} :
    readNumeral greatest word = some n ↔ Denotes word n ∧ n ≤ greatest := by
  have hplus : ∀ {digits : List Char}, (∀ c ∈ '+' :: digits, c.isDigit = true) → False :=
    fun h => absurd (h '+' List.mem_cons_self) (by decide)
  by_cases hsign : ∃ digits, word = '+' :: digits
  · obtain ⟨digits, rfl⟩ := hsign
    rw [readNumeral, readDigits_eq_some_iff]
    constructor
    · rintro ⟨hne, hdigits, rfl, hle⟩
      exact ⟨.signed hne hdigits, hle⟩
    · rintro ⟨hdenotes, hle⟩
      cases hdenotes with
      | plain hne hdigits => exact (hplus hdigits).elim
      | signed hne hdigits => exact ⟨hne, hdigits, rfl, hle⟩
  · rw [readNumeral_of_unsigned hsign, readDigits_eq_some_iff]
    constructor
    · rintro ⟨hne, hdigits, rfl, hle⟩
      exact ⟨.plain hne hdigits, hle⟩
    · rintro ⟨hdenotes, hle⟩
      cases hdenotes with
      | plain hne hdigits => exact ⟨hne, hdigits, rfl, hle⟩
      | signed hne hdigits => exact (hsign ⟨_, rfl⟩).elim

end SpawnForest.Text
