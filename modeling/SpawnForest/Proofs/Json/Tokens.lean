import Mathlib.Data.List.Forall2
import SpawnForest.Json.Printer
import SpawnForest.Json.Reader

/-!
# Tokens that are read back

What the printers write for a whole number or a text is read as that number or
text, whatever comes after it. A number has to be cut off by what follows it
(`Cut`), a text ends with its own quote.
-/

namespace SpawnForest.Json.Reader

/-! ## Blanks -/

def Blank (cs : List Char) : Prop := ∀ c ∈ cs, isSpace c = true

theorem skipSpace_blank {bs : List Char} (hbs : Blank bs) (cs : List Char) :
    skipSpace (bs ++ cs) = skipSpace cs :=
  List.dropWhile_append_of_pos hbs

theorem skipSpace_cons {c : Char} (hc : isSpace c = false) (cs : List Char) :
    skipSpace (c :: cs) = c :: cs := by
  rw [skipSpace, List.dropWhile_cons_of_neg]
  rw [hc]
  exact Bool.false_ne_true

/-! ## Numerals -/

/-- The characters that a numeral can go on with. -/
def goesOn (c : Char) : Bool := c.isDigit || c = '.' || c = 'e' || c = 'E'

/-- What stands here is no part of a numeral before it. -/
def Cut (rest : List Char) : Prop := ∀ c ∈ rest.head?, goesOn c = false

theorem cut_nil : Cut [] := fun _ h => by cases h

theorem cut_cons {c : Char} (hc : goesOn c = false) (rest : List Char) : Cut (c :: rest) := by
  intro d hd
  cases hd
  exact hc

theorem goesOn_of_isSpace {c : Char} (h : isSpace c = true) : goesOn c = false := by
  simp only [isSpace, Bool.or_eq_true, decide_eq_true_eq] at h
  rcases h with ((rfl | rfl) | rfl) | rfl <;> rfl

theorem isSpace_of_isDigit {c : Char} (h : c.isDigit = true) : isSpace c = false := by
  cases hspace : isSpace c with
  | false => rfl
  | true =>
      have := goesOn_of_isSpace hspace
      rw [goesOn, h] at this
      cases this

/-- Blanks cut a numeral off, and so does what comes after them. -/
theorem cut_blank {bs cs : List Char} (hbs : Blank bs) (hcs : Cut cs) : Cut (bs ++ cs) := by
  cases bs with
  | nil => exact hcs
  | cons b bs => exact cut_cons (goesOn_of_isSpace (hbs b List.mem_cons_self)) _

theorem digits?_append {ds rest : List Char} (hne : ds ≠ [])
    (hds : ∀ c ∈ ds, c.isDigit = true) (hrest : Cut rest) :
    digits? (ds ++ rest) = some (ds, rest) := by
  have hstop : rest.takeWhile Char.isDigit = [] ∧ rest.dropWhile Char.isDigit = rest := by
    cases rest with
    | nil => exact ⟨rfl, rfl⟩
    | cons c rest =>
        have hc : goesOn c = false := hrest c rfl
        have hdigit : ¬ c.isDigit = true := by
          intro h
          simp [goesOn, h] at hc
        exact ⟨List.takeWhile_cons_of_neg hdigit, List.dropWhile_cons_of_neg hdigit⟩
  have htake : (ds ++ rest).takeWhile Char.isDigit = ds := by
    rw [List.takeWhile_append_of_pos hds, hstop.1, List.append_nil]
  have hdrop : (ds ++ rest).dropWhile Char.isDigit = rest := by
    rw [List.dropWhile_append_of_pos hds, hstop.2]
  unfold digits?
  rw [htake, hdrop]
  exact if_neg (by simpa using hne)

theorem isDigit_toDigits (n : Nat) : ∀ c ∈ Nat.toDigits 10 n, c.isDigit = true :=
  fun _ hc => Nat.isDigit_of_mem_toDigits (by decide : 0 < 10) (Nat.le_refl 10) hc

/-- Only zero is written with a zero in front. -/
theorem eq_zero_of_head?_toDigits {n : Nat} (h : (Nat.toDigits 10 n).head? = some '0') :
    n = 0 := by
  induction n using Nat.strongRecOn with
  | ind n ih =>
      by_cases hsmall : n < 10
      · rw [Nat.toDigits_of_lt_base hsmall] at h
        have hvalue := Nat.toNat_digitChar_of_lt_ten hsmall
        rw [Option.some.inj h] at hvalue
        have hzero : '0'.toNat = 48 := rfl
        omega
      · have hten : 10 ≤ n := Nat.le_of_not_lt hsmall
        rw [Nat.toDigits_of_base_le (by decide) hten,
          List.head?_append_of_ne_nil _ Nat.toDigits_ne_nil] at h
        have := ih (n / 10) (by omega) h
        omega

theorem whole?_toDigits (n : Nat) {rest : List Char} (hrest : Cut rest) :
    whole? (Nat.toDigits 10 n ++ rest) = some (n, rest) := by
  unfold whole?
  rw [digits?_append Nat.toDigits_ne_nil (isDigit_toDigits n) hrest]
  dsimp only
  rw [Nat.ofDigitChars_ten_toDigits, if_neg]
  simp only [Bool.and_eq_true, decide_eq_true_eq, not_and, not_not]
  intro h
  rw [eq_zero_of_head?_toDigits h]
  rfl

theorem fraction?_of_cut {rest : List Char} (hrest : Cut rest) :
    fraction? rest = some ([], rest) := by
  cases rest with
  | nil => rfl
  | cons c rest =>
      have hc : goesOn c = false := hrest c rfl
      have hpoint : c ≠ '.' := by rintro rfl; cases hc
      simp [fraction?, hpoint]

theorem exponent?_of_cut {rest : List Char} (hrest : Cut rest) :
    exponent? rest = some (none, rest) := by
  cases rest with
  | nil => rfl
  | cons c rest =>
      have hc : goesOn c = false := hrest c rfl
      have hlower : c ≠ 'e' := by rintro rfl; cases hc
      have hupper : c ≠ 'E' := by rintro rfl; cases hc
      simp [exponent?, hlower, hupper]

theorem numeralText_ofNat (n : Nat) :
    (numeralText (.ofNat n)).toList = Nat.toDigits 10 n := by
  simp [numeralText, JsonNumeral.ofNat, Text.decimal]

/-- The digits of a number start with a digit. -/
theorem exists_toDigits (n : Nat) :
    ∃ c ds, Nat.toDigits 10 n = c :: ds ∧ c.isDigit = true := by
  cases h : Nat.toDigits 10 n with
  | nil => exact absurd h Nat.toDigits_ne_nil
  | cons c ds => exact ⟨c, ds, rfl, isDigit_toDigits n c (h ▸ List.mem_cons_self)⟩

theorem numeral?_toDigits (n : Nat) {rest : List Char} (hrest : Cut rest) :
    numeral? (Nat.toDigits 10 n ++ rest) = some (.ofNat n, rest) := by
  have hunsigned : unsigned? false (Nat.toDigits 10 n ++ rest) = some (.ofNat n, rest) := by
    unfold unsigned?
    rw [whole?_toDigits n hrest]
    simp only [Option.bind_eq_bind, Option.bind_some, fraction?_of_cut hrest,
      exponent?_of_cut hrest]
    rfl
  obtain ⟨c, ds, hds, hc⟩ := exists_toDigits n
  have hminus : c ≠ '-' := by rintro rfl; cases hc
  rw [hds] at hunsigned ⊢
  simpa [numeral?, hminus] using hunsigned

/-! ## Texts -/

/-- A piece that stands for a character: the character itself, or for a control character its
number. -/
def Piece.StandsFor (p : Piece) (c : Char) : Prop :=
  p = .char c ∨ p = .unit c.toNat ∧ c.toNat < 0x20

theorem hexDigit?_digitChar {d : Nat} (hd : d < 16) : hexDigit? (Nat.digitChar d) = some d := by
  have h : ∀ d, d < 16 → hexDigit? (Nat.digitChar d) = some d := by decide
  exact h d hd

theorem unit?_control {n : Nat} (hn : n < 0x20) :
    unit? '0' '0' (Nat.digitChar (n / 16)) (Nat.digitChar (n % 16)) = some n := by
  have hzero : hexDigit? '0' = some 0 := rfl
  have hhigh := hexDigit?_digitChar (show n / 16 < 16 by omega)
  have hlow := hexDigit?_digitChar (show n % 16 < 16 by omega)
  simp only [unit?, hzero, hhigh, hlow, Option.bind_eq_bind, Option.bind_some, Option.pure_def,
    Option.some.injEq]
  omega

theorem pieces?_letter {e c : Char} (he : e ≠ 'u') (hc : simpleEscape? e = some c)
    (rest : List Char) :
    pieces? ('\\' :: e :: rest) =
      (pieces? rest).map (fun (ps, rest) => (.char c :: ps, rest)) := by
  rw [pieces?.eq_def]
  cases hps : pieces? rest <;> simp [he, hc, hps]

theorem pieces?_plain {c : Char} (hquote : c ≠ '"') (hslash : c ≠ '\\')
    (hplain : ¬ c.toNat < 0x20) (rest : List Char) :
    pieces? (c :: rest) = (pieces? rest).map (fun (ps, rest) => (.char c :: ps, rest)) := by
  rw [pieces?.eq_def]
  simp [hslash, hplain]

/-- What is written for a character is read as one piece, which stands for it. -/
theorem pieces?_escapeChar (c : Char) :
    ∃ p : Piece, p.StandsFor c ∧ ∀ rest, pieces? (escapeChar c ++ rest) =
      (pieces? rest).map (fun (ps, rest) => (p :: ps, rest)) := by
  have hletter : ∀ e : Char, e ≠ 'u' → simpleEscape? e = some c →
      ∃ p : Piece, p.StandsFor c ∧ ∀ rest, pieces? ('\\' :: e :: rest) =
        (pieces? rest).map (fun (ps, rest) => (p :: ps, rest)) :=
    fun e he hc => ⟨.char c, .inl rfl, pieces?_letter he hc⟩
  unfold escapeChar
  split_ifs with hquote hslash hnewline hreturn htab hbackspace hfeed hcontrol
  · obtain rfl := hquote
    exact hletter '"' (by decide) rfl
  · obtain rfl := hslash
    exact hletter '\\' (by decide) rfl
  · obtain rfl := hnewline
    exact hletter 'n' (by decide) rfl
  · obtain rfl := hreturn
    exact hletter 'r' (by decide) rfl
  · obtain rfl := htab
    exact hletter 't' (by decide) rfl
  · obtain rfl := hbackspace
    exact hletter 'b' (by decide) rfl
  · obtain rfl := hfeed
    exact hletter 'f' (by decide) rfl
  · refine ⟨.unit c.toNat, .inr ⟨rfl, hcontrol⟩, fun rest => ?_⟩
    simp only [List.cons_append, List.nil_append]
    rw [pieces?, unit?_control hcontrol]
    cases pieces? rest <;> rfl
  · exact ⟨.char c, .inl rfl, pieces?_plain hquote hslash hcontrol⟩

theorem pieces?_escaped (cs : List Char) :
    ∃ ps, List.Forall₂ Piece.StandsFor ps cs ∧ ∀ rest,
      pieces? (cs.flatMap escapeChar ++ '"' :: rest) = some (ps, rest) := by
  induction cs with
  | nil => exact ⟨[], .nil, fun rest => rfl⟩
  | cons c cs ih =>
      obtain ⟨ps, hps, hread⟩ := ih
      obtain ⟨p, hp, hfirst⟩ := pieces?_escapeChar c
      refine ⟨p :: ps, .cons hp hps, fun rest => ?_⟩
      rw [List.flatMap_cons, List.append_assoc, hfirst, hread]
      rfl

/-- Half a surrogate pair is never written. -/
theorem assemble_standsFor {ps : List Piece} {cs : List Char}
    (h : List.Forall₂ Piece.StandsFor ps cs) : assemble ps = some cs := by
  induction h with
  | nil => rfl
  | @cons p c ps cs hp hps ih =>
      rcases hp with rfl | ⟨rfl, hc⟩
      · rw [assemble, ih]
        rfl
      · have hhigh : isHigh c.toNat = false := by simp [isHigh]; omega
        have hlow : isLow c.toNat = false := by simp [isLow]; omega
        have hself : Char.ofNat c.toNat = c := Char.ofNat_toNat c
        rw [assemble.eq_def]
        cases ps with
        | nil => simp [hhigh, hlow, ih, hself]
        | cons q ps => cases q <;> simp [hhigh, hlow, ih, hself]

theorem text?_escaped (s : String) (rest : List Char) :
    text? (s.toList.flatMap escapeChar ++ '"' :: rest) = some (some s, rest) := by
  obtain ⟨ps, hps, hread⟩ := pieces?_escaped s.toList
  rw [text?, hread, Option.map_some]
  dsimp only
  rw [assemble_standsFor hps, Option.map_some, String.ofList_toList]

end SpawnForest.Json.Reader
