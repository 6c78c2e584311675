import SpawnForest.Console.Command
import SpawnForest.Proofs.Text.Words

/-!
# The grammar of command lines

Which lines are commands is said of their words alone: a name in any case of
the ASCII letters, then the numbers that the command takes, and nothing else
(`Asks`). Every other line is refused for its first fault (`Refused`): first
the name is looked at, then one number after the other, then whether a word is
left over (`Amiss`).

For every line one of the two says what it is (`asks_or_refused`), and what it
says is what the line is read as. Reading a line therefore agrees with the
grammar in both directions (`parse_grammar`).
-/

namespace SpawnForest.Console

open Text (Runs Denotes words runs_iff readNumeral_eq_some_iff)

/-! ## The grammar -/

/-- The word in lower case, which concerns the ASCII letters only. -/
def lowered (word : List Char) : String := String.ofList (word.map Char.toLower)

def commandNames : List String :=
  ["list", "dump", "respawn", "despawn", "reseed", "activate", "deactivate"]

/-- The words of a line that asks for a command. -/
inductive Asks : List (List Char) → Command → Prop
  | list {name map : List Char} {m : UInt32} (hname : lowered name = "list")
    (hmap : Denotes map m.toNat) : Asks [name, map] (.list ⟨m⟩)
  | onPool {verb : Verb} {name map pool : List Char} {m p : UInt32}
    (hname : lowered name = verb.name) (hmap : Denotes map m.toNat)
    (hpool : Denotes pool p.toNat) : Asks [name, map, pool] (.onPool verb ⟨m⟩ ⟨p⟩)

/-- The first fault of words of which each of some numbers is to be one, in this order, and none is
to be left over. -/
inductive Amiss : List String → List (List Char) → ArgumentError → Prop
  | missing {what : String} {more : List String} : Amiss (what :: more) [] (.missing what)
  | notANumber {what : String} {more : List String} {word : List Char} {rest : List (List Char)}
    (hword : ¬∃ n : UInt32, Denotes word n.toNat) :
    Amiss (what :: more) (word :: rest) (.notANumber what (String.ofList word))
  | unexpected {word : List Char} {rest : List (List Char)} :
    Amiss [] (word :: rest) (.unexpected (String.ofList word))
  | later {what : String} {more : List String} {word : List Char} {rest : List (List Char)}
    {n : UInt32} {e : ArgumentError} (hword : Denotes word n.toNat) (h : Amiss more rest e) :
    Amiss (what :: more) (word :: rest) e

/-- The words of a line that asks for nothing, with what is reported of it. -/
inductive Refused : List (List Char) → ParseError → Prop
  | blank : Refused [] (.unknownCommand "")
  | unknown {name : List Char} {rest : List (List Char)} (hname : lowered name ∉ commandNames) :
    Refused (name :: rest) (.unknownCommand (lowered name))
  | list {name : List Char} {rest : List (List Char)} {e : ArgumentError}
    (hname : lowered name = "list") (h : Amiss ["map id"] rest e) :
    Refused (name :: rest) (.malformedArguments "list" e)
  | onPool {verb : Verb} {name : List Char} {rest : List (List Char)} {e : ArgumentError}
    (hname : lowered name = verb.name) (h : Amiss ["map id", "pool id"] rest e) :
    Refused (name :: rest) (.malformedArguments verb.name e)

/-! ## Names -/

theorem Verb.ofName?_name (verb : Verb) : Verb.ofName? verb.name = some verb := by
  cases verb <;> decide

theorem Verb.name_ne_list (verb : Verb) : verb.name ≠ "list" := by
  cases verb <;> decide

theorem mem_commandNames {name : String} :
    name ∈ commandNames ↔ name = "list" ∨ ∃ verb : Verb, name = verb.name := by
  constructor
  · intro h
    simp only [commandNames, List.mem_cons, List.not_mem_nil, or_false] at h
    rcases h with h | h | h | h | h | h | h
    · exact .inl h
    · exact .inr ⟨.dump, h⟩
    · exact .inr ⟨.respawn, h⟩
    · exact .inr ⟨.despawn, h⟩
    · exact .inr ⟨.reseed, h⟩
    · exact .inr ⟨.activate, h⟩
    · exact .inr ⟨.deactivate, h⟩
  · rintro (rfl | ⟨verb, rfl⟩)
    · exact List.mem_cons_self
    · cases verb <;> decide

theorem Verb.ofName?_eq_none {name : String} (h : name ∉ commandNames) :
    Verb.ofName? name = none := by
  rw [Verb.ofName?, List.find?_eq_none]
  intro verb _ hname
  exact h (mem_commandNames.mpr (.inr ⟨verb, (beq_iff_eq.mp hname).symm⟩))

/-! ## Numbers -/

theorem readNumber_of_denotes {word : List Char} {n : UInt32} (h : Denotes word n.toNat)
    (what : String) : readNumber what (some word) = .ok n := by
  have hle : n.toNat ≤ 0xffffffff := Nat.le_of_lt_succ n.toNat_lt
  rw [readNumber, readNumeral_eq_some_iff.mpr ⟨h, hle⟩]
  dsimp only
  rw [UInt32.ofNat_toNat]

theorem readNumber_of_not_denotes {word : List Char} (h : ¬∃ n : UInt32, Denotes word n.toNat)
    (what : String) :
    readNumber what (some word) = .error (.notANumber what (String.ofList word)) := by
  have hnone : Text.readNumeral 0xffffffff word = none := by
    refine Option.eq_none_iff_forall_ne_some.mpr (fun n hn => h ⟨UInt32.ofNat n, ?_⟩)
    obtain ⟨hdenotes, hle⟩ := readNumeral_eq_some_iff.mp hn
    rwa [UInt32.toNat_ofNat_of_lt' (Nat.lt_succ_of_le hle)]
  rw [readNumber, hnone]

/-! ## Arguments -/

theorem listArguments_of_amiss {args : List (List Char)} {e : ArgumentError}
    (h : Amiss ["map id"] args e) : listArguments args = .error e := by
  cases h with
  | missing => rfl
  | notANumber hword =>
      rw [listArguments, List.head?_cons, readNumber_of_not_denotes hword]
      rfl
  | later hword h =>
      rw [listArguments, List.head?_cons, readNumber_of_denotes hword]
      cases h with
      | unexpected => rfl

theorem poolArguments_of_amiss {args : List (List Char)} {e : ArgumentError}
    (h : Amiss ["map id", "pool id"] args e) (verb : Verb) :
    poolArguments verb args = .error e := by
  cases h with
  | missing => rfl
  | notANumber hword =>
      rw [poolArguments, List.head?_cons, readNumber_of_not_denotes hword]
      rfl
  | later hword h =>
      rw [poolArguments, List.head?_cons, readNumber_of_denotes hword, List.tail_cons]
      cases h with
      | missing => rfl
      | notANumber hword =>
          rw [List.head?_cons, readNumber_of_not_denotes hword]
          rfl
      | later hword h =>
          rw [List.head?_cons, readNumber_of_denotes hword]
          cases h with
          | unexpected => rfl

/-- Words are the numbers that are to be there, or there is a first fault. -/
theorem numbers_or_amiss (whats : List String) (args : List (List Char)) :
    (∃ ns : List UInt32, ns.length = whats.length ∧
      List.Forall₂ (fun word (n : UInt32) => Denotes word n.toNat) args ns) ∨
    ∃ e, Amiss whats args e := by
  induction whats generalizing args with
  | nil =>
      cases args with
      | nil => exact .inl ⟨[], rfl, .nil⟩
      | cons word rest => exact .inr ⟨_, .unexpected⟩
  | cons what more ih =>
      cases args with
      | nil => exact .inr ⟨_, .missing⟩
      | cons word rest =>
          by_cases hword : ∃ n : UInt32, Denotes word n.toNat
          · obtain ⟨n, hword⟩ := hword
            rcases ih rest with ⟨ns, hlength, hns⟩ | ⟨e, h⟩
            · exact .inl ⟨n :: ns, congrArg (· + 1) hlength, .cons hword hns⟩
            · exact .inr ⟨e, .later hword h⟩
          · exact .inr ⟨_, .notANumber hword⟩

/-! ## Lines -/

theorem parse_of_asks {line : String} {command : Command}
    (h : Asks (words line.toList) command) : parse line = .ok command := by
  generalize hwords : words line.toList = ws at h
  rw [parse, hwords]
  cases h with
  | list hname hmap =>
      dsimp only
      rw [← lowered, hname, if_pos rfl, listArguments, List.head?_cons,
        readNumber_of_denotes hmap]
      rfl
  | @onPool verb _ _ _ _ _ hname hmap hpool =>
      dsimp only
      rw [← lowered, hname, if_neg verb.name_ne_list, verb.ofName?_name]
      dsimp only
      rw [poolArguments, List.head?_cons, readNumber_of_denotes hmap, List.tail_cons,
        List.head?_cons, readNumber_of_denotes hpool]
      rfl

theorem parse_of_refused {line : String} {e : ParseError}
    (h : Refused (words line.toList) e) : parse line = .error e := by
  generalize hwords : words line.toList = ws at h
  rw [parse, hwords]
  cases h with
  | blank => rfl
  | unknown hname =>
      have hlist : lowered _ ≠ "list" := fun h => hname (mem_commandNames.mpr (.inl h))
      dsimp only
      rw [← lowered, if_neg hlist, Verb.ofName?_eq_none hname]
  | list hname h =>
      dsimp only
      rw [← lowered, hname, if_pos rfl, listArguments_of_amiss h]
      rfl
  | @onPool verb _ _ _ hname h =>
      dsimp only
      rw [← lowered, hname, if_neg verb.name_ne_list, verb.ofName?_name]
      dsimp only
      rw [poolArguments_of_amiss h]
      rfl

theorem asks_or_refused (ws : List (List Char)) :
    (∃ command, Asks ws command) ∨ ∃ e, Refused ws e := by
  cases ws with
  | nil => exact .inr ⟨_, .blank⟩
  | cons name args =>
      by_cases hname : lowered name ∈ commandNames
      · rcases mem_commandNames.mp hname with hlist | ⟨verb, hverb⟩
        · rcases numbers_or_amiss ["map id"] args with ⟨ns, hlength, hns⟩ | ⟨e, h⟩
          · cases hns with
            | nil => cases hlength
            | cons hmap hns =>
                obtain rfl := List.length_eq_zero_iff.mp (Nat.succ.inj hlength)
                cases hns
                exact .inl ⟨_, .list hlist hmap⟩
          · exact .inr ⟨_, .list hlist h⟩
        · rcases numbers_or_amiss ["map id", "pool id"] args with ⟨ns, hlength, hns⟩ | ⟨e, h⟩
          · cases hns with
            | nil => cases hlength
            | cons hmap hns =>
                cases hns with
                | nil => cases hlength
                | cons hpool hns =>
                    obtain rfl := List.length_eq_zero_iff.mp
                      (Nat.succ.inj (Nat.succ.inj hlength))
                    cases hns
                    exact .inl ⟨_, .onPool hverb hmap hpool⟩
          · exact .inr ⟨_, .onPool hverb h⟩
      · exact .inr ⟨_, .unknown hname⟩

/-- A line falls into maximal runs in one way, and is read as the command that they ask for, or
refused for their first fault. -/
theorem parse_grammar (line : String) :
    ∃ ws, (∀ vs, Runs line.toList vs ↔ vs = ws) ∧
      (∀ command, parse line = .ok command ↔ Asks ws command) ∧
      ∀ e, parse line = .error e ↔ Refused ws e := by
  refine ⟨words line.toList, fun vs => runs_iff, fun command => ⟨fun h => ?_, parse_of_asks⟩,
    fun e => ⟨fun h => ?_, parse_of_refused⟩⟩
  · rcases asks_or_refused (words line.toList) with ⟨other, hasks⟩ | ⟨e, hrefused⟩
    · cases h.symm.trans (parse_of_asks hasks)
      exact hasks
    · cases h.symm.trans (parse_of_refused hrefused)
  · rcases asks_or_refused (words line.toList) with ⟨command, hasks⟩ | ⟨other, hrefused⟩
    · cases h.symm.trans (parse_of_asks hasks)
    · cases h.symm.trans (parse_of_refused hrefused)
      exact hrefused

end SpawnForest.Console
