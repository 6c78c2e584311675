import SpawnForest.Ident
import SpawnForest.Text.Blank
import SpawnForest.Text.Numeral
import SpawnForest.Text.Quoted

/-!
# Console commands

A line is a name, a map and, for every command but `list`, a pool: `dump 530
4021`. Names are taken in any case of the ASCII letters. The first fault of a
line is the one reported, in the order name, map, pool, word too many.
-/

namespace SpawnForest.Console

inductive Verb where
  | dump
  | respawn
  | despawn
  | reseed
  | activate
  | deactivate
deriving DecidableEq

namespace Verb

def name : Verb → String
  | dump => "dump"
  | respawn => "respawn"
  | despawn => "despawn"
  | reseed => "reseed"
  | activate => "activate"
  | deactivate => "deactivate"

def all : List Verb := [dump, respawn, despawn, reseed, activate, deactivate]

def ofName? (name : String) : Option Verb := all.find? (fun v => v.name == name)

end Verb

inductive Command where
  /-- List the roots of a map. -/
  | list (map : MapId)
  | onPool (verb : Verb) (map : MapId) (pool : PoolId)
deriving DecidableEq

namespace Command

def map : Command → MapId
  | list map => map
  | onPool _ map _ => map

def name : Command → String
  | list _ => "list"
  | onPool verb _ _ => verb.name

end Command

/-- What is wrong with the words after a command's name. -/
inductive ArgumentError where
  | missing (what : String)
  | notANumber (what word : String)
  | unexpected (word : String)
deriving DecidableEq

def ArgumentError.message : ArgumentError → String
  | missing what => "missing " ++ what
  | notANumber what word => what ++ " " ++ Text.quoted word ++ " is not a number"
  | unexpected word => "unexpected argument " ++ Text.quoted word

inductive ParseError where
  | unknownCommand (name : String)
  | malformedArguments (command : String) (reason : ArgumentError)
deriving DecidableEq

def readNumber (what : String) : Option (List Char) → Except ArgumentError UInt32
  | none => .error (.missing what)
  | some word =>
    match Text.readNumeral 0xffffffff word with
    | some n => .ok (UInt32.ofNat n)
    | none => .error (.notANumber what (String.ofList word))

/-- Refuses words that are left over. -/
def expectEnd : List (List Char) → Except ArgumentError Unit
  | [] => .ok ()
  | word :: _ => .error (.unexpected (String.ofList word))

def listArguments (words : List (List Char)) : Except ArgumentError Command := do
  let map ← readNumber "map id" words.head?
  expectEnd words.tail
  return .list ⟨map⟩

def poolArguments (verb : Verb) (words : List (List Char)) : Except ArgumentError Command := do
  let map ← readNumber "map id" words.head?
  let pool ← readNumber "pool id" words.tail.head?
  expectEnd words.tail.tail
  return .onPool verb ⟨map⟩ ⟨pool⟩

def parse (line : String) : Except ParseError Command :=
  match Text.words line.toList with
  | [] => .error (.unknownCommand "")
  | word :: arguments =>
    let name := String.ofList (word.map Char.toLower)
    if name = "list" then
      (listArguments arguments).mapError (.malformedArguments name)
    else
      match Verb.ofName? name with
      | none => .error (.unknownCommand name)
      | some verb => (poolArguments verb arguments).mapError (.malformedArguments name)

end SpawnForest.Console
