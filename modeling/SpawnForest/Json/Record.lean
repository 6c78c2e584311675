import SpawnForest.Json.Reader

/-!
# Records in documents

A record is an object, or an array of its fields in declaration order. Members
that the record does not know are ignored; a known one may appear only once.
What a missing field means is the field's own affair:

* `required`: the record is refused;
* `orElse`: it has a default, in both forms;
* `optional`: nothing, but an array has to spell it as `null`.

A row that mixes its own fields with the fields of a part (`rowFields?`), and a
choice marked by a member (`tagged?`), are read in two passes. Between the
passes every other value is kept, so it has to be one that can be kept
(`storable`).
-/

namespace SpawnForest.Json

/-! ## Single values -/

def bool? : Json → Option Bool
  | bool value => some value
  | _ => none

def string? : Json → Option String
  | text value => value
  | _ => none

def upTo? (greatest : Nat) : Json → Option Nat
  | number n =>
    match n.integer? with
    | some (.ofNat value) => if value ≤ greatest then some value else none
    | _ => none
  | _ => none

def uint8? (value : Json) : Option UInt8 := (value.upTo? 0xff).map UInt8.ofNat

def uint32? (value : Json) : Option UInt32 := (value.upTo? 0xffffffff).map UInt32.ofNat

def uint64? (value : Json) : Option UInt64 := (value.upTo? 0xffffffffffffffff).map UInt64.ofNat

def single? : Json → Option Single
  | number n => n.single?
  | _ => none

def isNull : Json → Bool
  | null => true
  | _ => false

/-- What a kept value may have in place of `null` where nothing else fits. -/
def isNothing : Json → Bool
  | null => true
  | object [] => true
  | _ => false

def listOf? {α : Type} (item? : Json → Option α) : Json → Option (List α)
  | list items => items.mapM item?
  | _ => none

def nullOr? {α : Type} (value? : Json → Option α) : Json → Option (Option α)
  | null => some none
  | value => (value? value).map some

/-! ## Values kept for a second pass -/

mutual

/-- Whether a value can be kept: its numerals have values, its texts are well
formed, and no part of it lies too deep. -/
def storable : Json → Bool
  | null => true
  | bool _ => true
  | number n => n.inRange
  | text s => s.isSome
  | list items => storableItems items
  | object members => storableMembers members
  | buried => false

def storableItems : List Json → Bool
  | [] => true
  | item :: rest => storable item && storableItems rest

def storableMembers : List (Option String × Json) → Bool
  | [] => true
  | (key, value) :: rest => key.isSome && storable value && storableMembers rest

end

/-! ## Fields -/

/-- The known fields that a document gives. -/
structure Fields where
  given : List (String × Json)
  /-- Whether the record was written as an array. -/
  positional : Bool

namespace Fields

def get? (f : Fields) (name : String) : Option Json := f.given.lookup name

def required {α : Type} (f : Fields) (name : String) (value? : Json → Option α) : Option α :=
  (f.get? name).bind value?

def orElse {α : Type} (f : Fields) (name : String) (value? : Json → Option α) (default : α) :
    Option α :=
  match f.get? name with
  | none => some default
  | some value => value? value

def optional {α : Type} (f : Fields) (name : String) (value? : Json → Option α) :
    Option (Option α) :=
  match f.get? name with
  | none => if f.positional then none else some none
  | some value => nullOr? value? value

end Fields

/-- The members of an object, if every key is well formed. -/
def namedMembers? (members : List (Option String × Json)) : Option (List (String × Json)) :=
  members.mapM (fun (key, value) => key.map (fun k => (k, value)))

def givenOnce (names : List String) (members : List (String × Json)) : Bool :=
  names.all (fun name => decide ((members.filter (fun m => m.1 == name)).length ≤ 1))

def fields? (names : List String) : Json → Option Fields
  | object members =>
    match namedMembers? members with
    | some members => if givenOnce names members then some ⟨members, false⟩ else none
    | none => none
  | list items => if items.length ≤ names.length then some ⟨names.zip items, true⟩ else none
  | _ => none

/-- The fields of a record that is an object. -/
def namedFields? (names : List String) (value : Json) : Option Fields :=
  (value.fields? names).bind (fun f => if f.positional then none else some f)

/-- The fields of a row: its own ones, and those of a part spread among them.
Only an object can be one. -/
def rowFields? (own part : List String) : Json → Option Fields
  | object members =>
    match namedMembers? members with
    | some members =>
      let kept := members.filter (fun m => !own.contains m.1)
      if givenOnce (own ++ part) members && kept.all (fun m => m.2.storable) then
        some ⟨members, false⟩
      else none
    | none => none
  | _ => none

/-- The mark of a choice and the record without it. An array has the mark first. -/
def tagged? (tag : String) : Json → Option (String × Json)
  | object members =>
    match namedMembers? members with
    | some members =>
      let rest := members.filter (fun m => m.1 != tag)
      match members.filter (fun m => m.1 == tag) with
      | [(_, text (some mark))] =>
        if rest.all (fun m => m.2.storable) then some (mark, record rest) else none
      | _ => none
    | none => none
  | list (text (some mark) :: rest) =>
    if rest.all storable then some (mark, list rest) else none
  | _ => none

/-- The only member of an object, as a choice with a value is written. -/
def choice? : Json → Option (String × Json)
  | object [(some mark, value)] => some (mark, value)
  | _ => none

end SpawnForest.Json
