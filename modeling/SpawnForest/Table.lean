import SpawnForest.Ident

/-!
# Finite tables in key order

Everything a map owns is kept in tables whose iteration order is part of the
observable behaviour: pools, points and timers are always visited by ascending
key. A table is the list of its entries in that order, and the order is a
field of the type, so equal look-ups mean equal tables (`Table.ext_get?`): a
reservation that is made and taken back leaves no trace.

Keys are compared through `Key.rank`, an injection into the naturals. Ranks
turn every question about order into arithmetic.
-/

namespace SpawnForest

/-- Keys are ordered by an injective rank. -/
class Key (κ : Type) where
  rank : κ → Nat
  rank_inj : ∀ {a b : κ}, rank a = rank b → a = b

instance {realm : Realm} : Key (Id realm) where
  rank id := id.number.toNat
  rank_inj := Id.eq_of_toNat_eq

instance : Key UInt32 where
  rank n := n.toNat
  rank_inj := UInt32.toNat_inj.mp

/-- Pairs of identifiers are ordered by the first, then by the second. -/
instance {first second : Realm} : Key (Id first × Id second) where
  rank k := k.1.number.toNat * 0x100000000 + k.2.number.toNat
  rank_inj := by
    intro a b h
    have ha := a.2.number.toNat_lt
    have hb := b.2.number.toNat_lt
    exact Prod.ext (Id.eq_of_toNat_eq (by omega)) (Id.eq_of_toNat_eq (by omega))

/-- A numbered thing with a 32-bit number of its own beside it. -/
instance {realm : Realm} : Key (Id realm × UInt32) where
  rank k := k.1.number.toNat * 0x100000000 + k.2.toNat
  rank_inj := by
    intro a b h
    have ha := a.2.toNat_lt
    have hb := b.2.toNat_lt
    exact Prod.ext (Id.eq_of_toNat_eq (by omega)) (UInt32.toNat_inj.mp (by omega))

/-- A finite map, listed by ascending key. -/
structure Table (κ α : Type) [Key κ] where
  entries : List (κ × α)
  ascending : entries.Pairwise (fun a b => Key.rank a.1 < Key.rank b.1)

namespace Table

variable {κ α β : Type} [Key κ]

/-! ## Entry lists -/

def find (key : κ) : List (κ × α) → Option α
  | [] => none
  | (k, a) :: rest => if Key.rank key = Key.rank k then some a else find key rest

/-- Lists a value at its place, over any value the key had. -/
def put (key : κ) (value : α) : List (κ × α) → List (κ × α)
  | [] => [(key, value)]
  | (k, a) :: rest =>
    if Key.rank key < Key.rank k then (key, value) :: (k, a) :: rest
    else if Key.rank key = Key.rank k then (key, value) :: rest
    else (k, a) :: put key value rest

theorem mem_put {key : κ} {value : α} {e : κ × α} {l : List (κ × α)} (h : e ∈ put key value l) :
    e = (key, value) ∨ e ∈ l := by
  induction l with
  | nil => simpa [put] using h
  | cons head rest ih =>
    rw [put] at h
    split at h
    · simpa using h
    · split at h
      · rcases List.mem_cons.mp h with h | h
        · exact .inl h
        · exact .inr (List.mem_cons_of_mem _ h)
      · rcases List.mem_cons.mp h with h | h
        · exact .inr (h ▸ List.mem_cons_self)
        · exact (ih h).imp_right (List.mem_cons_of_mem _)

theorem ascending_put (key : κ) (value : α) {l : List (κ × α)}
    (h : l.Pairwise (fun a b => Key.rank a.1 < Key.rank b.1)) :
    (put key value l).Pairwise (fun a b => Key.rank a.1 < Key.rank b.1) := by
  induction l with
  | nil => simp [put]
  | cons head rest ih =>
    rcases head with ⟨k, a⟩
    rcases List.pairwise_cons.mp h with ⟨below, tail⟩
    rw [put]
    by_cases less : Key.rank key < Key.rank k
    · rw [if_pos less]
      refine List.pairwise_cons.mpr ⟨fun e he => ?_, h⟩
      rcases List.mem_cons.mp he with rfl | he
      · exact less
      · exact Nat.lt_trans less (below e he)
    · rw [if_neg less]
      by_cases same : Key.rank key = Key.rank k
      · rw [if_pos same]
        exact List.pairwise_cons.mpr ⟨fun e he => same ▸ below e he, tail⟩
      · rw [if_neg same]
        refine List.pairwise_cons.mpr ⟨fun e he => ?_, ih tail⟩
        rcases mem_put he with rfl | he
        · simp only; omega
        · exact below e he

/-! ## Operations -/

def empty : Table κ α := ⟨[], .nil⟩

instance : Inhabited (Table κ α) := ⟨empty⟩

def get? (t : Table κ α) (key : κ) : Option α := find key t.entries

def contains (t : Table κ α) (key : κ) : Bool := (t.get? key).isSome

def insert (t : Table κ α) (key : κ) (value : α) : Table κ α :=
  ⟨put key value t.entries, ascending_put key value t.ascending⟩

def filter (t : Table κ α) (keep : κ → α → Bool) : Table κ α :=
  ⟨t.entries.filter (fun e => keep e.1 e.2), t.ascending.sublist List.filter_sublist⟩

def erase (t : Table κ α) (key : κ) : Table κ α :=
  t.filter (fun k _ => Key.rank key != Key.rank k)

/-- Replaces every value by a value computed from it and its key. -/
def map (t : Table κ α) (f : κ → α → β) : Table κ β :=
  ⟨t.entries.map (fun e => (e.1, f e.1 e.2)), List.pairwise_map.mpr t.ascending⟩

/-- Changes the value of a key, if it has one. -/
def modify (t : Table κ α) (key : κ) (f : α → α) : Table κ α :=
  t.map (fun k a => if Key.rank key = Key.rank k then f a else a)

def keys (t : Table κ α) : List κ := t.entries.map (·.1)

/-- The values, by ascending key. -/
def values (t : Table κ α) : List α := t.entries.map (·.2)

def size (t : Table κ α) : Nat := t.entries.length

def isEmpty (t : Table κ α) : Bool := t.entries.isEmpty

end Table

abbrev KeySet (κ : Type) [Key κ] := Table κ Unit

namespace KeySet

variable {κ : Type} [Key κ]

def add (s : KeySet κ) (key : κ) : KeySet κ := s.insert key ()

def ofList (keys : List κ) : KeySet κ := keys.foldl add Table.empty

end KeySet

end SpawnForest
