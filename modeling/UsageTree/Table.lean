/-!
# Tables in order of insertion

A table maps keys to values and remembers the order in which keys were first entered.

## Main definitions

* `Table.find?` — the value under a key.
* `Table.alter` — change the value under a key, or enter the key at the end.
* `Table.keys` — the keys in order of insertion.
* `Table.collect` — things divided by their keys.
-/

namespace UsageTree

/-- Keys with their values, oldest key first. -/
structure Table (κ α : Type) where
  entries : List (κ × α)
  deriving Repr, DecidableEq

namespace Table

variable {κ α : Type} [DecidableEq κ]

/-- The table without keys. -/
def empty : Table κ α := ⟨[]⟩

instance : Inhabited (Table κ α) := ⟨empty⟩

/-- The keys in order of insertion. -/
def keys (t : Table κ α) : List κ := t.entries.map Prod.fst

/-- The values in order of insertion of their keys. -/
def values (t : Table κ α) : List α := t.entries.map Prod.snd

/-- The value paired with `key`. -/
def findEntry (key : κ) : List (κ × α) → Option α
  | [] => none
  | (k, v) :: rest => if k = key then some v else findEntry key rest

/-- The value under `key`. -/
def find? (t : Table κ α) (key : κ) : Option α := findEntry key t.entries

/-- Pairs with the value under `key` changed in place; a new key goes to the end. -/
def alterEntries (key : κ) (f : Option α → α) : List (κ × α) → List (κ × α)
  | [] => [(key, f none)]
  | (k, v) :: rest => if k = key then (k, f (some v)) :: rest else (k, v) :: alterEntries key f rest

/-- The table with `f` applied to what is under `key`; a new key goes to the end. -/
def alter (t : Table κ α) (key : κ) (f : Option α → α) : Table κ α :=
  ⟨alterEntries key f t.entries⟩

/-- The table in which `key` has the value `a`; a known key keeps its place. -/
def insert (t : Table κ α) (key : κ) (a : α) : Table κ α := t.alter key fun _ => a

/-- The table of a list of pairs; a later pair replaces the value of an earlier one. -/
def ofList (pairs : List (κ × α)) : Table κ α :=
  pairs.foldl (fun t p => t.insert p.1 p.2) empty

/-- Things under their keys, the things of one key in order. -/
def collect (pairs : List (κ × α)) : Table κ (Array α) :=
  pairs.foldl (fun t p => t.alter p.1 fun as => (as.getD #[]).push p.2) empty

/-! ## Laws -/

@[simp] theorem find?_empty (key : κ) : (empty : Table κ α).find? key = none := rfl

theorem findEntry_alterEntries (key : κ) (f : Option α → α) (es : List (κ × α)) (k : κ) :
    findEntry k (alterEntries key f es) =
      if k = key then some (f (findEntry key es)) else findEntry k es := by
  induction es with
  | nil => simp [alterEntries, findEntry, eq_comm]
  | cons e es ih =>
    obtain ⟨k', v⟩ := e
    by_cases h' : k' = key
    · subst h'; by_cases h : k = k' <;> simp [alterEntries, findEntry, h, eq_comm]
    · by_cases h : k' = k
      · subst h; simp [alterEntries, findEntry, h']
      · simp [alterEntries, findEntry, h', h, ih]

/-- A change is seen under its own key and nowhere else. -/
theorem find?_alter (t : Table κ α) (key : κ) (f : Option α → α) (k : κ) :
    (t.alter key f).find? k = if k = key then some (f (t.find? key)) else t.find? k :=
  findEntry_alterEntries key f t.entries k

theorem map_fst_alterEntries (key : κ) (f : Option α → α) (es : List (κ × α)) :
    (alterEntries key f es).map Prod.fst =
      if key ∈ es.map Prod.fst then es.map Prod.fst else es.map Prod.fst ++ [key] := by
  induction es with
  | nil => simp [alterEntries]
  | cons e es ih =>
    obtain ⟨k', v⟩ := e
    by_cases h : k' = key
    · subst h; simp [alterEntries]
    · have h' : ¬ key = k' := fun e => h e.symm
      simp only [alterEntries, h, ↓reduceIte, List.map_cons, ih, List.mem_cons, h', false_or]
      split <;> simp

/-- A known key keeps its place, a new one comes last. -/
theorem keys_alter (t : Table κ α) (key : κ) (f : Option α → α) :
    (t.alter key f).keys = if key ∈ t.keys then t.keys else t.keys ++ [key] :=
  map_fst_alterEntries key f t.entries

/-- A key has a value exactly if it is among the keys. -/
theorem find?_isSome (t : Table κ α) (key : κ) : (t.find? key).isSome ↔ key ∈ t.keys := by
  have entries (es : List (κ × α)) : (findEntry key es).isSome ↔ key ∈ es.map Prod.fst := by
    induction es with
    | nil => simp [findEntry]
    | cons e es ih =>
      by_cases h : e.1 = key
      · simp [findEntry, h]
      · have h' : ¬key = e.1 := fun he => h he.symm
        simp [findEntry, h, h', ih]
  exact entries t.entries

end Table

end UsageTree
