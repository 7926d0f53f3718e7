import UsageTree.Binary64
import UsageTree.Table
import UsageTree.Text

/-!
# JSON values

Numbers written without a point and without an exponent are integers of any size; all others are
binary64 numbers. An object keeps its fields in order and has every key once.

## Main definitions

* `Json` — the values.
* `Json.field?` — a field of an object.
* `Json.withinDigits` — no integer of a value has more digits than a limit.
* `Json.same` — whether two values are the same, decided part by part.
-/

namespace UsageTree

/-- A JSON value. -/
inductive Json where
  | null
  | bool (b : Bool)
  | int (n : Int)
  | float (x : Binary64)
  | text (s : Text)
  | list (items : List Json)
  | object (fields : List (Text × Json))
  deriving Repr, Inhabited

namespace Json

/-- The field of an object under a key; other values have no fields. -/
def field? : Json → Text → Option Json
  | object fields, key => Table.findEntry key fields
  | _, _ => none

/-- The text, or null if there is none. -/
def ofText? : Option Text → Json
  | none => null
  | some s => text s

mutual

/-- No integer of the value has more than `k` digits. -/
def withinDigits (k : Nat) : Json → Bool
  | int n => n.natAbs < Nat.pow 10 k
  | list items => allWithinDigits k items
  | object fields => fieldsWithinDigits k fields
  | _ => true

/-- No integer of the values has more than `k` digits. -/
def allWithinDigits (k : Nat) : List Json → Bool
  | [] => true
  | v :: rest => withinDigits k v && allWithinDigits k rest

/-- No integer of the fields has more than `k` digits. -/
def fieldsWithinDigits (k : Nat) : List (Text × Json) → Bool
  | [] => true
  | (_, v) :: rest => withinDigits k v && fieldsWithinDigits k rest

end

/-! ## Equality -/

mutual

/-- The values are the same. -/
def same : Json → Json → Bool
  | null, null => true
  | bool a, bool b => a == b
  | int m, int n => m == n
  | float x, float y => x == y
  | text s, text t => s == t
  | list items, list items' => allSame items items'
  | object fields, object fields' => fieldsSame fields fields'
  | _, _ => false

/-- The lists have the same values in the same order. -/
def allSame : List Json → List Json → Bool
  | [], [] => true
  | v :: rest, v' :: rest' => same v v' && allSame rest rest'
  | _, _ => false

/-- The fields have the same keys and the same values in the same order. -/
def fieldsSame : List (Text × Json) → List (Text × Json) → Bool
  | [], [] => true
  | (k, v) :: rest, (k', v') :: rest' => k == k' && same v v' && fieldsSame rest rest'
  | _, _ => false

end

mutual

theorem same_iff : (v v' : Json) → (same v v' ↔ v = v')
  | null, v' | bool _, v' | int _, v' | float _, v' | text _, v' => by cases v' <;> simp [same]
  | list items, v' => by cases v' <;> simp [same, allSame_iff items]
  | object fields, v' => by cases v' <;> simp [same, fieldsSame_iff fields]

theorem allSame_iff : (items items' : List Json) → (allSame items items' ↔ items = items')
  | [], items' => by cases items' <;> simp [allSame]
  | v :: rest, items' => by cases items' <;> simp [allSame, same_iff v, allSame_iff rest]

theorem fieldsSame_iff :
    (fields fields' : List (Text × Json)) → (fieldsSame fields fields' ↔ fields = fields')
  | [], fields' => by cases fields' <;> simp [fieldsSame]
  | (k, v) :: rest, fields' => by
    cases fields' <;> simp [fieldsSame, same_iff v, fieldsSame_iff rest, Prod.ext_iff]

end

instance : DecidableEq Json := fun v v' => decidable_of_iff (same v v') (same_iff v v')

end Json

end UsageTree
