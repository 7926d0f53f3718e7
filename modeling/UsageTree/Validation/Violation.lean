import UsageTree.Json

/-!
# Violations

What can be wrong with a value that a request gives.

## Main definitions

* `Violation` — the kinds, and `Violation.message`, their wording.
* `ListErrors` — what is wrong with a list: the list itself, or some of its items.
-/

namespace UsageTree

/-- What is wrong with a value. -/
inductive Violation where
  | missing
  | null
  | notNodeId
  | notText
  | notInteger
  | negative
  | notList
  | tooDeep (depth : Nat) (limit : Int)
  deriving Repr, DecidableEq

namespace Violation

/-- The wording of a violation. -/
def message : Violation → String
  | missing => "Missing data for required field."
  | null => "Field may not be null."
  | notNodeId => "Not a valid node id."
  | notText => "Not a valid string."
  | notInteger => "Not a valid integer."
  | negative => "Must be greater than or equal to 0."
  | notList => "Not a valid list."
  | tooDeep depth limit =>
    "Path is nested " ++ toString depth ++ " levels deep, limit is " ++ toString limit ++ "."

/-- Violations of a value are reported as a list. -/
def toJson (v : Violation) : Json := .list [.text v.message]

end Violation

/-! ## Readers of values -/

/-- A value that must be there and must not be null. -/
def required {α : Type} (read : Json → Except Violation α) : Option Json → Except Violation α
  | none => .error .missing
  | some .null => .error .null
  | some v => read v

/-- A value that may be missing or null. -/
def optional {α : Type} (read : Json → Except Violation α) :
    Option Json → Except Violation (Option α)
  | none | some .null => .ok none
  | some v => (read v).map some

/-- A text. -/
def readText : Json → Except Violation Text
  | .text s => .ok s
  | _ => .error .notText

/-! ## Lists -/

/-- What is wrong with a list: the list as a whole, or items with their positions. -/
inductive ListErrors (ε : Type) where
  | whole (v : Violation)
  | items (errors : List (Nat × ε))
  deriving Repr, DecidableEq

namespace ListErrors

variable {ε : Type}

/-- Items are reported under their positions. -/
def toJson (item : ε → Json) : ListErrors ε → Json
  | whole v => v.toJson
  | items errors => .object (errors.map fun (i, e) => (toString i, item e))

end ListErrors

/-- The results of a list, or the errors with their positions. -/
def collect {ε α : Type} (results : List (Except ε α)) : Except (List (Nat × ε)) (List α) :=
  let errors := results.zipIdx.filterMap fun
    | (.error e, i) => some (i, e)
    | (.ok _, _) => none
  if errors.isEmpty then
    .ok (results.filterMap fun
      | .ok a => some a
      | .error _ => none)
  else .error errors

/-- A list whose items are read one by one; the errors of all items are reported together. -/
def readList {ε α : Type} (read : Json → Except ε α) : Json → Except (ListErrors ε) (List α)
  | .list items => (collect (items.map read)).mapError .items
  | _ => .error (.whole .notList)

end UsageTree
