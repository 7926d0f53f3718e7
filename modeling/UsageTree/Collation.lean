import UsageTree.Fault
import UsageTree.Sorting
import UsageTree.Text.Normalization

/-!
# Ordering names

Names are ordered without regard to case and accents first, and among names that agree so far by
their own code points.

## Main definitions

* `Collation.fold` — a name without case and accents.
* `Collation.Key` — what names are ordered by; `Collation.Key.le` is the order.
* `Collation.key` — the key of a name.
* `Collation.sortBy` — things in the order of their names.
-/

namespace UsageTree.Collation

/-- A name without case and accents: folded, taken apart, and without the marks that attach to a
letter. -/
def fold (name : Text) : Text :=
  (Text.compatible (Text.foldCase name)).filter (Text.combiningClass · == 0)

/-- What names are ordered by. -/
structure Key where
  folded : Text
  name : Text
  deriving Repr, DecidableEq

/-- Folded names come first, names themselves decide between equal ones. -/
def Key.le (a b : Key) : Bool :=
  if a.folded = b.folded then Text.le a.name b.name else Text.le a.folded b.folded

/-- The key of a name; a name with a NUL has none. -/
def key (name : Text) : Except Fault Key :=
  if ('\x00' : CodePoint) ∈ name then .error .embeddedNul else .ok ⟨fold name, name⟩

variable {α : Type}

/-- A thing with the key of its name. -/
def keyed (name : α → Text) (a : α) : Except Fault (Key × α) := do
  let k ← key (name a)
  return (k, a)

/-- The things in the order of their names; things of one name keep their order. -/
def sortBy (name : α → Text) (as : List α) : Except Fault (List α) := do
  let keyed ← as.mapM (keyed name)
  return (Sorting.sort (fun a b => a.1.le b.1) keyed).map Prod.snd

end UsageTree.Collation
