import UsageTree.Binary64
import UsageTree.Sorting
import UsageTree.Tally

/-!
# Entries

The entries of a node form a tree: an entry for every path, with the entries of the paths directly
below it, the largest first.

## Main definitions

* `Entry` — a path with its totals, its share of its parent, and the entries below it.
* `Entry.share` — a size in percent of a total.
* `Entry.under` — the entries below a path of a tally.
-/

namespace UsageTree

/-- A path with its totals and the entries below it. Entries may lie as deep inside each other as
paths have segments. A stack of 1000 calls would be exhausted by paths of nearly as many segments;
this is idealised away, and only bodies are limited, see `Service.maxNesting`. -/
structure Entry where
  path : Text
  name : Text
  size : Int
  itemCount : Nat
  lastChanged : LastChange
  /-- The size in percent of the size of the parent. -/
  percent : Binary64
  children : List Entry
  deriving Repr, Inhabited

namespace Entry

mutual

theorem children_induction {P : List Entry → Prop} (nil : P [])
    (cons : ∀ (e : Entry) (es : List Entry), P e.children → P es → P (e :: es)) :
    ∀ e : Entry, P e.children
  | ⟨_, _, _, _, _, _, children⟩ => level_induction nil cons children

/-- What holds of no entries, and of an entry with its next siblings once it holds of those below
the entry and of the siblings, holds of all lists of entries. -/
@[elab_as_elim] theorem level_induction {P : List Entry → Prop} (nil : P [])
    (cons : ∀ (e : Entry) (es : List Entry), P e.children → P es → P (e :: es)) :
    ∀ es : List Entry, P es
  | [] => nil
  | e :: es => cons e es (children_induction nil cons e) (level_induction nil cons es)

end

/-- A size in percent of a total: their ratio, which must be finite, times a hundred. Nothing is
zero percent of nothing. -/
def share (size total : Int) : Except Fault Binary64 :=
  if total = 0 then .ok 0
  else
    let ratio := Binary64.quotient size total
    if ratio.isFinite then .ok (ratio.times 100) else .error .ratioOverflow

/-- The summary of a path together with the path. -/
def measured (t : Tally) (path : Text) : Except Fault (Text × Summary) :=
  match t.summary? path with
  | some s => .ok (path, s)
  | none => .error (.unknownPath path)

/-- Paths with their summaries, by descending size; paths of one size keep their order. -/
def bySize (paths : List (Text × Summary)) : List (Text × Summary) :=
  Sorting.sort (fun a b => decide (b.2.size ≤ a.2.size)) paths

/-- The entries below a path, `fuel` levels deep at most. Summaries of all paths of a level are
looked up before any of its entries is made. -/
def levels (t : Tally) : (fuel : Nat) → (path : Text) → (total : Int) →
    Except Fault (List Entry)
  | 0, _, _ => .error .cycle
  | fuel + 1, path, total => do
    let paths ← (t.childrenOf path).mapM (measured t)
    (bySize paths).mapM fun (path, s) => do
      let percent ← share s.size total
      let children ← levels t fuel path s.size
      return ⟨path, Path.label path, s.size, s.itemCount, s.lastChanged, percent, children⟩

/-- The entries below a path; percentages are relative to `total`. A way down that visits no path
twice has at most as many steps as there are paths with something below them, so that running out
of levels means that a path lies below itself. -/
def under (t : Tally) (path : Text) (total : Int) : Except Fault (List Entry) :=
  levels t (t.children.keys.length + 1) path total

end Entry

end UsageTree
