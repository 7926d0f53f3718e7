import UsageTree.Path
import UsageTree.Record
import UsageTree.Table

/-!
# Tallies

The tally of a node's files keeps a summary for every path and the paths directly below every path.
It is made in one pass: a file adds itself to each path of its chain, so that in the end a path has
the totals of everything beneath it.

## Main definitions

* `Summary` — total size, number of files and latest change.
* `Tally` — summaries by path, and the paths below each path.
* `Tally.add` — enter one file.
* `Tally.ofUsages` — the tally of a list of files.
-/

namespace UsageTree

/-- What is known of a set of files. -/
structure Summary where
  size : Int
  itemCount : Nat
  lastChanged : LastChange
  deriving Repr, DecidableEq, Inhabited

namespace Summary

/-- The summary of no files. -/
def empty : Summary := ⟨0, 0, none⟩

/-- The summary with one file more. -/
def add (s : Summary) (u : Usage) : Summary where
  size := s.size + u.size
  itemCount := s.itemCount + 1
  lastChanged := s.lastChanged.latest u.lastChanged

end Summary

/-- Summaries and edges of the paths of one node. -/
structure Tally where
  /-- The summary of every path met, in order of discovery. -/
  summaries : Table Text Summary
  /-- The paths directly below a path, in order of discovery. -/
  children : Table Text (List Text)
  deriving Repr, DecidableEq

namespace Tally

/-- The tally of no files. -/
def empty : Tally := ⟨Table.empty, Table.empty⟩

/-- The paths of a list with `path` among them; a new one goes to the end. -/
def withPath (paths : List Text) (path : Text) : List Text :=
  if path ∈ paths then paths else paths ++ [path]

/-- Summaries with one file added to `path`. -/
def count (u : Usage) (summaries : Table Text Summary) (path : Text) : Table Text Summary :=
  summaries.alter path fun s => (s.getD Summary.empty).add u

/-- Edges with the edge from a parent to a child. -/
def link (children : Table Text (List Text)) (edge : Text × Text) :
    Table Text (List Text) :=
  children.alter edge.1 fun paths => withPath (paths.getD []) edge.2

/-- The tally with one file more: it counts on every path of its chain, and each path of the chain
is below the one before. -/
def add (t : Tally) (u : Usage) : Tally :=
  let chain := Path.chain (Path.clean u.path)
  { summaries := chain.foldl (count u) t.summaries
    children := (chain.zip chain.tail).foldl link t.children }

/-- The tally of a list of files. -/
def ofUsages (usages : List Usage) : Tally := usages.foldl add empty

/-- The summary of a path. -/
def summary? (t : Tally) (path : Text) : Option Summary := t.summaries.find? path

/-- The paths directly below a path. -/
def childrenOf (t : Tally) (path : Text) : List Text := (t.children.find? path).getD []

/-- The summary of the whole node. -/
def root (t : Tally) : Summary := (t.summary? []).getD Summary.empty

end Tally

end UsageTree
