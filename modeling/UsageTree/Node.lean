import UsageTree.Collation
import UsageTree.Entry

/-!
# Nodes

Records are divided by the id of their node in one pass. Groups stand in the order in which their
ids are first met, and records keep their order inside a group. A report has one tree for every
node, and nodes are ordered by name.

## Main definitions

* `Group` — the records of one node, and `Group.name`, the node's name.
* `Group.ofRecords` — the groups of a list of records.
* `Node` — a node with its total size and its entries.
* `Node.ofGroup` — the node of a group of records.
* `Node.report` — the nodes of a list of records.
-/

namespace UsageTree

/-! ## Groups -/

/-- The records of one node. -/
structure Group where
  id : NodeId
  records : List RawRecord
  deriving Repr, DecidableEq

namespace Group

/-- The name that a record gives its node, if it gives one that is not empty. -/
def givenName? (r : RawRecord) : Option Text := r.nodeName.filter (· ≠ [])

/-- The first name that a record gives the node; a node that no record names goes by its id. -/
def name (g : Group) : Text := (g.records.findSome? givenName?).getD g.id.display

/-- A record with the id of its node. -/
def keyed (r : RawRecord) : Except Fault (NodeId × RawRecord) := do
  let id ← r.id
  return (id, r)

/-- The groups of records whose ids are known. -/
def ofKeyed (records : List (NodeId × RawRecord)) : List Group :=
  (Table.collect records).entries.map fun (id, rs) => ⟨id, rs.toList⟩

/-- The groups of a list of records; the first record without a proper id is a fault. -/
def ofRecords (records : List RawRecord) : Except Fault (List Group) := do
  let keyed ← records.mapM keyed
  return ofKeyed keyed

end Group

/-! ## Reports -/

/-- A node with its entries. -/
structure Node where
  name : Text
  /-- The id as it is shown. -/
  id : Text
  totalSize : Int
  entries : List Entry
  deriving Repr, Inhabited

namespace Node

/-- The node of a group. Records are asked for their usage before anything is added up. -/
def ofGroup (g : Group) : Except Fault Node := do
  let usages ← g.records.mapM RawRecord.usage
  let tally := Tally.ofUsages usages
  let total := tally.root.size
  let entries ← Entry.under tally [] total
  return ⟨g.name, g.id.display, total, entries⟩

/-- The nodes of a list of records, ordered by name; nodes of one name keep the order in which
their ids are first met. -/
def report (records : List RawRecord) : Except Fault (List Node) := do
  let groups ← Group.ofRecords records
  let nodes ← groups.mapM ofGroup
  Collation.sortBy Node.name nodes

end Node

end UsageTree
