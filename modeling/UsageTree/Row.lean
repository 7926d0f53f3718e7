import UsageTree.Binary64
import UsageTree.ByteSize
import UsageTree.LastChange
import UsageTree.Node

/-!
# Rows

The nodes of a report as the rows of a table that can be unfolded: a row for every node, below it
the rows of its entries, and below each of those the rows of its children, as far as rows are
open.

## Main definitions

* `Row` — what one row shows.
* `Expansion` — which rows are open.
* `Row.ofEntry`, `Row.ofEntries` — the rows of an entry and of a list of entries.
* `Row.ofNodes` — the rows of a report.
-/

namespace UsageTree

/-- What one row shows. -/
structure Row where
  id : Text
  /-- How many rows enclose this one. -/
  depth : Nat
  label : Text
  sublabel : Text
  percent : String
  size : String
  items : String
  lastChanged : Text
  hasChildren : Bool
  expanded : Bool
  deriving Repr, DecidableEq

/-- Which rows are open: all of them, or those with the given ids. -/
inductive Expansion where
  | everything
  | only (ids : List Text)
  deriving Repr, DecidableEq

/-- The row with an id is open, if it has children at all. -/
def Expansion.opens : Expansion → Text → Bool
  | everything, _ => true
  | only ids, id => ids.contains id

namespace Row

/-- The id of the row of a node. -/
def nodeId (node : Node) : Text := Text.ofString "node:" ++ node.id

/-- The id of the row of an entry below the node row `nodeId`. -/
def entryId (nodeId path : Text) : Text := nodeId ++ Text.ofString ":" ++ path

/-- The row of an entry alone. Its size is shown before its time of last change. -/
def entryRow (zone : Int) (x : Expansion) (nodeId : Text) (depth : Nat) (e : Entry) :
    Except Fault Row := do
  let id := entryId nodeId e.path
  let size ← ByteSize.text e.size
  let lastChanged ← e.lastChanged.display zone
  let hasChildren := !e.children.isEmpty
  return {
    id, depth, size, lastChanged, hasChildren
    label := e.name
    sublabel := e.path
    percent := e.percent.oneDecimal ++ "%"
    items := toString e.itemCount
    expanded := hasChildren && x.opens id }

mutual

/-- The row of an entry, followed by the rows below it if it is open. -/
def ofEntry (zone : Int) (x : Expansion) (nodeId : Text) (depth : Nat) :
    Entry → Except Fault (List Row)
  | ⟨path, name, size, itemCount, lastChanged, percent, children⟩ => do
    let row ← entryRow zone x nodeId depth
      ⟨path, name, size, itemCount, lastChanged, percent, children⟩
    let rows ← if row.expanded then ofEntries zone x nodeId (depth + 1) children else .ok []
    return row :: rows

/-- The rows of a list of entries, one after the other. -/
def ofEntries (zone : Int) (x : Expansion) (nodeId : Text) (depth : Nat) :
    List Entry → Except Fault (List Row)
  | [] => .ok []
  | e :: rest => do
    let rows ← ofEntry zone x nodeId depth e
    let more ← ofEntries zone x nodeId depth rest
    return rows ++ more

end

/-- The row of a node alone. -/
def nodeRow (x : Expansion) (node : Node) : Except Fault Row := do
  let id := nodeId node
  let size ← ByteSize.text node.totalSize
  let hasChildren := !node.entries.isEmpty
  return {
    id, size, hasChildren
    depth := 0
    label := node.name
    sublabel := node.id
    percent := "100%"
    items := "-"
    lastChanged := "-"
    expanded := hasChildren && x.opens id }

/-- The row of a node, followed by the rows of its entries if it is open. -/
def ofNode (zone : Int) (x : Expansion) (node : Node) : Except Fault (List Row) := do
  let row ← nodeRow x node
  let rows ← if row.expanded then ofEntries zone x (nodeId node) 1 node.entries else .ok []
  return row :: rows

/-- The rows of a report, in the order in which they are shown. -/
def ofNodes (zone : Int) (x : Expansion) (nodes : List Node) : Except Fault (List Row) := do
  let rows ← nodes.mapM (ofNode zone x)
  return rows.flatten

end Row

end UsageTree
