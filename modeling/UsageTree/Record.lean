import UsageTree.LastChange
import UsageTree.NodeId

/-!
# File records

A record says how much one file takes up on one node. Records from outside may lack fields and may
hold any integers; what a report needs of them is asked for when it is needed.

## Main definitions

* `RawRecord` — a record as it comes, any field may be missing.
* `FileRecord` — a complete record.
* `Usage` — what a record adds to its node: a path, a size, a time of last change.
* `RawRecord.usage` — the usage of a record, or the first field that it lacks.
-/

namespace UsageTree

/-- A record as it comes. The id should consist of bytes, and nothing keeps the size from being
negative. -/
structure RawRecord where
  nodeId : Option (List Int)
  nodeName : Option Text
  path : Option Text
  size : Option Int
  lastChanged : LastChange
  deriving Repr, DecidableEq

/-- A complete record. -/
structure FileRecord where
  nodeId : NodeId
  nodeName : Option Text
  path : Text
  size : Int
  lastChanged : LastChange
  deriving Repr, DecidableEq

/-- What a file adds to every path that leads to it. -/
structure Usage where
  path : Text
  size : Int
  lastChanged : LastChange
  deriving Repr, DecidableEq

/-- A complete record seen as one that might lack fields. -/
def FileRecord.toRaw (r : FileRecord) : RawRecord where
  nodeId := some r.nodeId.toInts
  nodeName := r.nodeName
  path := some r.path
  size := some r.size
  lastChanged := r.lastChanged

namespace RawRecord

/-- The node's id. -/
def id (r : RawRecord) : Except Fault NodeId :=
  match r.nodeId with
  | some ns => NodeId.ofInts ns
  | none => .error (.missingField .nodeId)

/-- What the record adds to its node; a missing path is noticed before a missing size. -/
def usage (r : RawRecord) : Except Fault Usage :=
  match r.path, r.size with
  | some path, some size => .ok ⟨path, size, r.lastChanged⟩
  | some _, none => .error (.missingField .size)
  | none, _ => .error (.missingField .path)

end RawRecord

/-- An id is read from its own integers alone. -/
theorem RawRecord.id_eq_ok {r : RawRecord} {id : NodeId} :
    r.id = .ok id ↔ r.nodeId = some id.toInts := by
  unfold RawRecord.id
  cases r.nodeId <;> simp [NodeId.ofInts_eq_ok]

@[simp] theorem FileRecord.id_toRaw (r : FileRecord) : r.toRaw.id = .ok r.nodeId := by
  simp [toRaw, RawRecord.id]

/-- A complete record lacks nothing that its usage needs. -/
@[simp] theorem FileRecord.usage_toRaw (r : FileRecord) :
    r.toRaw.usage = .ok ⟨r.path, r.size, r.lastChanged⟩ := rfl

end UsageTree
