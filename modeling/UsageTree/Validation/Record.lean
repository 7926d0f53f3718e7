import UsageTree.Path
import UsageTree.Record
import UsageTree.Validation.Violation

/-!
# Checking file records

A record comes as an object. Each field is checked on its own, and all violations are reported
together; unknown fields do not count.

## Main definitions

* `FileRecord.ofJson` — the record of a value, or what is wrong with it.
* `RecordErrors` — violations by field.
* `PartialRecord` — a record of which any field may be missing or null, and how it is written.
-/

namespace UsageTree

/-- What is wrong with a record. -/
inductive RecordErrors where
  | notObject
  | fields (violations : List (RecordField × Violation))
  deriving Repr, DecidableEq

/-- Violations are reported under the keys of their fields. -/
def RecordErrors.toJson : RecordErrors → Json
  | notObject => .object [("_schema", .list [.text "Invalid input type."])]
  | fields violations => .object (violations.map fun (f, v) => (f.key, v.toJson))

namespace FileRecord

/-! ## Fields -/

/-- The integers of a list of values. -/
def readInts? (items : List Json) : Option (List Int) :=
  items.mapM fun
    | .int n => some n
    | _ => none

/-- A node id: a text of hexadecimal digits, or a list of bytes. -/
def readNodeId : Json → Except Violation NodeId
  | .text s =>
    match Hex.decode? s with
    | some bytes => .ok ⟨bytes⟩
    | none => .error .notNodeId
  | .list items =>
    match (readInts? items).bind NodeId.ofInts? with
    | some id => .ok id
    | none => .error .notNodeId
  | _ => .error .notNodeId

/-- A path with at most `limit` pieces. -/
def readPath (limit : Int) : Json → Except Violation Text
  | .text s =>
    let d := Path.depth (Path.clean s)
    if limit < d then .error (.tooDeep d limit) else .ok s
  | _ => .error .notText

/-- A size: an integer that is not negative. -/
def readSize : Json → Except Violation Int
  | .int n => if n < 0 then .error .negative else .ok n
  | _ => .error .notInteger

/-! ## Records -/

/-- The violation of a field, if there is one. -/
def violation? {α : Type} (field : RecordField) :
    Except Violation α → Option (RecordField × Violation)
  | .ok _ => none
  | .error v => some (field, v)

/-- The record of a value, with paths of at most `limit` pieces. -/
def ofJson (limit : Int) : Json → Except RecordErrors FileRecord
  | .object fields =>
    let get (f : RecordField) := Table.findEntry (Text.ofString f.key) fields
    let nodeId := required readNodeId (get .nodeId)
    let nodeName := optional readText (get .nodeName)
    let path := required (readPath limit) (get .path)
    let size := required readSize (get .size)
    let lastChanged := optional readText (get .lastChanged)
    match nodeId, nodeName, path, size, lastChanged with
    | .ok nodeId, .ok nodeName, .ok path, .ok size, .ok lastChanged =>
      .ok { nodeId, nodeName, path, size, lastChanged }
    | nodeId, nodeName, path, size, lastChanged =>
      .error (.fields ([violation? .nodeId nodeId, violation? .nodeName nodeName,
        violation? .path path, violation? .size size,
        violation? .lastChanged lastChanged].filterMap fun v => v))
  | _ => .error .notObject

end FileRecord

/-! ## Writing -/

/-- A record of which any field may be missing or null. -/
structure PartialRecord where
  nodeId : Option (Option (List Int))
  nodeName : Option (Option Text)
  path : Option (Option Text)
  size : Option (Option Int)
  lastChanged : Option (Option Text)
  deriving Repr, DecidableEq

namespace PartialRecord

/-- A field that is there, with its value written by `write`. -/
def field {α : Type} (key : RecordField) (write : α → Json) :
    Option (Option α) → List (Text × Json)
  | none => []
  | some none => [(key.key, .null)]
  | some (some a) => [(key.key, write a)]

/-- The written record: its fields that are there, the node id in hexadecimal digits. -/
def toJson (r : PartialRecord) : Except Fault Json := do
  let id ← match r.nodeId with
    | some (some ns) => (NodeId.ofInts ns).map fun id => some (some id.hex)
    | some none => .ok (some none)
    | none => .ok none
  return .object (field .nodeId .text id ++ field .nodeName .text r.nodeName ++
    field .path .text r.path ++ field .size .int r.size ++ field .lastChanged .text r.lastChanged)

end PartialRecord

namespace FileRecord

/-- A complete record as one in which no field is missing. -/
def toPartial (r : FileRecord) : PartialRecord where
  nodeId := some (some r.nodeId.toInts)
  nodeName := some r.nodeName
  path := some (some r.path)
  size := some (some r.size)
  lastChanged := some r.lastChanged

/-- The written record. -/
def toJson (r : FileRecord) : Json := .object [
  (RecordField.nodeId.key, .text r.nodeId.hex),
  (RecordField.nodeName.key, .ofText? r.nodeName),
  (RecordField.path.key, .text r.path),
  (RecordField.size.key, .int r.size),
  (RecordField.lastChanged.key, .ofText? r.lastChanged)]

/-- A complete record is written as one in which no field is missing. -/
theorem toJson_toPartial (r : FileRecord) : r.toPartial.toJson = .ok r.toJson := by
  obtain ⟨id, nodeName, path, size, lastChanged⟩ := r
  cases nodeName <;> cases lastChanged <;>
    simp [PartialRecord.toJson, toPartial, toJson, PartialRecord.field, Except.map, bind,
      Except.bind, pure, Except.pure, Json.ofText?]

end FileRecord

end UsageTree
