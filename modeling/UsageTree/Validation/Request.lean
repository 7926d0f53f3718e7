import UsageTree.Validation.Record

/-!
# Checking requests

A request is an object with a list of records under `files` and, if it likes, a list of row ids
under `expanded`. What is wrong with any record and any id is reported together.

## Main definitions

* `Request.ofJson` — the request of a value, or what is wrong with it.
* `RequestErrors` — errors by field, record and id.
-/

namespace UsageTree

/-- What a client asks for. -/
structure Request where
  files : List FileRecord
  /-- The ids of the rows that are open; all are if there is no list. -/
  expanded : Option (List Text)
  deriving Repr, DecidableEq

/-- The field that holds the records. -/
def Request.filesKey : Text := "files"

/-- The field that holds the ids of open rows. -/
def Request.expandedKey : Text := "expanded"

/-- What is wrong with an item of a list of records. -/
inductive ItemErrors where
  | null
  | record (errors : RecordErrors)
  deriving Repr, DecidableEq

/-- An item is reported like a value or like a record. -/
def ItemErrors.toJson : ItemErrors → Json
  | null => Violation.null.toJson
  | record errors => errors.toJson

/-- What is wrong with a request. -/
inductive RequestErrors where
  | notObject
  | fields (files : Option (ListErrors ItemErrors)) (expanded : Option (ListErrors Violation))
  deriving Repr, DecidableEq

namespace RequestErrors

/-- Errors are reported under the names of the fields. -/
def toJson : RequestErrors → Json
  | notObject => RecordErrors.notObject.toJson
  | fields files expanded => .object
    ((files.map fun e => (Request.filesKey, e.toJson ItemErrors.toJson)).toList ++
      (expanded.map fun e => (Request.expandedKey, e.toJson Violation.toJson)).toList)

end RequestErrors

namespace Request

/-- One record of a list. -/
def readItem (limit : Int) : Json → Except ItemErrors FileRecord
  | .null => .error .null
  | v => (FileRecord.ofJson limit v).mapError .record

/-- The records of a request, which must be there. -/
def readFiles (limit : Int) : Option Json → Except (ListErrors ItemErrors) (List FileRecord)
  | none => .error (.whole .missing)
  | some .null => .error (.whole .null)
  | some v => readList (readItem limit) v

/-- The ids of a request, which may be missing or null. -/
def readExpanded : Option Json → Except (ListErrors Violation) (Option (List Text))
  | none | some .null => .ok none
  | some v => (readList (fun item => required readText (some item)) v).map some

/-- The error of a result, if it is one. -/
def error? {ε α : Type} : Except ε α → Option ε
  | .ok _ => none
  | .error e => some e

/-- The request of a value, with paths of at most `limit` pieces. -/
def ofJson (limit : Int) : Json → Except RequestErrors Request
  | .object fields =>
    let files := readFiles limit (Table.findEntry filesKey fields)
    let expanded := readExpanded (Table.findEntry expandedKey fields)
    match files, expanded with
    | .ok files, .ok expanded => .ok { files, expanded }
    | files, expanded => .error (.fields (error? files) (error? expanded))
  | _ => .error .notObject

/-- The written request. -/
def toJson (r : Request) : Json := .object [
  (filesKey, .list (r.files.map FileRecord.toJson)),
  (expandedKey, match r.expanded with
    | none => .null
    | some ids => .list (ids.map .text))]

end Request

end UsageTree
