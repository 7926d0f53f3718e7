import UsageTree.Text

/-!
# Faults

The causes for which a report cannot be made.

## Main definitions

* `RecordField` — the fields of a file record.
* `Fault` — the causes.
* `Fault.message` — their wording.
-/

namespace UsageTree

/-- A field of a file record. -/
inductive RecordField where
  | nodeId
  | nodeName
  | path
  | size
  | lastChanged
  deriving Repr, DecidableEq

/-- The name under which a field is read and written. -/
def RecordField.key : RecordField → String
  | nodeId => "node_id"
  | nodeName => "node_name"
  | path => "path"
  | size => "size"
  | lastChanged => "last_changed"

/-- Why a report cannot be made. -/
inductive Fault where
  /-- A record lacks a field that is needed. -/
  | missingField (field : RecordField)
  /-- A path has no summary. -/
  | unknownPath (path : Text)
  /-- A node id holds a number that is no byte. -/
  | byteRange
  /-- A ratio of two sizes is past every finite number. -/
  | ratioOverflow
  /-- An integer has more digits than are written. -/
  | digitLimit
  /-- A name that has to be ordered holds a NUL. -/
  | embeddedNul
  /-- A moment falls outside the calendar once it is moved to another zone. -/
  | dateRange
  /-- A path lies below itself. -/
  | cycle
  deriving Repr, DecidableEq

/-- The wording of a fault. A missing thing is named and nothing more. -/
def Fault.message : Fault → Text
  | missingField field => field.key
  | unknownPath path => path
  | byteRange => "bytes must be in range(0, 256)"
  | ratioOverflow => "integer division result too large for a float"
  | digitLimit => "Exceeds the limit (" ++ toString Text.maxDigits ++ " digits) for integer " ++
      "string conversion; use sys.set_int_max_str_digits() to increase the limit"
  | embeddedNul => "embedded null character"
  | dateRange => "date value out of range"
  | cycle => "a path lies below itself"

end UsageTree
