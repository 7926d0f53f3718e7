import UsageTree.Binary64
import UsageTree.Fault

/-!
# Sizes in readable units

A size below 1024 is a whole number of bytes. Larger ones are shown with one decimal in the first
unit in which they are below 1024, or in the last unit.

## Main definitions

* `ByteSize.climb` — the unit for a number and the number in it.
* `ByteSize.text` — the text of a size.
-/

namespace UsageTree.ByteSize

/-- The units above the first kilobyte, each 1024 of the one before. -/
def higherUnits : List String := ["MB", "GB", "TB"]

/-- The number and its unit after moving up while the number is 1024 or more. -/
def climb (x : Binary64) (unit : String) : List String → Binary64 × String
  | [] => (x, unit)
  | next :: rest => if x.atLeast 1024 then climb (x.per 1024) next rest else (x, unit)

/-- The text of a size of 1024 bytes or more, given in kilobytes. -/
def scaledText (kilobytes : Binary64) : String :=
  let r := climb kilobytes "KB" higherUnits
  r.1.oneDecimal ++ " " ++ r.2

/-- The text of a size in bytes. A number of bytes must not have too many digits, and a number of
kilobytes must be finite. -/
def text (size : Int) : Except Fault String :=
  if size < 1024 then
    if size.natAbs < Text.digitBound then .ok (toString size ++ " B") else .error .digitLimit
  else
    let kilobytes := Binary64.quotient size 1024
    if kilobytes.isFinite then .ok (scaledText kilobytes) else .error .ratioOverflow

end UsageTree.ByteSize
