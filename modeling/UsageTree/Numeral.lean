import UsageTree.Text
import UsageTree.Text.Cut

/-!
# Integers in texts

A numeral is an integer in its usual form: digits, of which the first is no zero unless it is the
only one, behind a minus sign or none. A text that is no numeral is cleaned once and must be one
then.

## Main definitions

* `Numeral.plain` — the integer of a numeral.
* `Numeral.clean?` — a text without blanks, sign, leading zeros, empty fraction and underscores.
* `Numeral.read` — the integer of a text.
-/

namespace UsageTree.Numeral

/-- Why a text is no integer. -/
inductive Refusal where
  | malformed
  | tooLong
  deriving Repr, DecidableEq

/-! ## Numerals -/

/-- The integer of a numeral without its sign. Too many digits are noticed before what follows
them. -/
def natural (ds : Text) : Except Refusal Nat :=
  let lead := ds.takeWhile Text.isDigit
  match lead with
  | [] => .error .malformed
  | d :: _ =>
    if d = '0' then if ds = [d] then .ok 0 else .error .malformed
    else if Text.maxDigits < lead.length then .error .tooLong
    else if lead = ds then .ok (Text.digitsValue ds)
    else .error .malformed

/-- The integer of a numeral. -/
def plain : Text → Except Refusal Int
  | [] => .error .malformed
  | c :: rest =>
    if c = '-' then do
      let n ← natural rest
      return -n
    else do
      let n ← natural (c :: rest)
      return n

/-! ## Cleaning -/

/-- What is left behind leading zeros, of which `last` was read last. Underscores count as zeros.
The last character stays if nothing follows, or if a point does. -/
def dropZeros? (last : CodePoint) : Text → Option Text
  | [] => some [last]
  | c :: rest =>
    if c = '0' ∨ c = '_' then dropZeros? c rest
    else if c = '.' then some (last :: c :: rest)
    else if c = '-' ∨ Text.isDigit c then some (c :: rest)
    else none

/-- A text that starts with a digit, without leading zeros. -/
def unpadded? : Text → Option Text
  | [] => none
  | c :: rest =>
    if c = '0' then dropZeros? c rest else if Text.isDigit c then some (c :: rest) else none

/-- The text in front of its first point, if only zeros follow that, at least one. -/
def dropFraction (t : Text) : Text :=
  let isWhole (c : CodePoint) : Bool := c != '.'
  match t.dropWhile isWhole with
  | _ :: z :: zeros => if (z :: zeros).all (· == '0') then t.takeWhile isWhole else t
  | _ => t

/-- The text without its underscores, if each of them divides two other characters. -/
def dropUnderscores (t : Text) : Text :=
  let groups := Text.cut '_' t
  if groups.all (· ≠ []) then groups.flatten else t

/-- The sign of a text, which is negative or not, and the rest. -/
def splitSign : Text → Bool × Text
  | [] => (false, [])
  | c :: rest =>
    if c = '-' then (true, rest) else if c = '+' then (false, rest) else (false, c :: rest)

/-- The text cleaned: white space around it goes, then a plus sign, leading zeros, a fraction of
zeros, and underscores. A minus sign stays in front. -/
def clean? (t : Text) : Option Text := do
  let (negative, rest) := splitSign (Text.trim Text.isSpace t)
  let rest ← unpadded? rest
  let rest := dropUnderscores (dropFraction rest)
  return if negative then '-' :: rest else rest

/-! ## Reading -/

/-- The integer of a numeral, or of a text that is one once it is cleaned. The second try has one
reason to fail. -/
def read (t : Text) : Except Refusal Int :=
  match plain t with
  | .ok n => .ok n
  | .error .tooLong => .error .tooLong
  | .error .malformed =>
    match clean? t with
    | none => .error .malformed
    | some t => (plain t).mapError fun _ => .malformed

end UsageTree.Numeral
