import UsageTree.Text.Encoding
import UsageTree.Time.Calendar

/-!
# Reading dates and times

Dates and times in the notations of ISO 8601: a calendar or week date, with or without dashes, then
one character of any kind and a time of day, possibly with a fraction and an offset from UTC.

The text is read as bytes in UTF-8. A position past the end holds a zero byte.

## Main definitions

* `Reading` — a date, a time of day and possibly an offset.
* `Reading.dateEnd?` — where the date ends, told from the layout alone.
* `Reading.clock?` — a time of day between two positions.
* `Reading.ofText?` — the reading of a text; `Z` stands for the offset `+00:00`.
-/

namespace UsageTree

/-- Hours, minutes, seconds and microseconds. -/
structure Clock where
  hour : Nat
  minute : Nat
  second : Nat
  micro : Nat
  deriving Repr, DecidableEq

/-- The whole seconds since midnight. -/
def Clock.seconds (c : Clock) : Nat := c.hour * 3600 + c.minute * 60 + c.second

/-- The microseconds since midnight. -/
def Clock.micros (c : Clock) : Nat := c.seconds * 1000000 + c.micro

/-- The time exists on a day of 24 hours. -/
def Clock.Valid (c : Clock) : Prop := c.hour ≤ 23 ∧ c.minute ≤ 59 ∧ c.second ≤ 59

instance (c : Clock) : Decidable c.Valid := by unfold Clock.Valid; infer_instance

/-- A date and a time of day, and the offset from UTC in microseconds if one is given. -/
structure Reading where
  date : Date
  clock : Clock
  offset : Option Int
  deriving Repr, DecidableEq

namespace Reading

/-! ## Bytes -/

/-- The byte at a position, zero past the end. -/
def byteAt (b : List UInt8) (i : Nat) : UInt8 := b.getD i 0

/-- The byte of an ASCII character. -/
def ascii (c : Char) : UInt8 := UInt8.ofNat c.toNat

def isDigit (b : UInt8) : Bool := ascii '0' ≤ b && b ≤ ascii '9'

/-- The number written in `k` digits from position `i` on. -/
def number? (b : List UInt8) (i : Nat) : Nat → Option Nat
  | 0 => some 0
  | k + 1 => do
    let high ← number? b i k
    if isDigit (byteAt b (i + k)) then some (10 * high + (byteAt b (i + k)).toNat - 48) else none

/-- The first position from `i` on whose byte fails `p`, or the end. -/
def skip (p : UInt8 → Bool) (b : List UInt8) (i : Nat) : Nat :=
  i + ((b.drop i).takeWhile p).length

/-! ## Date -/

/-- Where the date ends. The layout is told from the dash or the week mark after the year and, for
week dates, from the digits that follow. -/
def dateEnd? (b : List UInt8) : Option Nat :=
  if b.length < 7 then none
  else if b.length = 7 then some 7
  else if byteAt b 4 = ascii '-' then
    if byteAt b 5 = ascii 'W' then
      if byteAt b 8 = ascii '-' then
        if b.length = 9 then none
        else if isDigit (byteAt b 10) then some 8
        else some 10
      else some 8
    else some 10
  else if byteAt b 4 = ascii 'W' then
    let digits := skip isDigit b 7
    if digits < 9 then some digits else if digits % 2 = 0 then some 7 else some 8
  else some 8

/-- The position after the separator between two parts of a date: a dash, or nothing. -/
def separator? (dashed : Bool) (b : List UInt8) (i : Nat) : Option Nat :=
  if dashed then if byteAt b i = ascii '-' then some (i + 1) else none else some i

/-- The date at the start of a text, which ends at `stop`. A week without a weekday begins on
Monday. -/
def date? (b : List UInt8) (stop : Nat) : Option Date := do
  let year ← number? b 0 4
  let dashed := byteAt b 4 == ascii '-'
  let i := if dashed then 5 else 4
  if byteAt b i = ascii 'W' then
    let week ← number? b (i + 1) 2
    if i + 3 < stop then
      let j ← separator? dashed b (i + 3)
      let day ← number? b j 1
      Date.ofWeek? year week day
    else Date.ofWeek? year week 1
  else
    let month ← number? b i 2
    let j ← separator? dashed b (i + 2)
    let day ← number? b j 2
    if Date.Valid ⟨year, month, day⟩ then some ⟨year, month, day⟩ else none

/-! ## Time of day -/

/-- What follows two digits of a time of day. -/
inductive Follow where
  /-- The end; a flag tells whether something stands there all the same. -/
  | stop (junk : Bool)
  /-- The next two digits, at a position. -/
  | field (i : Nat)
  /-- A fraction of a second, at a position. -/
  | fraction (i : Nat)
  deriving Repr, DecidableEq

/-- What follows at position `i` in a time that ends at `stop`. One byte is read even at the end. -/
def follow? (b : List UInt8) (stop : Nat) (colons : Bool) (i : Nat) : Option Follow :=
  let c := byteAt b i
  if stop ≤ i + 1 then some (.stop (c != 0))
  else if colons ∧ c = ascii ':' then some (.field (i + 1))
  else if c = ascii '.' ∨ c = ascii ',' then some (.fraction (i + 1))
  else if colons then none
  else some (.field i)

/-- The microseconds of a fraction, of which six digits count, and whether something other than a
digit stands behind it. -/
def fraction? (b : List UInt8) (stop i : Nat) : Option (Nat × Bool) := do
  let k := min 6 (stop - i)
  let v ← number? b i k
  some (v * Nat.pow 10 (6 - k), byteAt b (skip isDigit b (i + k)) != 0)

/-- Up to `k` fields of two digits from position `i` on, then a fraction. A fraction may follow any
field and is always one of a second. -/
def fields? (b : List UInt8) (stop : Nat) (colons : Bool) :
    (k i : Nat) → Option (List Nat × Nat × Bool)
  | 0, i => do
    let f ← fraction? b stop i
    some ([], f)
  | k + 1, i => do
    let v ← number? b i 2
    match ← follow? b stop colons (i + 2) with
    | .stop junk => some ([v], 0, junk)
    | .fraction j =>
      let f ← fraction? b stop j
      some ([v], f)
    | .field j =>
      let r ← fields? b stop colons k j
      some (v :: r.1, r.2)

/-- The time of day from `i` to `stop`, and whether junk follows it. The byte after the hour tells
whether fields are divided by colons. -/
def clock? (b : List UInt8) (i stop : Nat) : Option (Clock × Bool) := do
  let r ← fields? b stop (byteAt b (i + 2) == ascii ':') 3 i
  some (⟨r.1.getD 0 0, r.1.getD 1 0, r.1.getD 2 0, r.2.1⟩, r.2.2)

/-! ## Offset -/

/-- The microseconds of 24 hours. -/
def dayMicros : Nat := 24 * 3600 * 1000000

/-- The offset that a sign and a time of day stand for. It is less than 24 hours either way, and
without whole seconds it is none at all. -/
def offset? (negative : Bool) (c : Clock) : Option Int :=
  if c.seconds = 0 then some 0
  else if c.micros < dayMicros then some (if negative then -c.micros else c.micros)
  else none

/-- The time of day and the offset from `i` to the end. The offset begins at the first sign. What
stands between the time of day and a sign is passed over. -/
def time? (b : List UInt8) (i : Nat) : Option (Clock × Option Int) := do
  let zone := skip (fun c => c != ascii '+' && c != ascii '-') b i
  let (clock, junk) ← clock? b i zone
  if zone < b.length then
    let (shift, junk) ← clock? b (zone + 1) b.length
    if junk then none
    else
      let offset ← offset? (byteAt b zone == ascii '-') shift
      some (clock, some offset)
  else if junk then none
  else some (clock, none)

/-! ## The whole text -/

/-- The length in bytes of a character, told from its first byte. -/
def charLength (first : UInt8) : Nat :=
  if first < 0x80 then 1 else if first < 0xe0 then 2 else if first < 0xf0 then 3 else 4

/-- The reading of a date, alone or followed by one character and a time. -/
def ofBytes? (b : List UInt8) : Option Reading := do
  let stop ← dateEnd? b
  let date ← date? b stop
  if stop < b.length then
    let i := stop + charLength (byteAt b stop)
    if i < b.length then
      let (clock, offset) ← time? b i
      if clock.Valid then some ⟨date, clock, offset⟩ else none
    else none
  else some ⟨date, ⟨0, 0, 0, 0⟩, none⟩

/-- The text with every `Z` spelt out as an offset. -/
def expandZ (t : Text) : Text := t.flatMap fun (c : CodePoint) => if c = 'Z' then "+00:00" else [c]

/-- The text with a letter in place of the first surrogate at one of the three positions where a
date can end. -/
def mendSeparator (t : Text) : Text :=
  match [7, 8, 10].find? fun i => (t[i]?).any CodePoint.isSurrogate with
  | some i => t.set i 'T'
  | none => t

/-- The reading of a text. A surrogate can separate date and time and stand nowhere else. -/
def ofText? (text : Text) : Option Reading :=
  let t := mendSeparator (expandZ text)
  if t.any CodePoint.isSurrogate then none else ofBytes? t.utf8

end Reading

end UsageTree
