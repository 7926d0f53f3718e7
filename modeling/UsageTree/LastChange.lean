import UsageTree.Fault
import UsageTree.Time.Reading

/-!
# Times of last change

The time of a file's last change is a text, possibly empty, or unset. Times written in one
notation and one zone are ordered as texts are, by code points.

A time that can be read is shown as date and time of day in the local zone; any other text is
shown as it is. A moment is a number of microseconds since the start of year 1, in the zone that is
meant.

## Main definitions

* `LastChange` — a time of last change as a record gives it.
* `LastChange.latest` — the later of two.
* `Moment.text` — the text of a moment.
* `Reading.localMoment` — a reading in the local zone.
* `LastChange.display` — what is shown for a time of last change.
-/

namespace UsageTree

/-! ## The later time -/

/-- The text of a time, if there is one. -/
abbrev LastChange := Option Text

namespace LastChange

/-- The later of two times. One that is unset or empty gives way to the other; of equal ones the
first stays. -/
def latest (current candidate : LastChange) : LastChange :=
  match current, candidate with
  | none, b => b
  | some a, none => if a = [] then none else some a
  | some a, some b =>
    if a = [] then some b else if b = [] then some a else if Text.le b a then some a else some b

@[simp] theorem latest_empty_left (b : LastChange) : latest (some []) b = b := by
  cases b <;> simp [latest]

theorem latest_none_right {a : Text} (h : a ≠ []) : latest (some a) none = some a := by
  simp [latest, h]

theorem latest_empty_right {a : Text} (h : a ≠ []) : latest (some a) (some []) = some a := by
  simp [latest, h]

/-- Of two times that are set the greater text wins. -/
theorem latest_some {a b : Text} (ha : a ≠ []) (hb : b ≠ []) :
    latest (some a) (some b) = some (if Text.le b a then a else b) := by
  by_cases h : Text.le b a <;> simp [latest, ha, hb, h]

end LastChange

/-! ## Showing times -/

/-- Microseconds since the start of year 1. -/
abbrev Moment := Int

namespace Moment

/-- The moment lies in the years 1 to 9999. -/
def InRange (m : Moment) : Prop := 0 ≤ m ∧ m < (Date.lastDay * Reading.dayMicros : Nat)

instance (m : Moment) : Decidable m.InRange := by unfold InRange; infer_instance

/-- The moment, unless it falls outside the calendar. -/
def check (m : Moment) : Except Fault Moment := if m.InRange then .ok m else .error .dateRange

/-- A number in two digits at least. -/
def two (n : Nat) : String := if n < 10 then "0" ++ toString n else toString n

/-- Date and time of day. The year has no leading zeros, the other parts have two digits, and a
fraction of a second is dropped. -/
def text (m : Moment) : String :=
  let seconds := m.toNat / 1000000
  let date := Date.ofDay (seconds / 86400 + 1)
  let s := seconds % 86400
  toString date.year ++ "-" ++ two date.month ++ "-" ++ two date.day ++ " " ++
    two (s / 3600) ++ ":" ++ two (s / 60 % 60) ++ ":" ++ two (s % 60)

end Moment

namespace Reading

/-- The moment in the zone in which it is written. -/
def moment (r : Reading) : Moment := ((r.date.toDay - 1) * dayMicros + r.clock.micros : Nat)

/-- The moment in a local zone `zone` seconds east of UTC. Without an offset the time is local
already; with one it is moved to UTC and then to the local zone, and both must exist. -/
def localMoment (zone : Int) (r : Reading) : Except Fault Moment :=
  match r.offset with
  | none => .ok r.moment
  | some offset => do
    let utc ← Moment.check (r.moment - offset)
    Moment.check (utc + zone * 1000000)

end Reading

/-- What is shown for a time of last change in a local zone `zone` seconds east of UTC: a dash if
it is unset or empty, the local date and time if it can be read, and otherwise its text. -/
def LastChange.display (zone : Int) : LastChange → Except Fault Text
  | none => .ok "-"
  | some text =>
    if text = [] then .ok "-"
    else match Reading.ofText? text with
      | none => .ok text
      | some r => do
        let m ← r.localMoment zone
        return m.text

end UsageTree
