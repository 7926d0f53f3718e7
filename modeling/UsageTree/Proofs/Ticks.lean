import Mathlib.Logic.Function.Iterate
import UsageTree.LastChange
import UsageTree.Proofs.Days

/-!
# Seconds one after the other

A date and a time of day in whole seconds move on second by second, with carries into minutes,
hours, days, months and years. How far two of them are apart is told by counting these seconds, and
so by the difference of their numbers. The moments of the calendar are those within the seconds of
valid dates, and the text of a moment shows the second in which it lies.

## Main definitions

* `DateTime` — a date and a time of day in whole seconds.
* `DateTime.later` — one second later.
* `DateTime.Apart` — so many seconds from one to the other.
* `DateTime.text` — its parts in writing.
* `DateTime.Holds` — a moment lies within the second.

## Main statements

* `DateTime.apart_iff` — distances are differences.
* `Moment.inRange_iff`, `Moment.text_eq` — the moments of the calendar and their texts.
-/

namespace UsageTree

/-- A date and a time of day in whole seconds. -/
structure DateTime where
  date : Date
  hour : Nat
  minute : Nat
  second : Nat
  deriving Repr, DecidableEq

namespace DateTime

/-- The time of day. -/
def clock (t : DateTime) : Clock := ⟨t.hour, t.minute, t.second, 0⟩

/-- Date and time exist, in a year up to 9999. -/
def Valid (t : DateTime) : Prop := t.date.Valid ∧ t.clock.Valid

instance (t : DateTime) : Decidable t.Valid := by unfold Valid; infer_instance

/-- Date and time exist, in whatever year. -/
def Proper (t : DateTime) : Prop := t.date.Proper ∧ t.clock.Valid

theorem Valid.proper {t : DateTime} (h : t.Valid) : t.Proper :=
  ⟨(Date.valid_iff_proper.1 h.1).1, h.2⟩

/-- One second later. -/
def later (t : DateTime) : DateTime :=
  if t.second < 59 then ⟨t.date, t.hour, t.minute, t.second + 1⟩
  else if t.minute < 59 then ⟨t.date, t.hour, t.minute + 1, 0⟩
  else if t.hour < 23 then ⟨t.date, t.hour + 1, 0, 0⟩
  else ⟨t.date.next, 0, 0, 0⟩

/-- The second is `k` seconds later than the first; the first is so much later than the second if
`k` is negative. -/
def Apart (t u : DateTime) : Int → Prop
  | .ofNat n => later^[n] t = u
  | .negSucc n => later^[n + 1] u = t

/-- Date and time of day in writing. The year has no leading zeros, the other parts have two
digits. -/
def text (t : DateTime) : String :=
  toString t.date.year ++ "-" ++ Moment.two t.date.month ++ "-" ++ Moment.two t.date.day ++ " " ++
    Moment.two t.hour ++ ":" ++ Moment.two t.minute ++ ":" ++ Moment.two t.second

/-! ## Counting -/

/-- The number of seconds since the start of year 1. -/
def seconds (t : DateTime) : Nat := (t.date.toDay - 1) * 86400 + t.clock.seconds

variable {t u : DateTime}

theorem Proper.later (h : t.Proper) : t.later.Proper := by
  obtain ⟨date, hour, minute, second⟩ := h
  simp only [clock] at hour minute second
  unfold DateTime.later
  split
  · exact ⟨date, hour, minute, by assumption⟩
  · split
    · exact ⟨date, hour, by assumption, Nat.zero_le _⟩
    · split
      · exact ⟨date, by assumption, Nat.zero_le _, Nat.zero_le _⟩
      · exact ⟨date.next, Nat.zero_le _, Nat.zero_le _, Nat.zero_le _⟩

/-- The number of the next second is the next number. -/
theorem seconds_later (h : t.Proper) : t.later.seconds = t.seconds + 1 := by
  obtain ⟨date, hour, minute, second⟩ := h
  have next := Date.toDay_next date
  have pos := date.toDay_pos
  simp only [clock] at hour minute second
  unfold DateTime.later
  split
  · simp only [seconds, clock, Clock.seconds]
    omega
  · split
    · simp only [seconds, clock, Clock.seconds]
      omega
    · split
      · simp only [seconds, clock, Clock.seconds]
        omega
      · simp only [seconds, clock, Clock.seconds, next]
        omega

theorem iterate_later (h : t.Proper) (n : Nat) :
    (later^[n] t).Proper ∧ (later^[n] t).seconds = t.seconds + n := by
  induction n with
  | zero => exact ⟨h, (Nat.add_zero _).symm⟩
  | succ n ih =>
    rw [Function.iterate_succ_apply']
    exact ⟨ih.1.later, by rw [seconds_later ih.1, ih.2, Nat.add_assoc]⟩

theorem Proper.clock_seconds_lt (h : t.Proper) : t.clock.seconds < 86400 := by
  obtain ⟨-, hour, minute, second⟩ := h
  rw [Clock.seconds]
  omega

/-- Hours, minutes and seconds can be told from the seconds since midnight. -/
theorem Proper.clock_parts (h : t.Proper) : t.clock.seconds / 3600 = t.hour ∧
    t.clock.seconds / 60 % 60 = t.minute ∧ t.clock.seconds % 60 = t.second := by
  obtain ⟨-, hour, minute, second⟩ := h
  have number : t.clock.seconds = t.hour * 3600 + t.minute * 60 + t.second := rfl
  simp only [clock] at minute second
  omega

/-- A date and a time can be told from their number. -/
theorem seconds_injective (ht : t.Proper) (hu : u.Proper) (same : t.seconds = u.seconds) :
    t = u := by
  have lt := ht.clock_seconds_lt
  have lu := hu.clock_seconds_lt
  have pt := ht.1.toDay_pos
  have pu := hu.1.toDay_pos
  simp only [seconds] at same
  have days : t.date.toDay = u.date.toDay := by omega
  have times : t.clock.seconds = u.clock.seconds := by omega
  have dates : t.date = u.date := by
    rw [← Date.ofDay_toDay ht.1, ← Date.ofDay_toDay hu.1, days]
  obtain ⟨hour, minute, second⟩ := ht.clock_parts
  obtain ⟨hour', minute', second'⟩ := hu.clock_parts
  obtain ⟨date, h, m, s⟩ := t
  obtain ⟨date', h', m', s'⟩ := u
  rw [times] at hour minute second
  cases dates
  cases hour.symm.trans hour'
  cases minute.symm.trans minute'
  cases second.symm.trans second'
  rfl

/-- Every number is that of a date and a time, reached from the first second on. -/
theorem exists_seconds (n : Nat) : ∃ t : DateTime, t.Proper ∧ t.seconds = n := by
  have start : (⟨⟨1, 1, 1⟩, 0, 0, 0⟩ : DateTime).Valid := by decide
  obtain ⟨proper, number⟩ := iterate_later start.proper n
  exact ⟨_, proper, by rw [number]; exact Nat.zero_add n⟩

/-- From one to the other there are as many seconds as their numbers differ. -/
theorem apart_iff (ht : t.Proper) (hu : u.Proper) {k : Int} :
    Apart t u k ↔ (u.seconds : Int) = t.seconds + k := by
  have counted {a b : DateTime} (ha : a.Proper) (hb : b.Proper) (n : Nat) :
      later^[n] a = b ↔ b.seconds = a.seconds + n := by
    obtain ⟨proper, number⟩ := iterate_later ha n
    rw [← number]
    exact ⟨fun same => same ▸ rfl, fun same => (seconds_injective hb proper same).symm⟩
  cases k with
  | ofNat n =>
    rw [Apart, counted ht hu, Int.ofNat_eq_natCast]
    omega
  | negSucc n =>
    rw [Apart, counted hu ht, Int.negSucc_eq]
    omega

/-- The number of seconds up to the end of year 9999. -/
def limit : Nat := Date.lastDay * 86400

theorem Proper.valid_iff (h : t.Proper) : t.Valid ↔ t.seconds < limit := by
  have pos := h.1.toDay_pos
  have lt := h.clock_seconds_lt
  have number : t.seconds = (t.date.toDay - 1) * 86400 + t.clock.seconds := rfl
  have stop : limit = Date.lastDay * 86400 := rfl
  have valid : t.Valid ↔ t.date.toDay ≤ Date.lastDay := by
    rw [Valid, h.1.valid_iff, and_iff_left h.2]
  rw [valid]
  omega

end DateTime

/-! ## Moments -/

/-- The moment lies within the second. -/
def DateTime.Holds (t : DateTime) (m : Moment) : Prop := (t.seconds : Int) = m / 1000000

theorem DateTime.holds_iff {t : DateTime} {m : Moment} :
    t.Holds m ↔ ∃ micro < 1000000, m = (t.seconds * 1000000 + micro : Nat) := by
  have split (s : Nat) (k : Int) :
      (s : Int) = k / 1000000 ↔ ∃ micro < 1000000, k = (s * 1000000 + micro : Nat) := by
    constructor
    · intro h
      exact ⟨(k % 1000000).toNat, by omega, by omega⟩
    · rintro ⟨micro, short, rfl⟩
      omega
  exact split t.seconds m

namespace Moment

/-- The moments of the calendar are those within the seconds of valid dates. -/
theorem inRange_iff {m : Moment} : m.InRange ↔ ∃ t : DateTime, t.Valid ∧ t.Holds m := by
  have limits : Date.lastDay * Reading.dayMicros = DateTime.limit * 1000000 := by decide
  rw [InRange, limits]
  generalize stop : DateTime.limit = limit
  constructor
  · rintro ⟨start, short⟩
    obtain ⟨n, rfl⟩ := Int.eq_ofNat_of_zero_le start
    obtain ⟨t, proper, number⟩ := DateTime.exists_seconds (n / 1000000)
    have short := Int.ofNat_lt.1 short
    refine ⟨t, proper.valid_iff.2 (by omega), ?_⟩
    rw [DateTime.Holds, number]
    exact Int.natCast_ediv n 1000000
  · rintro ⟨t, valid, holds⟩
    obtain ⟨micro, fraction, rfl⟩ := DateTime.holds_iff.1 holds
    have short := valid.proper.valid_iff.1 valid
    exact ⟨Int.natCast_nonneg _, Int.ofNat_lt.2 (by omega)⟩

/-- A moment is shown as the second in which it lies. -/
theorem text_eq {m : Moment} {t : DateTime} (h : t.Proper) (holds : t.Holds m) :
    text m = t.text := by
  have lt := h.clock_seconds_lt
  have pos := h.1.toDay_pos
  have number : t.seconds = (t.date.toDay - 1) * 86400 + t.clock.seconds := rfl
  obtain ⟨micro, short, rfl⟩ := DateTime.holds_iff.1 holds
  have whole : (t.seconds * 1000000 + micro) / 1000000 = t.seconds := by omega
  have day : t.seconds / 86400 + 1 = t.date.toDay := by omega
  have time : t.seconds % 86400 = t.clock.seconds := by omega
  obtain ⟨hours, minutes, seconds⟩ := h.clock_parts
  rw [text, DateTime.text]
  simp only [Int.toNat_natCast, whole, day, time, hours, minutes, seconds, Date.ofDay_toDay h.1]

end Moment

end UsageTree
