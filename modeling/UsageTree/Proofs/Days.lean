import Mathlib.Algebra.Order.BigOperators.Group.List
import Mathlib.Algebra.Order.Ring.Nat
import Mathlib.Data.List.GetD
import Mathlib.Tactic.IntervalCases
import UsageTree.Time.Calendar

/-!
# Days one after the other

The days of the calendar follow each other through months of different lengths, leap days and the
ends of years. Their numbers count them from the first day on, and a date can be told from its
number. The numbers up to that of the last day of year 9999 are those of valid dates.

## Main definitions

* `Date.Proper` — the date exists, in whatever year.
* `Date.next` — the day after.

## Main statements

* `Date.toDay_next` — numbers count days.
* `Date.ofDay_toDay`, `Date.proper_ofDay` — dates and numbers.
* `Date.Proper.valid_iff` — which numbers are those of valid dates.
-/

namespace UsageTree.Date

/-- The date exists, in whatever year. -/
structure Proper (d : Date) : Prop where
  year : 1 ≤ d.year
  day_pos : 1 ≤ d.day
  day_le : d.day ≤ daysInMonth d.year d.month

theorem valid_iff_proper {d : Date} : d.Valid ↔ d.Proper ∧ d.year ≤ 9999 := by
  constructor
  · rintro ⟨first, last, pos, le⟩
    exact ⟨⟨first, pos, le⟩, last⟩
  · rintro ⟨⟨first, pos, le⟩, last⟩
    exact ⟨first, last, pos, le⟩

/-- The day after a date. -/
def next (d : Date) : Date :=
  if d.day < daysInMonth d.year d.month then ⟨d.year, d.month, d.day + 1⟩
  else if d.month < 12 then ⟨d.year, d.month + 1, 1⟩
  else ⟨d.year + 1, 1, 1⟩

/-! ## Months -/

theorem length_monthLengths (leap : Bool) : (monthLengths leap).length = 12 := rfl

theorem daysInMonth_pos_iff {year month : Nat} :
    0 < daysInMonth year month ↔ 1 ≤ month ∧ month ≤ 12 := by
  unfold daysInMonth
  generalize isLeap year = leap
  constructor
  · intro pos
    by_contra outside
    have : month = 0 ∨ 13 ≤ month := by omega
    rcases this with rfl | past
    · simp at pos
    · rw [List.getD_eq_default _ _ (by simpa [length_monthLengths] using past)] at pos
      omega
  · rintro ⟨first, last⟩
    interval_cases month <;> cases leap <;> decide

theorem Proper.month {d : Date} (h : d.Proper) : 1 ≤ d.month ∧ d.month ≤ 12 :=
  daysInMonth_pos_iff.1 (h.day_pos.trans h.day_le)

/-- No month is longer than 31 days. -/
theorem Proper.day_le_max {d : Date} (h : d.Proper) : d.day ≤ 31 := by
  have each : ∀ leap, ∀ month < 13, (0 :: monthLengths leap).getD month 0 ≤ 31 := by decide
  exact h.day_le.trans (each _ _ (Nat.lt_succ_of_le h.month.2))

/-- The number of days of a year. -/
def yearLength (year : Nat) : Nat := if isLeap year then 366 else 365

theorem daysBeforeMonth_eq_sum (year month : Nat) :
    daysBeforeMonth year month = ((monthLengths (isLeap year)).take (month - 1)).sum := rfl

theorem daysBeforeMonth_succ (year : Nat) {month : Nat} (first : 1 ≤ month) (last : month ≤ 12) :
    daysBeforeMonth year (month + 1) = daysBeforeMonth year month + daysInMonth year month := by
  obtain ⟨k, rfl⟩ := Nat.exists_eq_add_of_le' first
  have inside : k < (monthLengths (isLeap year)).length := by
    rw [length_monthLengths]
    omega
  rw [daysBeforeMonth_eq_sum, daysBeforeMonth_eq_sum, daysInMonth, List.getD_cons_succ,
    List.getD_eq_getElem _ _ inside]
  exact List.sum_take_succ _ k inside

theorem daysBeforeMonth_thirteen (year : Nat) : daysBeforeMonth year 13 = yearLength year := by
  unfold daysBeforeMonth yearLength
  cases isLeap year <;> rfl

theorem daysBeforeMonth_mono (year : Nat) {a b : Nat} (h : a ≤ b) :
    daysBeforeMonth year a ≤ daysBeforeMonth year b := by
  rw [daysBeforeMonth_eq_sum, daysBeforeMonth_eq_sum]
  have fewer : a - 1 ≤ b - 1 := Nat.sub_le_sub_right h 1
  exact (List.take_sublist_take_left fewer).sum_le_sum fun _ _ => Nat.zero_le _

/-- The months up to one have no more days than the year. -/
theorem daysBeforeMonth_le (year : Nat) {month : Nat} (last : month ≤ 13) :
    daysBeforeMonth year month ≤ yearLength year := by
  rw [← daysBeforeMonth_thirteen]
  exact daysBeforeMonth_mono year last

/-! ## Years -/

theorem daysBeforeYear_succ {year : Nat} (first : 1 ≤ year) :
    daysBeforeYear (year + 1) = daysBeforeYear year + yearLength year := by
  obtain ⟨past, rfl⟩ := Nat.exists_eq_add_of_le' first
  have fewer : past / 100 ≤ past / 4 := Nat.div_le_div_left (by decide) (by decide)
  have leap : isLeap (past + 1) = true ↔ 4 ∣ past + 1 ∧ (¬ 100 ∣ past + 1 ∨ 400 ∣ past + 1) := by
    simp [isLeap, Nat.dvd_iff_mod_eq_zero]
  simp only [daysBeforeYear, yearLength, leap, Nat.add_sub_cancel, Nat.succ_div]
  generalize past / 4 = fours at *
  generalize past / 100 = centuries at *
  by_cases h₄ : 4 ∣ past + 1 <;> by_cases h₁₀₀ : 100 ∣ past + 1 <;>
    by_cases h₄₀₀ : 400 ∣ past + 1 <;> simp only [h₄, h₁₀₀, h₄₀₀, if_true, if_false, true_and,
      false_and, not_true, not_false_iff, or_true, or_false] <;> omega

theorem daysBeforeYear_mono {a b : Nat} (first : 1 ≤ a) (h : a ≤ b) :
    daysBeforeYear a ≤ daysBeforeYear b := by
  induction b, h using Nat.le_induction with
  | base => exact Nat.le_refl _
  | succ b h ih =>
    rw [daysBeforeYear_succ (first.trans h)]
    omega

/-- Before a date there are fewer days of its year than the year has. -/
theorem Proper.dayOfYear_lt {d : Date} (h : d.Proper) :
    daysBeforeMonth d.year d.month + (d.day - 1) < yearLength d.year := by
  obtain ⟨first, last⟩ := h.month
  have month := daysBeforeMonth_succ d.year first last
  have year := daysBeforeMonth_le d.year (Nat.add_le_add_right last 1)
  have := h.day_pos
  have := h.day_le
  omega

/-! ## Counting -/

theorem Proper.next {d : Date} (h : d.Proper) : d.next.Proper := by
  have months := h.month
  have year := h.year
  unfold Date.next
  split
  · rename_i more
    exact ⟨year, Nat.le_add_left 1 d.day, more⟩
  · split
    · rename_i more
      have existing : 1 ≤ d.month + 1 ∧ d.month + 1 ≤ 12 := by omega
      exact ⟨year, Nat.le_refl 1, daysInMonth_pos_iff.2 existing⟩
    · exact ⟨Nat.le_add_left 1 d.year, Nat.le_refl 1, daysInMonth_pos_iff.2 (by simp)⟩

/-- The number of the next day is the next number. -/
theorem toDay_next {d : Date} (h : d.Proper) : d.next.toDay = d.toDay + 1 := by
  obtain ⟨first, last⟩ := h.month
  have month := daysBeforeMonth_succ d.year first last
  have le := h.day_le
  unfold Date.next
  split
  · simp only [toDay]
    omega
  · rename_i lastDay
    split
    · simp only [toDay]
      omega
    · have december : d.month = 12 := by omega
      have year := daysBeforeYear_succ h.year
      have whole : daysBeforeMonth d.year (12 + 1) = yearLength d.year :=
        daysBeforeMonth_thirteen d.year
      have january : daysBeforeMonth (d.year + 1) 1 = 0 := rfl
      rw [december] at month le lastDay
      simp only [toDay, december]
      omega

/-! ## Dates of numbers -/

/-- The lengths of some months, and some days of the month after them, are told apart. -/
theorem splitMonths_sum {lengths : List Nat} {k rest : Nat} (inside : k < lengths.length)
    (short : rest < lengths[k]) :
    splitMonths ((lengths.take k).sum + rest) lengths = (k, rest) := by
  induction lengths generalizing k with
  | nil => cases inside
  | cons length lengths ih =>
    cases k with
    | zero => simpa [splitMonths] using short
    | succ k =>
      rw [List.take_succ_cons, List.sum_cons, Nat.add_assoc, splitMonths,
        if_neg (Nat.not_lt.2 (Nat.le_add_right ..)), Nat.add_sub_cancel_left,
        ih (by simpa using inside) (by simpa using short)]

/-- The year of a day, and the day in the year. -/
theorem splitYear_daysBeforeYear {year day : Nat} (first : 1 ≤ year)
    (short : day < yearLength year) :
    splitYear (daysBeforeYear year + day + 1) = (year, day) := by
  obtain ⟨past, rfl⟩ := Nat.exists_eq_add_of_le' first
  -- The years before this one in cycles, centuries, fours and single years.
  obtain ⟨cycles, centuries, fours, years, h₁, h₂, h₃, rfl⟩ :
      ∃ cycles centuries fours years, centuries < 4 ∧ fours < 25 ∧ years < 4 ∧
        past = 400 * cycles + 100 * centuries + 4 * fours + years :=
    ⟨past / 400, past % 400 / 100, past % 100 / 4, past % 4, by omega, by omega, by omega, by omega⟩
  have before : daysBeforeYear (400 * cycles + 100 * centuries + 4 * fours + years + 1) =
      146097 * cycles + 36524 * centuries + 1461 * fours + 365 * years := by
    simp only [daysBeforeYear]
    omega
  have last : day < 365 ∨ day = 365 ∧ years = 3 ∧ (fours = 24 → centuries = 3) := by
    simp only [yearLength, isLeap, Bool.and_eq_true, Bool.or_eq_true, beq_iff_eq, bne_iff_ne]
      at short
    split at short <;> omega
  rw [before, splitYear]
  simp only [Nat.add_sub_cancel]
  obtain ⟨inFour, hFour⟩ : ∃ r, r = 365 * years + day := ⟨_, rfl⟩
  obtain ⟨inCentury, hCentury⟩ : ∃ r, r = 1461 * fours + inFour := ⟨_, rfl⟩
  obtain ⟨inCycle, hCycle⟩ : ∃ r, r = 36524 * centuries + inCentury := ⟨_, rfl⟩
  have split : 146097 * cycles + 36524 * centuries + 1461 * fours + 365 * years + day =
      146097 * cycles + inCycle := by omega
  have four : min 3 (inFour / 365) = years := by omega
  have century : inCentury / 1461 = fours ∧ inCentury % 1461 = inFour := by omega
  have cycle : min 3 (inCycle / 36524) = centuries := by omega
  have whole : (146097 * cycles + inCycle) / 146097 = cycles ∧
      (146097 * cycles + inCycle) % 146097 = inCycle := by omega
  have rest : inCycle - centuries * 36524 = inCentury := by omega
  rw [split, whole.1, whole.2, cycle, rest, century.1, century.2, four]
  congr 1
  omega

/-- A date can be told from its number. -/
theorem ofDay_toDay {d : Date} (h : d.Proper) : ofDay d.toDay = d := by
  obtain ⟨first, last⟩ := h.month
  have pos := h.day_pos
  have number : d.toDay =
      daysBeforeYear d.year + (daysBeforeMonth d.year d.month + (d.day - 1)) + 1 := by
    rw [toDay]
    omega
  have inside : d.month - 1 < (monthLengths (isLeap d.year)).length := by
    rw [length_monthLengths]
    omega
  have short : d.day - 1 < (monthLengths (isLeap d.year))[d.month - 1] := by
    have le := h.day_le
    obtain ⟨k, hk⟩ := Nat.exists_eq_add_of_le' first
    simp only [hk, daysInMonth, Nat.add_sub_cancel, List.getD_cons_succ] at le inside ⊢
    rw [List.getD_eq_getElem _ _ inside] at le
    omega
  rw [ofDay, number, splitYear_daysBeforeYear h.year h.dayOfYear_lt]
  dsimp only
  rw [daysBeforeMonth_eq_sum, splitMonths_sum inside short]
  obtain ⟨year, month, day⟩ := d
  simp only [mk.injEq, true_and] at first pos ⊢
  omega

/-- Every number from 1 on is that of a date. The dates are reached one after the other. -/
theorem exists_toDay (n : Nat) : ∃ d : Date, d.Proper ∧ d.toDay = n + 1 := by
  induction n with
  | zero => exact ⟨⟨1, 1, 1⟩, ⟨by decide, by decide, by decide⟩, by decide⟩
  | succ n ih =>
    obtain ⟨d, proper, number⟩ := ih
    exact ⟨d.next, proper.next, by rw [toDay_next proper, number]⟩

theorem proper_ofDay {n : Nat} (pos : 1 ≤ n) : (ofDay n).Proper ∧ (ofDay n).toDay = n := by
  obtain ⟨d, proper, number⟩ := exists_toDay (n - 1)
  rw [Nat.sub_add_cancel pos] at number
  rw [← number, ofDay_toDay proper]
  exact ⟨proper, rfl⟩

theorem Proper.toDay_pos {d : Date} (h : d.Proper) : 1 ≤ d.toDay := by
  have := h.day_pos
  rw [toDay]
  omega

/-- The dates up to year 9999 are those with numbers up to that of its last day. -/
theorem Proper.valid_iff {d : Date} (h : d.Proper) : d.Valid ↔ d.toDay ≤ lastDay := by
  have last : daysBeforeYear (9999 + 1) = lastDay := rfl
  have inYear := h.dayOfYear_lt
  have next := daysBeforeYear_succ h.year
  have pos := h.day_pos
  rw [valid_iff_proper, ← last, toDay]
  constructor
  · rintro ⟨-, early⟩
    have := daysBeforeYear_mono (Nat.le_add_left 1 d.year) (Nat.add_le_add_right early 1)
    omega
  · intro number
    refine ⟨h, Nat.le_of_not_lt fun late => ?_⟩
    have := daysBeforeYear_mono (a := 9999 + 1) (by decide) late
    omega

end UsageTree.Date
