import UsageTree.Proofs.Ticks

/-!
# What is read exists

Whatever the notation, the date that is read from a text is a date of the calendar, the time of day
is one of a day of 24 hours, and the offset is shorter than a day.

## Main definitions

* `Reading.Sound` — the parts of a reading exist.
* `Reading.dateTime` — date and time of day, without the fraction of a second.

## Main statements

* `Reading.sound_of_ofText?` — the readings of texts are sound.
-/

namespace UsageTree

theorem Date.firstMonday_pos (year : Nat) : 1 ≤ firstMonday year := by
  unfold firstMonday weekday
  dsimp only
  split <;> omega

/-- The date of a weekday in a week is one of the calendar. -/
theorem Date.valid_of_ofWeek? {year week day : Nat} {d : Date}
    (h : ofWeek? year week day = some d) : d.Valid := by
  unfold ofWeek? at h
  dsimp only at h
  split at h
  · rename_i inside
    cases h
    obtain ⟨first, -, -, -, -, -, last⟩ := inside
    have pos : 1 ≤ firstMonday year + 7 * (week - 1) + (day - 1) :=
      (firstMonday_pos year).trans ((Nat.le_add_right ..).trans (Nat.le_add_right ..))
    obtain ⟨proper, number⟩ := proper_ofDay pos
    rw [proper.valid_iff, number]
    exact last
  · cases h

namespace Reading

variable {b : List UInt8} {i k stop : Nat}

/-! ## Digits -/

/-- A digit more is read if it is one. -/
theorem number?_succ_eq_some {n : Nat} : number? b i (k + 1) = some n ↔
    ∃ high, number? b i k = some high ∧ isDigit (byteAt b (i + k)) ∧
      n = 10 * high + (byteAt b (i + k)).toNat - 48 := by
  rw [number?, Option.bind_eq_bind, Option.bind_eq_some_iff]
  refine exists_congr fun high => and_congr_right fun _ => ?_
  split
  · rename_i digit
    rw [Option.some.injEq, and_iff_right digit]
    exact eq_comm
  · rename_i other
    simp [other]

/-- Where a number is read there are digits. -/
theorem isDigit_of_number? {n : Nat} (h : number? b i k = some n) {j : Nat} (hj : j < k) :
    isDigit (byteAt b (i + j)) = true := by
  induction k generalizing n with
  | zero => cases hj
  | succ k ih =>
    obtain ⟨high, before, digit, -⟩ := number?_succ_eq_some.1 h
    rcases Nat.lt_succ_iff_lt_or_eq.1 hj with hj | rfl
    · exact ih before hj
    · exact digit

theorem isDigit_iff {x : UInt8} : isDigit x = true ↔ 48 ≤ x.toNat ∧ x.toNat ≤ 57 := by
  have first : ascii '0' = 48 := rfl
  have last : ascii '9' = 57 := rfl
  simp [isDigit, first, last, UInt8.le_iff_toNat_le]

/-- A number has no more digits than are read. -/
theorem number?_lt {n : Nat} (h : number? b i k = some n) : n < 10 ^ k := by
  induction k generalizing n with
  | zero =>
    cases h
    decide
  | succ k ih =>
    obtain ⟨high, before, digit, rfl⟩ := number?_succ_eq_some.1 h
    have := ih before
    have := isDigit_iff.1 digit
    rw [Nat.pow_succ]
    omega

/-! ## Dates -/

theorem valid_of_date? {d : Date} (h : date? b stop = some d) : d.Valid := by
  unfold date? at h
  obtain ⟨year, -, h⟩ := Option.bind_eq_some_iff.1 h
  dsimp only at h
  generalize (if (byteAt b 4 == ascii '-') = true then 5 else 4) = i at h
  split at h
  · obtain ⟨week, -, h⟩ := Option.bind_eq_some_iff.1 h
    split at h
    · obtain ⟨j, -, h⟩ := Option.bind_eq_some_iff.1 h
      obtain ⟨day, -, h⟩ := Option.bind_eq_some_iff.1 h
      exact Date.valid_of_ofWeek? h
    · exact Date.valid_of_ofWeek? h
  · obtain ⟨month, -, h⟩ := Option.bind_eq_some_iff.1 h
    obtain ⟨j, -, h⟩ := Option.bind_eq_some_iff.1 h
    obtain ⟨day, -, h⟩ := Option.bind_eq_some_iff.1 h
    split at h
    · rename_i valid
      cases h
      exact valid
    · cases h

/-! ## Times of day -/

theorem micro_lt_of_fraction? {f : Nat × Bool} (h : fraction? b stop i = some f) :
    f.1 < 1000000 := by
  unfold fraction? at h
  obtain ⟨v, read, h⟩ := Option.bind_eq_some_iff.1 h
  cases h
  have small : v < 10 ^ min 6 (stop - i) := number?_lt read
  have digits : min 6 (stop - i) ≤ 6 := Nat.min_le_left ..
  generalize min 6 (stop - i) = k at small digits
  calc v * Nat.pow 10 (6 - k) < 10 ^ k * 10 ^ (6 - k) :=
        Nat.mul_lt_mul_of_pos_right small (Nat.pow_pos (by decide))
    _ = 10 ^ 6 := by rw [← Nat.pow_add, Nat.add_sub_cancel' digits]

theorem micro_lt_of_fields? {colons : Bool} {r : List Nat × Nat × Bool}
    (h : fields? b stop colons k i = some r) : r.2.1 < 1000000 := by
  induction k generalizing i r with
  | zero =>
    obtain ⟨f, read, h⟩ := Option.bind_eq_some_iff.1 h
    cases h
    exact micro_lt_of_fraction? read
  | succ k ih =>
    obtain ⟨v, -, h⟩ := Option.bind_eq_some_iff.1 h
    obtain ⟨follow, -, h⟩ := Option.bind_eq_some_iff.1 h
    cases follow with
    | stop junk =>
      cases h
      exact Nat.zero_lt_succ _
    | fraction j =>
      obtain ⟨f, read, h⟩ := Option.bind_eq_some_iff.1 h
      cases h
      exact micro_lt_of_fraction? read
    | field j =>
      obtain ⟨others, read, h⟩ := Option.bind_eq_some_iff.1 h
      cases h
      exact ih (r := others) read

theorem micro_lt_of_clock? {r : Clock × Bool} (h : clock? b i stop = some r) :
    r.1.micro < 1000000 := by
  obtain ⟨f, read, h⟩ := Option.bind_eq_some_iff.1 h
  cases h
  exact micro_lt_of_fields? read

/-- An offset is shorter than a day. -/
theorem offset?_lt {negative : Bool} {c : Clock} {o : Int} (h : offset? negative c = some o) :
    -dayMicros < o ∧ o < dayMicros := by
  unfold offset? at h
  split at h
  · cases h
    decide
  · split at h
    · rename_i short
      cases h
      cases negative <;> simp only [Bool.false_eq_true, if_true, if_false] <;> omega
    · cases h

theorem bounds_of_time? {r : Clock × Option Int} (h : time? b i = some r) :
    r.1.micro < 1000000 ∧ ∀ o ∈ r.2, -dayMicros < o ∧ o < dayMicros := by
  unfold time? at h
  obtain ⟨⟨clock, junk⟩, read, h⟩ := Option.bind_eq_some_iff.1 h
  have micro := micro_lt_of_clock? read
  dsimp only at h
  split at h
  · obtain ⟨⟨shift, junk⟩, -, h⟩ := Option.bind_eq_some_iff.1 h
    dsimp only at h
    split at h
    · cases h
    · obtain ⟨offset, read, h⟩ := Option.bind_eq_some_iff.1 h
      cases h
      refine ⟨micro, fun o ho => ?_⟩
      cases ho
      exact offset?_lt read
  · split at h
    · cases h
    · cases h
      exact ⟨micro, by simp⟩

/-! ## The whole text -/

/-- Date, time and offset exist. -/
structure Sound (r : Reading) : Prop where
  date : r.date.Valid
  clock : r.clock.Valid
  micro : r.clock.micro < 1000000
  offset : ∀ o ∈ r.offset, -dayMicros < o ∧ o < dayMicros

theorem sound_of_ofBytes? {r : Reading} (h : ofBytes? b = some r) : Sound r := by
  unfold ofBytes? at h
  obtain ⟨stop, -, h⟩ := Option.bind_eq_some_iff.1 h
  obtain ⟨date, onDay, h⟩ := Option.bind_eq_some_iff.1 h
  have valid := valid_of_date? onDay
  split at h
  · dsimp only at h
    split at h
    · obtain ⟨⟨clock, offset⟩, read, h⟩ := Option.bind_eq_some_iff.1 h
      obtain ⟨micro, short⟩ := bounds_of_time? read
      dsimp only at h
      split at h
      · rename_i existing
        cases h
        exact ⟨valid, existing, micro, short⟩
      · cases h
    · cases h
  · cases h
    have midnight : (⟨0, 0, 0, 0⟩ : Clock).Valid := by decide
    exact ⟨valid, midnight, Nat.zero_lt_succ _, by simp⟩

/-- What is read from a text exists, whatever its notation. -/
theorem sound_of_ofText? {text : Text} {r : Reading} (h : ofText? text = some r) : Sound r := by
  unfold ofText? at h
  dsimp only at h
  split at h
  · cases h
  · exact sound_of_ofBytes? h

/-! ## Moments of readings -/

/-- Date and time of day, without the fraction of a second. -/
def dateTime (r : Reading) : DateTime := ⟨r.date, r.clock.hour, r.clock.minute, r.clock.second⟩

variable {r : Reading}

theorem Sound.valid_dateTime (h : Sound r) : r.dateTime.Valid := ⟨h.date, h.clock⟩

theorem moment_eq (r : Reading) :
    r.moment = (r.dateTime.seconds * 1000000 + r.clock.micro : Nat) := by
  have seconds : r.dateTime.seconds = (r.date.toDay - 1) * 86400 + r.clock.seconds := rfl
  have day : dayMicros = 86400 * 1000000 := rfl
  rw [moment, seconds, day, Clock.micros, Nat.add_mul, Nat.mul_assoc, Nat.add_assoc]

/-- The moment of a reading lies within the second that is read. -/
theorem Sound.holds (h : Sound r) : r.dateTime.Holds r.moment :=
  DateTime.holds_iff.2 ⟨r.clock.micro, h.micro, moment_eq r⟩

end Reading

end UsageTree
