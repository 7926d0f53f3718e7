import UsageTree.Proofs.Arrival
import UsageTree.Proofs.Stamps

/-!
# The order of texts and the order of time

Times that are written in one notation, with every part padded with zeros, are ordered as texts in
the way in which they follow each other: the first part that differs decides in both orders. Where
all files of a tally give their times in UTC in this way, the text that is left for a path denotes
the latest instant of the files below it.

## Main definitions

* `Date.Before` — the order of dates by year, month and day.
* `Reading.utc` — the moment in UTC.
* `LastChange.Stamped` — a time written in full and in UTC, or none.
* `LastChange.IsLatestInstant` — the latest of some times as an instant.

## Main statements

* `DateTime.le_written_iff` — later times are greater texts.
* `Tally.isLatestInstant_of_stamped` — the latest text of a path denotes the latest instant.
-/

namespace UsageTree

/-! ## Numbers in digits -/

namespace Text

theorem cons_le_cons_self {c : CodePoint} {s t : Text} : le (c :: s) (c :: t) ↔ le s t := by
  simp [cons_le_cons]

/-- Numbers of so many digits are compared before what follows them. The last digit decides where
all digits before it are the same. -/
theorem le_padded_append {k m n : Nat} (hm : m < 10 ^ k) (hn : n < 10 ^ k) {s t : Text} :
    le (padded k m ++ s) (padded k n ++ t) ↔ m < n ∨ m = n ∧ le s t := by
  induction k generalizing m n s t with
  | zero =>
    obtain rfl : m = 0 := by simpa using hm
    obtain rfl : n = 0 := by simpa using hn
    simp [padded]
  | succ k ih =>
    rw [Nat.pow_succ] at hm hn
    have digit (j : Nat) : (CodePoint.ofNat (48 + j % 10)).val = 48 + j % 10 :=
      CodePoint.val_ofNat (by omega)
    have same : CodePoint.ofNat (48 + m % 10) = CodePoint.ofNat (48 + n % 10) ↔ m % 10 = n % 10 := by
      refine ⟨fun h => ?_, fun h => by rw [h]⟩
      have h := congrArg CodePoint.val h
      rw [digit, digit] at h
      omega
    rw [padded, padded, List.append_assoc, List.append_assoc, List.singleton_append,
      List.singleton_append, ih (by omega) (by omega), cons_le_cons, digit, digit, same]
    generalize le s t = rest
    constructor
    · rintro (h | ⟨h, h' | ⟨h', hr⟩⟩)
      · left; omega
      · left; omega
      · right; exact ⟨by omega, hr⟩
    · rintro (h | ⟨rfl, hr⟩)
      · by_cases high : m / 10 < n / 10
        · exact .inl high
        · exact .inr ⟨by omega, .inl (by omega)⟩
      · exact .inr ⟨rfl, .inr ⟨rfl, hr⟩⟩

/-- Three numbers with the same marks between them are compared one after the other, before what
follows them. -/
theorem le_parts_append {k x y z x' y' z' : Nat} {mark : CodePoint} (hx : x < 10 ^ k)
    (hx' : x' < 10 ^ k) (hy : y < 100) (hy' : y' < 100) (hz : z < 100) (hz' : z' < 100)
    {s t : Text} :
    le (padded k x ++ mark :: (padded 2 y ++ mark :: (padded 2 z ++ s)))
        (padded k x' ++ mark :: (padded 2 y' ++ mark :: (padded 2 z' ++ t))) ↔
      x < x' ∨ x = x' ∧ (y < y' ∨ y = y' ∧ (z < z' ∨ z = z' ∧ le s t)) := by
  rw [le_padded_append hx hx', cons_le_cons_self, le_padded_append hy hy', cons_le_cons_self,
    le_padded_append hz hz']

end Text

/-! ## Dates -/

namespace Date

/-- The first date comes before the second: the years decide, then the months, then the days. -/
def Before (d e : Date) : Prop :=
  d.year < e.year ∨ d.year = e.year ∧ (d.month < e.month ∨ d.month = e.month ∧ d.day < e.day)

variable {d e : Date}

theorem before_or_eq_or_before (d e : Date) : d.Before e ∨ d = e ∨ e.Before d := by
  obtain ⟨y, m, n⟩ := d
  obtain ⟨y', m', n'⟩ := e
  simp only [Before, mk.injEq]
  omega

/-- The number of a date is told by the greatest part that differs: no day of a month or a year
reaches the next one. -/
theorem Before.toDay_lt (hd : d.Proper) (he : e.Proper) (h : d.Before e) : d.toDay < e.toDay := by
  have hd_pos := hd.day_pos
  have he_pos := he.day_pos
  simp only [toDay]
  rcases h with years | ⟨years, months | ⟨months, days⟩⟩
  · have inYear := hd.dayOfYear_lt
    have next := daysBeforeYear_succ hd.year
    have := daysBeforeYear_mono (Nat.le_add_left 1 d.year) years
    omega
  · obtain ⟨first, last⟩ := hd.month
    have inMonth := hd.day_le
    have next := daysBeforeMonth_succ d.year first last
    have := daysBeforeMonth_mono d.year (Nat.succ_le_of_lt months)
    rw [Nat.succ_eq_add_one] at this
    rw [years] at *
    omega
  · rw [years, months]
    omega

theorem before_iff (hd : d.Proper) (he : e.Proper) : d.Before e ↔ d.toDay < e.toDay := by
  refine ⟨Before.toDay_lt hd he, fun lt => ?_⟩
  rcases before_or_eq_or_before d e with h | rfl | h
  · exact h
  · omega
  · have := h.toDay_lt he hd
    omega

/-- Dates in writing are compared as days, before what follows them. -/
theorem le_written_append (hd : d.Valid) (he : e.Valid) {s t : Text} :
    Text.le (d.written ++ s) (e.written ++ t) ↔ d.toDay < e.toDay ∨ d = e ∧ Text.le s t := by
  obtain ⟨properD, yearD⟩ := valid_iff_proper.1 hd
  obtain ⟨properE, yearE⟩ := valid_iff_proper.1 he
  have monthD := properD.month
  have monthE := properE.month
  have dayD := properD.day_le_max
  have dayE := properE.day_le_max
  rw [← before_iff properD properE]
  obtain ⟨y, m, n⟩ := d
  obtain ⟨y', m', n'⟩ := e
  simp only at yearD yearE monthD monthE dayD dayE
  simp only [written, List.append_assoc, List.cons_append]
  rw [Text.le_parts_append (Nat.lt_succ_of_le yearD) (Nat.lt_succ_of_le yearE) (by omega) (by omega)
    (by omega) (by omega)]
  simp only [Before, mk.injEq]
  grind

end Date

/-! ## Dates and times -/

/-- Times of day in writing are compared as numbers of seconds, before what follows them. -/
theorem Clock.le_written_append {c c' : Clock} (hc : c.Valid) (hc' : c'.Valid) {s t : Text} :
    Text.le (c.written ++ s) (c'.written ++ t) ↔
      c.seconds < c'.seconds ∨ c.seconds = c'.seconds ∧ Text.le s t := by
  obtain ⟨hour, minute, second⟩ := hc
  obtain ⟨hour', minute', second'⟩ := hc'
  simp only [written, List.append_assoc, List.cons_append, seconds]
  rw [Text.le_parts_append (by omega) (by omega) (by omega) (by omega) (by omega) (by omega)]
  grind

namespace DateTime

variable {t u : DateTime}

/-- Date and time in writing, with the same separator and the same text behind them, are ordered as
texts as they follow each other. -/
theorem le_written_iff (ht : t.Valid) (hu : u.Valid) (separator : CodePoint) (rest : Text) :
    Text.le (t.date.written ++ separator :: (t.clock.written ++ rest))
        (u.date.written ++ separator :: (u.clock.written ++ rest)) ↔ t.seconds ≤ u.seconds := by
  have lt := ht.proper.clock_seconds_lt
  have lu := hu.proper.clock_seconds_lt
  have pt := ht.proper.1.toDay_pos
  have pu := hu.proper.1.toDay_pos
  have same : t.date = u.date ↔ t.date.toDay = u.date.toDay := by
    refine ⟨fun h => by rw [h], fun h => ?_⟩
    rw [← Date.ofDay_toDay ht.proper.1, h, Date.ofDay_toDay hu.proper.1]
  rw [Date.le_written_append ht.1 hu.1, Text.cons_le_cons_self, Clock.le_written_append ht.2 hu.2,
    same]
  simp only [Text.le_refl, and_true, seconds]
  omega

end DateTime

/-! ## Instants -/

namespace Reading

/-- The moment in UTC. A time without an offset is taken as one in UTC. -/
def utc (r : Reading) : Moment := r.moment - r.offset.getD 0

/-- A time that is written with a `Z` is read as the instant of its date and time. -/
theorem exists_ofText?_stamp {t : DateTime} (valid : t.Valid) :
    ∃ r, ofText? (t.written ++ [('Z' : CodePoint)]) = some r ∧ r.utc = t.seconds * 1000000 := by
  have zero : (⟨false, 0, 0⟩ : Offset).Valid := by decide
  refine ⟨_, (ofText?_written_z t).trans (ofText?_written_append valid zero), ?_⟩
  have whole (n : Nat) : ((n * 1000000 + 0 : Nat) : Int) - 0 = n * 1000000 := by omega
  rw [utc, moment_eq]
  exact whole t.seconds

end Reading

namespace LastChange

open Reading

/-- No time, or date and time in UTC, written in full. -/
def Stamped (l : LastChange) : Prop :=
  ∀ text, l = some text → ∃ t : DateTime, t.Valid ∧ text = t.written ++ [('Z' : CodePoint)]

/-- `l` is unset if all of the times are, and is otherwise one of them, with an instant that none of
the others is after. -/
structure IsLatestInstant (ts : List LastChange) (l : LastChange) : Prop where
  none_iff : l = none ↔ ∀ c ∈ ts, c = none
  mem : ∀ text, l = some text → some text ∈ ts
  latest : ∀ text, l = some text → ∃ r, ofText? text = some r ∧
    ∀ other, some other ∈ ts → ∃ r', ofText? other = some r' ∧ r'.utc ≤ r.utc

theorem stamped_written {t : DateTime} (valid : t.Valid) :
    Stamped (some (t.written ++ [('Z' : CodePoint)])) := by
  rintro _ ⟨⟩
  exact ⟨t, valid, rfl⟩

theorem Stamped.ne_nil {text : Text} (h : Stamped (some text)) : text ≠ [] := by
  obtain ⟨t, -, rfl⟩ := h text rfl
  exact List.append_ne_nil_of_right_ne_nil _ (List.cons_ne_nil _ _)

/-- Of two times in UTC the greater text is that of the later instant. -/
theorem Stamped.utc_le {s s' : Text} (h : Stamped (some s)) (h' : Stamped (some s'))
    (le : Text.le s s') : ∃ r r', ofText? s = some r ∧ ofText? s' = some r' ∧ r.utc ≤ r'.utc := by
  obtain ⟨t, valid, rfl⟩ := h s rfl
  obtain ⟨t', valid', rfl⟩ := h' s' rfl
  obtain ⟨r, read, instant⟩ := exists_ofText?_stamp valid
  obtain ⟨r', read', instant'⟩ := exists_ofText?_stamp valid'
  simp only [DateTime.written, List.append_assoc, List.cons_append] at le
  have order := (DateTime.le_written_iff valid valid' _ _).1 le
  refine ⟨r, r', read, read', ?_⟩
  rw [instant, instant']
  exact Int.mul_le_mul_of_nonneg_right (Int.ofNat_le.2 order) (by decide)

/-- What is left of times in UTC denotes the latest instant. -/
theorem IsLatest.isLatestInstant {ts : List LastChange} {l : LastChange} (h : IsLatest ts l)
    (stamped : ∀ c ∈ ts, c.Stamped) : IsLatestInstant ts l := by
  rcases h with ⟨t, rfl, greatest⟩ | ⟨blank, last⟩
  · refine ⟨?_, ?_, ?_⟩
    · exact iff_of_false nofun fun none => nomatch none _ greatest.mem
    · rintro _ ⟨⟩
      exact greatest.mem
    · rintro _ ⟨⟩
      obtain ⟨r, -, read, -⟩ := (stamped _ greatest.mem).utc_le (stamped _ greatest.mem)
        (Text.le_refl t)
      refine ⟨r, read, fun other mem => ?_⟩
      obtain ⟨r', r'', read', read'', le⟩ :=
        (stamped _ mem).utc_le (stamped _ greatest.mem) (greatest.le other mem)
      cases read.symm.trans read''
      exact ⟨r', read', le⟩
  · -- Times in UTC are not empty, so that only unset ones leave nothing.
    have unset : ∀ c ∈ ts, c = none := by
      intro c mem
      cases c with
      | none => rfl
      | some text => exact absurd (blank text mem) (stamped _ mem).ne_nil
    obtain rfl := unset l (List.mem_of_getLast? last)
    exact ⟨iff_of_true rfl unset, nofun, nofun⟩

end LastChange

namespace Tally

/-- Where all files give their times in UTC and in full, or give none, the time of a path is that of
the latest instant below it. -/
theorem isLatestInstant_of_stamped {us : List Usage} (stamped : ∀ u ∈ us, u.lastChanged.Stamped)
    {q : Text} {s : Summary} (h : (ofUsages us).summary? q = some s) :
    LastChange.IsLatestInstant (times us q) s.lastChanged := by
  refine (isLatest_times h).isLatestInstant fun c hc => ?_
  obtain ⟨u, hu, rfl⟩ := List.mem_map.1 hc
  exact stamped u (Usage.mem_reaching.1 hu).1

/-- Files from both sides of the end of a February, and one without a time. -/
def overLeapDay : List Usage :=
  [⟨"a/b", 3, some "2024-03-01T00:00:00Z"⟩, ⟨"a\\c", -1, none⟩, ⟨"/", 2, some "2025-01-01T00:00:00Z"⟩,
    ⟨"a/b/d", 1, some "2024-02-29T23:59:59Z"⟩]

theorem isLatestInstant_overLeapDay : (∀ u ∈ overLeapDay, u.lastChanged.Stamped) ∧
    (ofUsages overLeapDay).summary? "a" = some ⟨3, 3, some "2024-03-01T00:00:00Z"⟩ ∧
    LastChange.IsLatestInstant (times overLeapDay "a") (some "2024-03-01T00:00:00Z") := by
  have march : (⟨⟨2024, 3, 1⟩, 0, 0, 0⟩ : DateTime).written ++ [('Z' : CodePoint)] =
      "2024-03-01T00:00:00Z" := by decide +kernel
  have february : (⟨⟨2024, 2, 29⟩, 23, 59, 59⟩ : DateTime).written ++ [('Z' : CodePoint)] =
      "2024-02-29T23:59:59Z" := by decide +kernel
  have january : (⟨⟨2025, 1, 1⟩, 0, 0, 0⟩ : DateTime).written ++ [('Z' : CodePoint)] =
      "2025-01-01T00:00:00Z" := by decide +kernel
  have stamped : ∀ u ∈ overLeapDay, u.lastChanged.Stamped := by
    simp only [overLeapDay, ← march, ← february, ← january, List.forall_mem_cons]
    exact ⟨LastChange.stamped_written (by decide), nofun, LastChange.stamped_written (by decide),
      LastChange.stamped_written (by decide), nofun⟩
  have found : (ofUsages overLeapDay).summary? "a" =
      some ⟨3, 3, some "2024-03-01T00:00:00Z"⟩ := by decide +kernel
  exact ⟨stamped, found, isLatestInstant_of_stamped stamped found⟩

end Tally

end UsageTree
