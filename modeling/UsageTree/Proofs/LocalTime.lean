import UsageTree.Proofs.Attempt
import UsageTree.Proofs.Stamps

/-!
# Times in the local zone

A time with an offset is shown as date and time in the local zone, as many seconds away as the two
zones differ. This is only possible where the calendar has a date for it, in UTC and in the local
zone. All other times are shown whatever they are: with the date and the time that they give, or as
they are if they cannot be read.

## Main definitions

* `Reading.Local` — the date and time that are shown for a reading.
* `Reading.Stranded` — the calendar has no date for a reading.
* `LastChange.Shown` — the texts that are shown.

## Main statements

* `LastChange.display_written` — times that are written in full.
* `LastChange.display_outcomes` — all times.
-/

namespace UsageTree

namespace DateTime

/-- Moving by whole seconds leads from the second of one moment to that of the other. -/
theorem apart_iff_holds {t u : DateTime} (ht : t.Proper) (hu : u.Proper) {m : Moment}
    (holds : t.Holds m) {k : Int} : Apart t u k ↔ u.Holds (m + k * 1000000) := by
  rw [apart_iff ht hu, holds, Holds]
  exact Eq.congr_right (Int.add_mul_ediv_right m k (by decide)).symm

/-- Distances from one date and time add up. -/
theorem apart_of_apart {t u v : DateTime} (ht : t.Proper) (hu : u.Proper) (hv : v.Proper)
    {k l : Int} (first : Apart t u k) : Apart u v l ↔ Apart t v (k + l) := by
  rw [apart_iff ht hu] at first
  rw [apart_iff hu hv, apart_iff ht hv, first, Int.add_assoc]

/-- A moment can be moved within the calendar if there are dates for it before and after. -/
theorem inRange_iff_apart {m : Moment} {k : Int} :
    m.InRange ∧ Moment.InRange (m + k * 1000000) ↔
      ∃ u v : DateTime, u.Valid ∧ v.Valid ∧ u.Holds m ∧ Apart u v k := by
  rw [Moment.inRange_iff, Moment.inRange_iff]
  constructor
  · rintro ⟨⟨u, hu, before⟩, v, hv, after⟩
    exact ⟨u, v, hu, hv, before, (apart_iff_holds hu.proper hv.proper before).2 after⟩
  · rintro ⟨u, v, hu, hv, before, apart⟩
    exact ⟨⟨u, hu, before⟩, v, hv, (apart_iff_holds hu.proper hv.proper before).1 apart⟩

end DateTime

/-! ## Readings -/

namespace Reading

open DateTime

variable {zone : Int} {r : Reading}

/-- The date and time that are shown for a reading: its own without an offset, and with one those of
the local zone, `zone` seconds away from UTC. -/
inductive Local (zone : Int) (r : Reading) : DateTime → Prop where
  | asGiven (plain : r.offset = none) : Local zone r r.dateTime
  | moved {offset : Int} (aware : r.offset = some offset) {utc here : DateTime} (valid : utc.Valid)
    (holds : utc.Holds (r.moment - offset)) (existing : here.Valid) (apart : Apart utc here zone) :
    Local zone r here

/-- There is no date in UTC for a reading with an offset, or none in the local zone. -/
def Stranded (zone : Int) (r : Reading) : Prop :=
  ∃ offset, r.offset = some offset ∧ ¬ (Moment.InRange (r.moment - offset) ∧
    Moment.InRange (r.moment - offset + zone * 1000000))

/-- Both the moment in UTC and the one in the local zone must be in the calendar. -/
theorem localMoment_of_aware {offset : Int} (aware : r.offset = some offset) :
    r.localMoment zone =
      if Moment.InRange (r.moment - offset) ∧
          Moment.InRange (r.moment - offset + zone * 1000000) then
        .ok (r.moment - offset + zone * 1000000)
      else .error .dateRange := by
  rw [localMoment, aware]
  dsimp only
  rw [Moment.check]
  by_cases before : Moment.InRange (r.moment - offset)
  · rw [if_pos before, Attempt.ok_bind, Moment.check]
    simp only [before, true_and]
  · rw [if_neg before, Attempt.error_bind]
    simp only [before, false_and, if_false]

theorem localMoment_eq_error {f : Fault} :
    r.localMoment zone = .error f ↔ f = .dateRange ∧ r.Stranded zone := by
  unfold Stranded
  cases aware : r.offset with
  | none => simp [localMoment, aware]
  | some offset =>
    rw [localMoment_of_aware aware, Attempt.ite_eq_error]
    simp

/-- The second of the moment to which a reading is moved is that of its local date and time. -/
theorem Sound.map_localMoment_eq_ok (sound : Sound r) {s : Text} :
    (r.localMoment zone).map (fun m => (m.text : Text)) = .ok s ↔
      ∃ t, r.Local zone t ∧ s = t.text := by
  cases aware : r.offset with
  | none =>
    have shown : Moment.text r.moment = r.dateTime.text :=
      Moment.text_eq sound.valid_dateTime.proper sound.holds
    have given : r.localMoment zone = .ok r.moment := by rw [localMoment, aware]
    rw [given, Except.map, shown, Except.ok.injEq, eq_comm]
    constructor
    · exact fun h => ⟨r.dateTime, .asGiven aware, h⟩
    · rintro ⟨t, here, h⟩
      cases here with
      | asGiven => exact h
      | moved other => cases aware.symm.trans other
  | some offset =>
    rw [localMoment_of_aware aware]
    constructor
    · intro h
      split at h
      · rename_i there
        obtain ⟨u, v, hu, hv, holds, apart⟩ := inRange_iff_apart.1 there
        have after := (apart_iff_holds hu.proper hv.proper holds).1 apart
        rw [Except.map, Moment.text_eq hv.proper after, Except.ok.injEq] at h
        exact ⟨v, .moved aware hu holds hv apart, h.symm⟩
      · cases h
    · rintro ⟨t, here, h⟩
      cases here with
      | asGiven plain => cases aware.symm.trans plain
      | @moved offset' other u _ hu holds hv apart =>
        cases aware.symm.trans other
        have after := (apart_iff_holds hu.proper hv.proper holds).1 apart
        rw [if_pos (inRange_iff_apart.2 ⟨u, t, hu, hv, holds, apart⟩), Except.map,
          Moment.text_eq hv.proper after, h]

/-- Only readings of the first two and the last two days can be stranded. -/
theorem Stranded.date_mem (sound : Sound r) (west : -86400 < zone) (east : zone < 86400)
    (h : r.Stranded zone) :
    r.date ∈ [⟨1, 1, 1⟩, ⟨1, 1, 2⟩, ⟨9999, 12, 30⟩, ⟨9999, 12, 31⟩] := by
  obtain ⟨offset, aware, outside⟩ := h
  obtain ⟨low, high⟩ := sound.offset offset aware
  have proper := sound.valid_dateTime.proper
  have pos : 1 ≤ r.date.toDay := proper.1.toDay_pos
  have last : r.date.toDay ≤ 3652059 := proper.1.valid_iff.1 sound.date
  have told : Date.ofDay r.date.toDay = r.date := Date.ofDay_toDay proper.1
  have edge : r.date.toDay = 1 ∨ r.date.toDay = 2 ∨ r.date.toDay = 3652058 ∨
      r.date.toDay = 3652059 := by
    have time := proper.clock_seconds_lt
    have micro := sound.micro
    have number : r.dateTime.seconds = (r.date.toDay - 1) * 86400 + r.dateTime.clock.seconds := rfl
    have limit : ((Date.lastDay * dayMicros : Nat) : Int) = 3652059 * 86400000000 := by decide
    have day : (dayMicros : Int) = 86400000000 := by decide
    obtain ⟨m, moment⟩ : ∃ m : Int, m = (r.dateTime.seconds * 1000000 + r.clock.micro : Nat) :=
      ⟨_, rfl⟩
    rw [day] at low high
    have within (k : Int) (above : 0 ≤ k) (below : k < 3652059 * 86400000000) :
        Moment.InRange k := ⟨above, by rwa [limit]⟩
    by_contra inside
    have gap : 0 ≤ m - offset ∧ m - offset < 3652059 * 86400000000 ∧
        0 ≤ m - offset + zone * 1000000 ∧
        m - offset + zone * 1000000 < 3652059 * 86400000000 := by
      omega
    rw [moment_eq, ← moment] at outside
    exact outside ⟨within _ gap.1 gap.2.1, within _ gap.2.2.1 gap.2.2.2⟩
  rcases edge with day | day | day | day <;> rw [← told, day] <;> decide

end Reading

/-! ## Texts -/

namespace LastChange

open DateTime Reading

variable {zone : Int}

/-- The time can be read, but the calendar has no date for it. -/
def Stranded (zone : Int) (v : LastChange) : Prop :=
  ∃ text r, v = some text ∧ ofText? text = some r ∧ r.Stranded zone

/-- What is shown for a time: a dash for none, the text for one that cannot be read, and otherwise
the local date and time. -/
inductive Shown (zone : Int) : LastChange → Text → Prop where
  | unset : Shown zone none "-"
  | empty : Shown zone (some []) "-"
  | unread {text : Text} (nonempty : text ≠ []) (unread : ofText? text = none) :
    Shown zone (some text) text
  | read {text : Text} {r : Reading} (read : ofText? text = some r) {t : DateTime}
    (here : r.Local zone t) : Shown zone (some text) t.text

/-- A time is not given, or is a text that cannot be read or that can. -/
theorem reading_cases (v : LastChange) : v = none ∨ v = some [] ∨
    (∃ text, v = some text ∧ text ≠ [] ∧ ofText? text = none) ∨
    ∃ text r, v = some text ∧ ofText? text = some r := by
  cases v with
  | none => exact .inl rfl
  | some text =>
    by_cases empty : text = []
    · exact .inr (.inl (congrArg some empty))
    · cases read : ofText? text with
      | none => exact .inr (.inr (.inl ⟨text, rfl, empty, read⟩))
      | some r => exact .inr (.inr (.inr ⟨text, r, rfl, read⟩))

theorem display_of_ofText? {text : Text} {r : Reading} (read : ofText? text = some r) :
    display zone (some text) = (r.localMoment zone).map fun m => (m.text : Text) := by
  have nonempty : text ≠ [] := by
    rintro rfl
    cases read
  rw [display, if_neg nonempty, read]
  dsimp only
  cases r.localMoment zone <;> rfl

theorem display_of_unread {text : Text} (nonempty : text ≠ []) (unread : ofText? text = none) :
    display zone (some text) = .ok text := by
  rw [display, if_neg nonempty, unread]

theorem display_eq_ok {v : LastChange} {s : Text} : display zone v = .ok s ↔ Shown zone v s := by
  constructor
  · intro h
    rcases v.reading_cases with rfl | rfl | ⟨text, rfl, nonempty, unread⟩ | ⟨text, r, rfl, read⟩
    · cases h
      exact .unset
    · cases h
      exact .empty
    · rw [display_of_unread nonempty unread] at h
      cases h
      exact .unread nonempty unread
    · rw [display_of_ofText? read, (sound_of_ofText? read).map_localMoment_eq_ok] at h
      obtain ⟨t, here, h⟩ := h
      rw [h]
      exact .read read here
  · intro h
    cases h with
    | unset => rfl
    | empty => rfl
    | unread nonempty unread => exact display_of_unread nonempty unread
    | @read _ _ read t here =>
      rw [display_of_ofText? read, (sound_of_ofText? read).map_localMoment_eq_ok]
      exact ⟨t, here, rfl⟩

theorem display_eq_error {v : LastChange} {f : Fault} :
    display zone v = .error f ↔ f = .dateRange ∧ v.Stranded zone := by
  constructor
  · intro h
    rcases v.reading_cases with rfl | rfl | ⟨text, rfl, nonempty, unread⟩ | ⟨text, r, rfl, read⟩
    · cases h
    · cases h
    · rw [display_of_unread nonempty unread] at h
      cases h
    · rw [display_of_ofText? read, Attempt.map_eq_error, localMoment_eq_error] at h
      exact ⟨h.1, text, r, rfl, read, h.2⟩
  · rintro ⟨rfl, text, r, rfl, read, stranded⟩
    rw [display_of_ofText? read, localMoment_eq_error.2 ⟨rfl, stranded⟩]
    rfl

/-! ### Times written in full -/

/-- A time that is written with an offset is shown with the date and the time that are so many
seconds away as the local zone and the offset differ, unless these or those of UTC lie outside the
years 1 to 9999. A `Z` stands for an offset of zero, and without an offset nothing is moved. -/
theorem display_written {t : DateTime} (valid : t.Valid) {o : Offset} (short : o.Valid)
    (zone : Int) :
    (∀ utc here : DateTime, utc.Valid → here.Valid → Apart t utc (-o.seconds) →
        Apart t here (zone - o.seconds) →
        display zone (some (t.written ++ o.written)) = .ok here.text) ∧
      ((¬ ∃ utc here : DateTime, utc.Valid ∧ here.Valid ∧ Apart t utc (-o.seconds) ∧
          Apart t here (zone - o.seconds)) →
        display zone (some (t.written ++ o.written)) = .error .dateRange) ∧
      display zone (some (t.written ++ [('Z' : CodePoint)])) =
        display zone (some (t.written ++ (⟨false, 0, 0⟩ : Offset).written)) ∧
      display zone (some t.written) = .ok t.text := by
  have read := ofText?_written_append valid short
  have first : t.Holds (⟨t.date, t.clock, some (o.seconds * 1000000)⟩ : Reading).moment :=
    (sound_of_ofText? read).holds
  have utcMoment (m : Moment) : m - o.seconds * 1000000 = m + -o.seconds * 1000000 := by
    rw [Int.neg_mul, Int.sub_eq_add_neg]
  have sum : zone - o.seconds = -o.seconds + zone := by omega
  rw [sum]
  refine ⟨fun utc here hu hh toUtc toHere => ?_, fun gone => ?_, ?_, ?_⟩
  · have holds := (apart_iff_holds valid.proper hu.proper first).1 toUtc
    rw [← utcMoment] at holds
    have moved := (apart_of_apart valid.proper hu.proper hh.proper toUtc).2 toHere
    exact display_eq_ok.2 (.read read (.moved rfl hu holds hh moved))
  · refine display_eq_error.2 ⟨rfl, _, _, rfl, read, _, rfl, fun there => gone ?_⟩
    obtain ⟨utc, here, hu, hh, holds, moved⟩ := inRange_iff_apart.1 there
    rw [utcMoment] at holds
    have toUtc := (apart_iff_holds valid.proper hu.proper first).2 holds
    exact ⟨utc, here, hu, hh, toUtc,
      (apart_of_apart valid.proper hu.proper hh.proper toUtc).1 moved⟩
  · have zero : (⟨false, 0, 0⟩ : Offset).Valid := by decide
    have utc := ofText?_written_append valid zero
    rw [display_of_ofText? ((ofText?_written_z t).trans utc), display_of_ofText? utc]
  · exact display_eq_ok.2 (.read (ofText?_written valid) (.asGiven rfl))

/-- From west of UTC to the east over the end of a February, and over the end of the last year. -/
theorem display_written_leapDay :
    display 3600 (some "2024-02-28T23:30:00-01:30") = .ok "2024-02-29 02:00:00" ∧
      display 0 (some "9999-12-31T23:59:00-00:01") = .error .dateRange := by
  have west : (⟨true, 1, 30⟩ : Offset).Valid ∧ (⟨true, 0, 1⟩ : Offset).Valid := by decide
  constructor
  · have valid : (⟨⟨2024, 2, 28⟩, 23, 30, 0⟩ : DateTime).Valid := by decide
    have utc : (⟨⟨2024, 2, 29⟩, 1, 0, 0⟩ : DateTime).Valid := by decide
    have here : (⟨⟨2024, 2, 29⟩, 2, 0, 0⟩ : DateTime).Valid := by decide
    have text : (⟨⟨2024, 2, 28⟩, 23, 30, 0⟩ : DateTime).written ++
        (⟨true, 1, 30⟩ : Offset).written = "2024-02-28T23:30:00-01:30" := by decide +kernel
    have shown : (⟨⟨2024, 2, 29⟩, 2, 0, 0⟩ : DateTime).text = "2024-02-29 02:00:00" := by
      decide +kernel
    rw [← text, ← shown]
    exact (display_written valid west.1 3600).1 _ _ utc here
      ((apart_iff valid.proper utc.proper).2 (by decide))
      ((apart_iff valid.proper here.proper).2 (by decide))
  · have valid : (⟨⟨9999, 12, 31⟩, 23, 59, 0⟩ : DateTime).Valid := by decide
    have text : (⟨⟨9999, 12, 31⟩, 23, 59, 0⟩ : DateTime).written ++
        (⟨true, 0, 1⟩ : Offset).written = "9999-12-31T23:59:00-00:01" := by decide +kernel
    rw [← text]
    refine (display_written valid west.2 0).2.1 ?_
    rintro ⟨utc, -, existing, -, toUtc, -⟩
    have before := existing.proper.valid_iff.1 existing
    have number := (apart_iff valid.proper existing.proper).1 toUtc
    have last : ((⟨⟨9999, 12, 31⟩, 23, 59, 0⟩ : DateTime).seconds : Int) -
      (⟨true, 0, 1⟩ : Offset).seconds = limit := by decide
    omega

/-! ### All times -/

/-- What is shown for each time is told by `Shown`, and nothing is shown for the others: the times
that can be read but not be moved within the calendar. In the zones of less than a day these are
times of the first or the last two days of the calendar. -/
theorem display_outcomes (zone : Int) (v : LastChange) :
    (∀ s, display zone v = .ok s ↔ Shown zone v s) ∧
      (∀ f, display zone v = .error f ↔ f = .dateRange ∧ v.Stranded zone) ∧
      (-86400 < zone → zone < 86400 → v.Stranded zone → ∃ text r, v = some text ∧
        ofText? text = some r ∧
        r.date ∈ [⟨1, 1, 1⟩, ⟨1, 1, 2⟩, ⟨9999, 12, 30⟩, ⟨9999, 12, 31⟩]) := by
  refine ⟨fun s => display_eq_ok, fun f => display_eq_error, fun west east stranded => ?_⟩
  obtain ⟨text, r, h, read, stranded⟩ := stranded
  exact ⟨text, r, h, read, stranded.date_mem (sound_of_ofText? read) west east⟩

theorem display_outcomes_secondDay : ∃ text r, ofText? text = some r ∧ r.date = ⟨1, 1, 2⟩ ∧
    display (-3600) (some text) = .error .dateRange ∧
    r.date ∈ [⟨1, 1, 1⟩, ⟨1, 1, 2⟩, ⟨9999, 12, 30⟩, ⟨9999, 12, 31⟩] := by
  have failed : display (-3600) (some "0001-01-02T00:00:00+23:30") = .error .dateRange := by
    decide +kernel
  have east : Reading.ofText? "0001-01-02T00:00:00+23:30" =
      some ⟨⟨1, 1, 2⟩, ⟨0, 0, 0, 0⟩, some 84600000000⟩ := by
    decide +kernel
  have outcomes := display_outcomes (-3600) (some "0001-01-02T00:00:00+23:30")
  have stranded := ((outcomes.2.1 _).1 failed).2
  obtain ⟨text, r, h, read, day⟩ := outcomes.2.2 (by decide) (by decide) stranded
  cases h
  cases east.symm.trans read
  exact ⟨_, _, east, rfl, failed, day⟩

/-- A time that can be read and for which nothing is shown: in UTC it is still the year before the
first. -/
theorem display_beforeFirstYear :
    display 0 (some "0001-01-01T00:00:00+01:00") = .error .dateRange ∧
      ¬ ∃ s, display 0 (some "0001-01-01T00:00:00+01:00") = .ok s := by
  have failed : display 0 (some "0001-01-01T00:00:00+01:00") = .error .dateRange := by
    decide +kernel
  rw [failed]
  exact ⟨rfl, fun ⟨_, h⟩ => nomatch h⟩

end LastChange

end UsageTree
