import Mathlib.Data.Nat.Log
import UsageTree.Proofs.Chronology
import UsageTree.Proofs.LocalTime
import UsageTree.Text

/-!
# How shown times look

A time that can be read is shown in nineteen characters from the year 1000 on. Earlier years are
shown without leading zeros, so that the text is shorter and out of line, and not in order with
others. Whatever is shown is shown again as it is, in every zone: a date in full is read back and
has no offset, and the text of an earlier year cannot be read.

## Main definitions

* `Text.layout`, `Text.Uniform` — a text without regard to what its digits are, and the layout of
  nineteen characters.
* `LastChange.ReadAs` — the date and time in the local zone as which a text is read.
* `LastChange.LaidOut` — how a date and time are shown.

## Main statements

* `LastChange.display_idem` — what is shown is shown again.
* `LastChange.exists_laidOut_of_changed` — the layout of the times that are read.
-/

namespace UsageTree

namespace Text

/-- The text with a zero in place of every digit. -/
def layout (s : Text) : Text := s.map fun c => if isDigit c then '0' else c

/-- Nineteen characters, of which fourteen are digits, for a date and a time of day. -/
def Uniform (s : Text) : Prop := s.layout = "0000-00-00 00:00:00"

instance (s : Text) : Decidable s.Uniform := by unfold Uniform; infer_instance

@[simp] theorem layout_append (s t : Text) : (s ++ t).layout = s.layout ++ t.layout :=
  List.map_append

@[simp] theorem layout_cons (c : CodePoint) (s : Text) :
    layout (c :: s) = (if isDigit c then ('0' : CodePoint) else c) :: s.layout := rfl

theorem length_layout (s : Text) : s.layout.length = s.length := List.length_map _

@[simp] theorem layout_padded (k n : Nat) : (padded k n).layout = List.replicate k ('0' : CodePoint) := by
  have each : ∀ d < 10, isDigit (CodePoint.ofNat (48 + d)) = true := by decide
  refine List.eq_replicate_iff.2 ⟨?_, fun c hc => ?_⟩
  · have length := Reading.length_bytes_padded k n
    rwa [bytes, List.length_map, ← length_layout] at length
  · obtain ⟨x, hx, rfl⟩ := List.mem_map.1 hc
    obtain ⟨d, hd, rfl⟩ := Reading.exists_of_mem_padded hx
    rw [if_pos (each d hd)]

/-! ## Numbers in writing -/

theorem ofString_append (s t : String) : ofString (s ++ t) = ofString s ++ ofString t := by
  simp [ofString, String.toList_append]

theorem ofString_toString (n : Nat) :
    ofString (toString n) = (Nat.toDigits 10 n).map CodePoint.ofChar := by
  rw [ofString, ← Nat.toList_repr]
  rfl

theorem ofChar_digitChar {d : Nat} (h : d < 10) :
    CodePoint.ofChar (Nat.digitChar d) = CodePoint.ofNat (48 + d) := by
  rw [CodePoint.ofChar, Nat.toNat_digitChar_of_lt_ten h]

/-- A number without leading zeros has one digit more than its logarithm. -/
theorem ofString_toString_eq_padded {k n : Nat} (low : 10 ^ k ≤ n) (high : n < 10 ^ (k + 1)) :
    ofString (toString n) = padded (k + 1) n := by
  rw [ofString_toString]
  induction k generalizing n with
  | zero =>
    have one : n < 10 := high
    rw [Nat.toDigits_of_lt_base one, List.map_singleton, ofChar_digitChar one, padded,
      Nat.mod_eq_of_lt one]
    rfl
  | succ k ih =>
    rw [Nat.pow_succ] at low high
    have digit := Nat.mod_lt n (by decide : 10 > 0)
    have ten : 10 ≤ n := (Nat.le_mul_of_pos_left 10 (Nat.pow_pos (by decide))).trans low
    rw [Nat.toDigits_of_base_le (by decide) ten, List.map_append, ih (by omega) (by omega),
      List.map_singleton, ofChar_digitChar digit]
    rfl

end Text

/-! ## Dates and times in writing -/

theorem Moment.ofString_two {n : Nat} (h : n < 100) : Text.ofString (two n) = Text.padded 2 n := by
  by_cases small : n < 10
  · rw [two, if_pos small, Text.ofString_append, Text.ofString_toString,
      Nat.toDigits_of_lt_base small, List.map_singleton, Text.ofChar_digitChar small]
    simp only [Text.padded, Nat.div_eq_of_lt small, Nat.mod_eq_of_lt small]
    rfl
  · rw [two, if_neg small]
    exact Text.ofString_toString_eq_padded (by omega) h

namespace DateTime

variable {t : DateTime}

/-- The number of digits of the year. -/
def yearDigits (t : DateTime) : Nat := Nat.log 10 t.date.year + 1

/-- What follows the year in writing. -/
def afterYear (t : DateTime) : Text :=
  ('-' : CodePoint) :: (Text.padded 2 t.date.month ++ ('-' : CodePoint) ::
    (Text.padded 2 t.date.day ++ (' ' : CodePoint) :: t.clock.written))

theorem Valid.yearDigits_bounds (h : t.Valid) : 1 ≤ t.yearDigits ∧ t.yearDigits ≤ 4 := by
  obtain ⟨-, last⟩ := Date.valid_iff_proper.1 h.1
  have short : Nat.log 10 t.date.year < 4 := Nat.log_lt_of_lt_pow' (by decide) (by omega)
  exact ⟨Nat.le_add_left 1 _, short⟩

/-- Four digits are needed from the year 1000 on. -/
theorem Valid.yearDigits_eq_four (h : t.Valid) : t.yearDigits = 4 ↔ 1000 ≤ t.date.year := by
  obtain ⟨proper, last⟩ := Date.valid_iff_proper.1 h.1
  have year := proper.year
  have digits := Nat.le_log_iff_pow_le (b := 10) (x := 3) (y := t.date.year) (by decide) (by omega)
  have bounds := h.yearDigits_bounds
  unfold yearDigits at *
  omega

/-- The year in writing has no leading zeros, and all other parts have two digits. -/
theorem Valid.ofString_text (h : t.Valid) :
    Text.ofString t.text = Text.padded t.yearDigits t.date.year ++ t.afterYear := by
  obtain ⟨proper, -⟩ := Date.valid_iff_proper.1 h.1
  obtain ⟨-, hour, minute, second⟩ := h
  simp only [clock] at hour minute second
  have month := proper.month
  have day := proper.day_le_max
  have year : Text.ofString (toString t.date.year) = Text.padded t.yearDigits t.date.year :=
    Text.ofString_toString_eq_padded (Nat.pow_log_le_self 10 (by have := proper.year; omega))
      (Nat.lt_pow_succ_log_self (by decide) _)
  have marks : Text.ofString "-" = [('-' : CodePoint)] ∧ Text.ofString " " = [(' ' : CodePoint)] ∧
      Text.ofString ":" = [(':' : CodePoint)] := by decide
  simp only [text, Text.ofString_append, year, marks, afterYear, Clock.written, clock,
    Moment.ofString_two (by omega : t.date.month < 100),
    Moment.ofString_two (by omega : t.date.day < 100),
    Moment.ofString_two (by omega : t.hour < 100), Moment.ofString_two (by omega : t.minute < 100),
    Moment.ofString_two (by omega : t.second < 100), List.append_assoc, List.cons_append,
    List.nil_append]

theorem layout_afterYear (t : DateTime) : t.afterYear.layout = "-00-00 00:00:00" := by
  simp only [afterYear, Clock.written, Text.layout_append, Text.layout_cons, Text.layout_padded]
  decide

/-- In layout times differ by the digits of their years alone. -/
theorem Valid.layout_text (h : t.Valid) : Text.layout t.text =
    List.replicate t.yearDigits ('0' : CodePoint) ++ "-00-00 00:00:00" := by
  rw [h.ofString_text, Text.layout_append, Text.layout_padded, layout_afterYear]

theorem Valid.uniform_text (h : t.Valid) : Text.Uniform t.text ↔ 1000 ≤ t.date.year := by
  have four : ("0000-00-00 00:00:00" : Text) =
      List.replicate 4 ('0' : CodePoint) ++ "-00-00 00:00:00" := by decide
  rw [Text.Uniform, h.layout_text, four, List.append_left_inj, List.replicate_inj,
    h.yearDigits_eq_four]
  simp

/-- Years of four digits are written as they are with leading zeros. -/
theorem Valid.ofString_text_of_le (h : t.Valid) (late : 1000 ≤ t.date.year) :
    Text.ofString t.text = t.date.written ++ (' ' : CodePoint) :: t.clock.written := by
  rw [h.ofString_text, h.yearDigits_eq_four.2 late]
  simp only [afterYear, Date.written, List.append_assoc, List.cons_append]

/-- Shown times of years with four digits are ordered as texts as they follow each other. -/
theorem Valid.le_text_iff {u : DateTime} (ht : t.Valid) (hu : u.Valid) (late : 1000 ≤ t.date.year)
    (late' : 1000 ≤ u.date.year) : Text.le t.text u.text ↔ t.seconds ≤ u.seconds := by
  have order := le_written_iff ht hu ' ' []
  rwa [List.append_nil, List.append_nil, ← ht.ofString_text_of_le late,
    ← hu.ofString_text_of_le late'] at order

end DateTime

/-! ## Shown times read back -/

namespace Reading

variable {t : DateTime}

theorem isPlain_text (h : t.Valid) : (t.text : Text).all isPlain = true := by
  have marks : isPlain '-' = true ∧ isPlain ' ' = true ∧ isPlain ':' = true := by decide
  simp [h.ofString_text, DateTime.afterYear, Clock.written, List.all_append, marks]

/-- A shown time of a year with four digits is read as it is. -/
theorem ofText?_text (h : t.Valid) (late : 1000 ≤ t.date.year) :
    ofText? t.text = some ⟨t.date, t.clock, none⟩ := by
  rw [h.ofString_text_of_le late]
  exact ofText?_separated h (by decide)

/-- A date begins with four digits. -/
theorem isDigit_of_ofBytes? {b : List UInt8} {r : Reading} (h : ofBytes? b = some r) {j : Nat}
    (hj : j < 4) : isDigit (byteAt b j) = true := by
  obtain ⟨stop, -, h⟩ := Option.bind_eq_some_iff.1 h
  obtain ⟨date, read, -⟩ := Option.bind_eq_some_iff.1 h
  obtain ⟨year, read, -⟩ := Option.bind_eq_some_iff.1 read
  rw [← Nat.zero_add j]
  exact isDigit_of_number? read hj

/-- A shown time of an earlier year is not read: its first dash stands where a digit should. -/
theorem ofText?_text_of_lt (h : t.Valid) (early : t.date.year < 1000) : ofText? t.text = none := by
  have digits := h.yearDigits_bounds
  have four := h.yearDigits_eq_four
  have dash : byteAt (Text.bytes t.text) t.yearDigits = ascii '-' := by
    have length := length_bytes_padded t.yearDigits t.date.year
    rw [h.ofString_text, Text.bytes_append, byteAt, List.getD_append_right _ _ _ _ length.le,
      length, Nat.sub_self]
    rfl
  rw [ofText?_of_plain (isPlain_text h), Option.eq_none_iff_forall_ne_some]
  intro r read
  have digit := isDigit_of_ofBytes? read (j := t.yearDigits) (by omega)
  rw [dash] at digit
  cases digit

end Reading

namespace LastChange

open DateTime Reading

variable {zone : Int}

/-- The text is read, and `t` is its date and time in the local zone. -/
def ReadAs (zone : Int) (text : Text) (t : DateTime) : Prop :=
  ∃ r, ofText? text = some r ∧ r.Local zone t

theorem ReadAs.valid {text : Text} {t : DateTime} (h : ReadAs zone text t) : t.Valid := by
  obtain ⟨r, read, here⟩ := h
  cases here with
  | asGiven => exact (sound_of_ofText? read).valid_dateTime
  | moved _ _ _ existing => exact existing

/-- A shown time is shown as it is, in every zone. -/
theorem display_text {t : DateTime} (valid : t.Valid) :
    display zone (some t.text) = .ok t.text := by
  by_cases late : 1000 ≤ t.date.year
  · exact display_eq_ok.2 (.read (ofText?_text valid late) (.asGiven rfl))
  · refine display_of_unread (fun empty => ?_) (ofText?_text_of_lt valid (Nat.lt_of_not_le late))
    have length := congrArg List.length valid.ofString_text
    rw [empty, List.length_append] at length
    simp [afterYear] at length

/-- What is shown for a time, in whatever zone, is shown again as it is in every other zone. -/
theorem display_idem {zone' : Int} {v : LastChange} {s : Text} (h : display zone v = .ok s) :
    display zone' (some s) = .ok s := by
  have dash : display zone' (some "-") = .ok "-" :=
    display_of_unread (by decide) (by decide +kernel)
  -- What is shown for an unset time and for one that cannot be read cannot be read either.
  cases display_eq_ok.1 h with
  | unset => exact dash
  | empty => exact dash
  | unread nonempty unread => exact display_of_unread nonempty unread
  | read read here => exact display_text (ReadAs.valid ⟨_, read, here⟩)

/-- A time of the year 9, moved by one hour, and then not moved again. -/
theorem display_idem_earlyYear :
    display 3600 (some "0009-05-05T23:30:00Z") = .ok "9-05-06 00:30:00" ∧
      display (-7200) (some "9-05-06 00:30:00") = .ok "9-05-06 00:30:00" := by
  have shown : display 3600 (some "0009-05-05T23:30:00Z") = .ok "9-05-06 00:30:00" := by
    decide +kernel
  exact ⟨shown, display_idem shown⟩

/-- How the date and time `t` of a time that was read are shown as `s`. -/
structure LaidOut (zone : Int) (s : Text) (t : DateTime) : Prop where
  text : s = t.text
  layout : s.layout = List.replicate t.yearDigits ('0' : CodePoint) ++ "-00-00 00:00:00"
  /-- Nineteen characters are shown for the years from 1000 on, and fewer for the others. -/
  uniform_iff : s.Uniform ↔ 1000 ≤ t.date.year
  shorter : ¬ s.Uniform → s.length < 19
  /-- Texts of nineteen characters are ordered as they follow each other in time. -/
  le_iff : ∀ other u, ReadAs zone other u → s.Uniform → Text.Uniform u.text →
    (Text.le s u.text ↔ ∃ n : Nat, Apart t u n)

theorem ReadAs.laidOut {text : Text} {t : DateTime} (h : ReadAs zone text t) :
    LaidOut zone t.text t where
  text := rfl
  layout := h.valid.layout_text
  uniform_iff := h.valid.uniform_text
  shorter early := by
    rw [h.valid.uniform_text] at early
    have digits := h.valid.yearDigits_bounds
    have four := h.valid.yearDigits_eq_four
    have tail : ("-00-00 00:00:00" : Text).length = 15 := by decide
    rw [← Text.length_layout, h.valid.layout_text, List.length_append, List.length_replicate, tail]
    omega
  le_iff other u known first second := by
    rw [h.valid.le_text_iff known.valid (h.valid.uniform_text.1 first)
      (known.valid.uniform_text.1 second)]
    simp only [apart_iff h.valid.proper known.valid.proper]
    constructor
    · intro le
      exact ⟨u.seconds - t.seconds, by omega⟩
    · rintro ⟨n, later⟩
      omega

/-- A text that is shown in another way was read, and is shown in nineteen characters if its local
year has four digits. -/
theorem exists_laidOut_of_changed {text s : Text} (given : text ≠ []) (changed : s ≠ text)
    (shown : display zone (some text) = .ok s) : ∃ t, ReadAs zone text t ∧ LaidOut zone s t := by
  cases display_eq_ok.1 shown with
  | empty => exact absurd rfl given
  | unread => exact absurd rfl changed
  | @read _ r read t here =>
    have known : ReadAs zone text t := ⟨r, read, here⟩
    exact ⟨t, known, known.laidOut⟩

/-- The Thursday of a numbered week, with a fraction of a second and an offset. -/
theorem exists_laidOut_weekDate :
    display 3600 (some "2024-W09-4T23:30:00,75-01:30") = .ok "2024-03-01 02:00:00" ∧
      Text.Uniform "2024-03-01 02:00:00" ∧
      ∃ t, ReadAs 3600 "2024-W09-4T23:30:00,75-01:30" t ∧ LaidOut 3600 "2024-03-01 02:00:00" t := by
  have shown : display 3600 (some "2024-W09-4T23:30:00,75-01:30") = .ok "2024-03-01 02:00:00" := by
    decide +kernel
  exact ⟨shown, by decide, exists_laidOut_of_changed (by decide) (by decide) shown⟩

/-- The last second of the year 999 is read and shown in eighteen characters, as a greater text than
the second after it. -/
theorem display_yearOfThreeDigits :
    display 0 (some "0999-12-31T23:59:59") = .ok "999-12-31 23:59:59" ∧
      ("999-12-31 23:59:59" : Text) ≠ "0999-12-31T23:59:59" ∧ ¬ Text.Uniform "999-12-31 23:59:59" ∧
      display 0 (some "1000-01-01T00:00:00") = .ok "1000-01-01 00:00:00" ∧
      ¬ Text.le "999-12-31 23:59:59" "1000-01-01 00:00:00" := by
  decide +kernel

end LastChange

end UsageTree
