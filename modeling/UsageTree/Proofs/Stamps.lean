import Mathlib.Algebra.Order.Ring.Nat
import UsageTree.Proofs.Readings

/-!
# Reading what is written

Date and time with leading zeros, with or without an offset behind them, are read as what was
written.

## Main definitions

* `Text.padded` — a number in so many digits.
* `DateTime.written` — date and time, every part padded with zeros.
* `Offset` — hours and minutes east or west of UTC.

## Main statements

* `Reading.ofText?_written`, `Reading.ofText?_written_append` — what is written is read.
-/

namespace UsageTree

/-! ## Writing -/

namespace Text

/-- The last `k` decimal digits of a number. -/
def padded : (k n : Nat) → Text
  | 0, _ => []
  | k + 1, n => padded k (n / 10) ++ [CodePoint.ofNat (48 + n % 10)]

/-- A text of ASCII characters in bytes. -/
def bytes (t : Text) : List UInt8 := t.map fun c => UInt8.ofNat c.val

theorem bytes_append (s t : Text) : bytes (s ++ t) = bytes s ++ bytes t := List.map_append

end Text

/-- Year, month and day in four, two and two digits. -/
def Date.written (d : Date) : Text :=
  Text.padded 4 d.year ++ ('-' : CodePoint) :: (Text.padded 2 d.month ++
    ('-' : CodePoint) :: Text.padded 2 d.day)

/-- Hours, minutes and seconds in two digits each. -/
def Clock.written (c : Clock) : Text :=
  Text.padded 2 c.hour ++ (':' : CodePoint) :: (Text.padded 2 c.minute ++
    (':' : CodePoint) :: Text.padded 2 c.second)

/-- Date and time, divided by a `T`. -/
def DateTime.written (t : DateTime) : Text := t.date.written ++ ('T' : CodePoint) :: t.clock.written

/-- Hours and minutes east or west of UTC. -/
structure Offset where
  west : Bool
  hour : Nat
  minute : Nat
  deriving Repr, DecidableEq

namespace Offset

/-- The offset is less than a day. -/
def Valid (o : Offset) : Prop := o.hour ≤ 23 ∧ o.minute ≤ 59

instance (o : Offset) : Decidable o.Valid := by unfold Valid; infer_instance

/-- The offset in seconds east of UTC. -/
def seconds (o : Offset) : Int :=
  if o.west then -(o.hour * 3600 + o.minute * 60 : Nat) else (o.hour * 3600 + o.minute * 60 : Nat)

/-- A sign with hours and minutes in two digits each. -/
def written (o : Offset) : Text :=
  (if o.west then '-' else '+' : Char) :: (Text.padded 2 o.hour ++
    (':' : CodePoint) :: Text.padded 2 o.minute)

end Offset

/-! ## Digits -/

namespace Reading

open Text

theorem byteAt_add (b : List UInt8) (i j : Nat) : byteAt b (i + j) = byteAt (b.drop i) j := by
  simp [byteAt, List.getD_eq_getElem?_getD]

theorem length_bytes_padded (k n : Nat) : (padded k n).bytes.length = k := by
  induction k generalizing n with
  | zero => rfl
  | succ k ih => rw [padded, bytes_append, List.length_append, ih, bytes, List.map_singleton,
      List.length_singleton]

/-- The digits of a number are ASCII digits. -/
theorem exists_of_mem_padded {k n : Nat} {c : CodePoint} (h : c ∈ padded k n) :
    ∃ d < 10, c = CodePoint.ofNat (48 + d) := by
  induction k generalizing n with
  | zero => cases h
  | succ k ih =>
    rw [padded, List.mem_append, List.mem_singleton] at h
    rcases h with h | rfl
    · exact ih h
    · exact ⟨n % 10, Nat.mod_lt n (by decide), rfl⟩

/-- The byte of a digit. -/
theorem digit_byte {d : Nat} (h : d < 10) :
    isDigit (UInt8.ofNat (CodePoint.ofNat (48 + d)).val) = true ∧
      (UInt8.ofNat (CodePoint.ofNat (48 + d)).val).toNat = 48 + d := by
  have each : ∀ d < 10, isDigit (UInt8.ofNat (CodePoint.ofNat (48 + d)).val) = true ∧
      (UInt8.ofNat (CodePoint.ofNat (48 + d)).val).toNat = 48 + d := by decide
  exact each d h

/-- Digits are read as the number they were written for. -/
theorem number?_padded {b rest : List UInt8} {i k n : Nat}
    (here : b.drop i = (padded k n).bytes ++ rest) : number? b i k = some (n % 10 ^ k) := by
  induction k generalizing n rest with
  | zero => simp [number?, Nat.mod_one]
  | succ k ih =>
    rw [padded, bytes_append, List.append_assoc] at here
    have last : byteAt b (i + k) = UInt8.ofNat (CodePoint.ofNat (48 + n % 10)).val := by
      have behind := length_bytes_padded k (n / 10)
      rw [byteAt_add, here, byteAt, List.getD_append_right _ _ _ _ behind.le, behind, Nat.sub_self]
      rfl
    obtain ⟨digit, value⟩ := digit_byte (Nat.mod_lt n (by decide : 10 > 0))
    rw [number?, ih here, last]
    simp only [Option.bind_eq_bind, Option.bind_some, digit, if_true, value, Option.some.injEq]
    rw [Nat.pow_succ', Nat.mod_mul]
    omega

/-- Two digits are read as the number they were written for. -/
theorem number?_two {b rest : List UInt8} {i n : Nat} (here : b.drop i = (padded 2 n).bytes ++ rest)
    (small : n < 100) : number? b i 2 = some n :=
  (number?_padded here).trans (congrArg some (Nat.mod_eq_of_lt small))

theorem isDigit_of_mem_padded {k n : Nat} {x : UInt8} (h : x ∈ (padded k n).bytes) :
    isDigit x = true := by
  obtain ⟨c, hc, rfl⟩ := List.mem_map.1 h
  obtain ⟨d, hd, rfl⟩ := exists_of_mem_padded hc
  exact (digit_byte hd).1

/-! ## Times of day -/

variable {b rest : List UInt8} {i : Nat}

theorem bytes_clock (c : Clock) (rest : List UInt8) : c.written.bytes ++ rest =
    (padded 2 c.hour).bytes ++ ascii ':' ::
      ((padded 2 c.minute).bytes ++ ascii ':' :: ((padded 2 c.second).bytes ++ rest)) := by
  simp only [Clock.written, bytes, List.map_append, List.map_cons, List.append_assoc,
    List.cons_append]
  rfl

/-- Hours and minutes, and whether anything stands behind them. -/
theorem clock?_hourMinute {h m : Nat}
    (here : b.drop i = (padded 2 h).bytes ++ ascii ':' :: ((padded 2 m).bytes ++ rest))
    (hh : h < 100) (hm : m < 100) :
    clock? b i (i + 5) = some (⟨h, m, 0, 0⟩, byteAt rest 0 != 0) := by
  have colon : byteAt b (i + 2) = ascii ':' := by rw [byteAt_add, here]; rfl
  have next : byteAt b (i + 5) = byteAt rest 0 := by rw [byteAt_add, here]; rfl
  have minute : b.drop (i + 3) = (padded 2 m).bytes ++ rest := by
    rw [← List.drop_drop, here]
    rfl
  have more : ¬ i + 5 ≤ i + 2 + 1 := by omega
  have stop : i + 5 ≤ i + 2 + 1 + 2 + 1 := by omega
  simp only [clock?, fields?, follow?, number?_two here hh, colon, more, number?_two minute hm, stop,
    next, Option.bind_eq_bind, Option.bind_some, if_true, if_false, and_self, beq_self_eq_true]
  rfl

/-- Hours, minutes and seconds, and whether anything stands behind them. -/
theorem clock?_written {c : Clock} (valid : c.Valid) (whole : c.micro = 0)
    (here : b.drop i = c.written.bytes ++ rest) :
    clock? b i (i + 8) = some (c, byteAt rest 0 != 0) := by
  obtain ⟨h, m, s, micro⟩ := c
  obtain ⟨hour, minute, second⟩ : h ≤ 23 ∧ m ≤ 59 ∧ s ≤ 59 := valid
  cases whole
  rw [bytes_clock] at here
  have colon₁ : byteAt b (i + 2) = ascii ':' := by rw [byteAt_add, here]; rfl
  have colon₂ : byteAt b (i + 3 + 2) = ascii ':' := by rw [Nat.add_assoc, byteAt_add, here]; rfl
  have next : byteAt b (i + 3 + 3 + 2) = byteAt rest 0 := by
    rw [Nat.add_assoc, Nat.add_assoc, byteAt_add, here]
    rfl
  have minutes : b.drop (i + 3) =
      (padded 2 m).bytes ++ ascii ':' :: ((padded 2 s).bytes ++ rest) := by
    rw [← List.drop_drop, here]
    rfl
  have seconds : b.drop (i + 3 + 3) = (padded 2 s).bytes ++ rest := by
    rw [← List.drop_drop, minutes]
    rfl
  have more₁ : ¬ i + 8 ≤ i + 2 + 1 := by omega
  have more₂ : ¬ i + 8 ≤ i + 3 + 2 + 1 := by omega
  have stop : i + 8 ≤ i + 3 + 3 + 2 + 1 := by omega
  simp only [clock?, fields?, follow?, number?_two here (by omega : h < 100), colon₁, more₁,
    number?_two minutes (by omega : m < 100), colon₂, more₂,
    number?_two seconds (by omega : s < 100), stop, next, Option.bind_eq_bind, Option.bind_some,
    if_true, if_false, and_self, beq_self_eq_true]
  rfl

/-! ## Dates -/

theorem bytes_date (d : Date) (rest : List UInt8) : d.written.bytes ++ rest =
    (padded 4 d.year).bytes ++ ascii '-' ::
      ((padded 2 d.month).bytes ++ ascii '-' :: ((padded 2 d.day).bytes ++ rest)) := by
  simp only [Date.written, bytes, List.map_append, List.map_cons, List.append_assoc,
    List.cons_append]
  rfl

/-- Dashes and digits tell that a date is written in full, with the month as a number. -/
theorem date_layout {d : Date} (here : b = d.written.bytes ++ rest) :
    byteAt b 4 = ascii '-' ∧ byteAt b 5 ≠ ascii 'W' ∧ byteAt b (5 + 2) = ascii '-' := by
  rw [bytes_date] at here
  have month : number? b 5 2 = some (d.month % 10 ^ 2) :=
    number?_padded (congrArg (List.drop 5) here)
  have digit := isDigit_of_number? month (j := 0) (by decide)
  refine ⟨by rw [here]; rfl, fun mark => ?_, by rw [here]; rfl⟩
  rw [Nat.add_zero, mark] at digit
  cases digit

theorem date?_written {d : Date} (valid : d.Valid) (here : b = d.written.bytes ++ rest)
    (stop : Nat) : date? b stop = some d := by
  obtain ⟨dash₁, digit, dash₂⟩ := date_layout here
  obtain ⟨year, month, day⟩ := d
  obtain ⟨proper, last⟩ : _ ∧ year ≤ 9999 := Date.valid_iff_proper.1 valid
  have months : 1 ≤ month ∧ month ≤ 12 := proper.month
  have days : day ≤ 31 := proper.day_le_max
  rw [bytes_date] at here
  have years : number? b 0 4 = some year :=
    (number?_padded (i := 0) here).trans (congrArg some (Nat.mod_eq_of_lt (Nat.lt_succ_of_le last)))
  have months : number? b 5 2 = some month :=
    number?_two (i := 5) (congrArg (List.drop 5) here) (by omega)
  have days : number? b (5 + 2 + 1) 2 = some day :=
    number?_two (i := 5 + 2 + 1) (congrArg (List.drop 8) here) (by omega)
  simp only [date?, years, dash₁, beq_self_eq_true, if_true, digit, if_false, months, separator?,
    dash₂, days, valid, Option.bind_eq_bind, Option.bind_some]

/-! ## Date and time -/

theorem not_sign_of_mem_clock {c : Clock} {x : UInt8} (h : x ∈ c.written.bytes) :
    (x != ascii '+' && x != ascii '-') = true := by
  have plain {k n : Nat} (h : x ∈ (padded k n).bytes) :
      (x != ascii '+' && x != ascii '-') = true := by
    have digit := isDigit_of_mem_padded h
    by_contra sign
    have : x = ascii '+' ∨ x = ascii '-' := by
      by_contra other
      simp_all
    rcases this with rfl | rfl <;> cases digit
  rw [← List.append_nil c.written.bytes, bytes_clock, List.append_nil] at h
  simp only [List.mem_append, List.mem_cons] at h
  rcases h with h | rfl | h | rfl | h
  · exact plain h
  · rfl
  · exact plain h
  · rfl
  · exact plain h

/-- A time of day ends where a sign or nothing follows. -/
theorem skip_written {c : Clock} (here : b.drop i = c.written.bytes ++ rest)
    (sign : rest.takeWhile (fun x => x != ascii '+' && x != ascii '-') = []) :
    skip (fun x => x != ascii '+' && x != ascii '-') b i = i + 8 := by
  rw [skip, here, List.takeWhile_append_of_pos fun x h => not_sign_of_mem_clock h, sign,
    List.append_nil]
  rfl

theorem length_eq_of_drop {n : Nat} (pos : 0 < n) (h : (b.drop i).length = n) :
    b.length = i + n := by
  rw [List.length_drop] at h
  omega

theorem time?_written {c : Clock} (valid : c.Valid) (whole : c.micro = 0)
    (here : b.drop i = c.written.bytes) : time? b i = some (c, none) := by
  have length : b.length = i + 8 := length_eq_of_drop (by decide) (congrArg List.length here)
  rw [← List.append_nil c.written.bytes] at here
  have ended : byteAt [] 0 = 0 := rfl
  simp [time?, skip_written here rfl, clock?_written valid whole here, length, ended]

theorem offset?_seconds {o : Offset} (valid : o.Valid) :
    offset? o.west ⟨o.hour, o.minute, 0, 0⟩ = some (o.seconds * 1000000) := by
  obtain ⟨hour, minute⟩ := valid
  have day : dayMicros = 86400000000 := rfl
  simp only [offset?, Clock.seconds, Clock.micros, Offset.seconds, day]
  split
  · rename_i zero
    split <;> simp only [Option.some.injEq] <;> omega
  · rw [if_pos (by omega)]
    split <;> simp only [Option.some.injEq] <;> omega

theorem bytes_offset (o : Offset) : o.written.bytes =
    (if o.west then ascii '-' else ascii '+') ::
      ((padded 2 o.hour).bytes ++ ascii ':' :: (padded 2 o.minute).bytes) := by
  simp only [Offset.written, bytes, List.map_append, List.map_cons]
  cases o.west <;> rfl

theorem time?_written_append {c : Clock} (valid : c.Valid) (whole : c.micro = 0) {o : Offset}
    (short : o.Valid) (here : b.drop i = c.written.bytes ++ o.written.bytes) :
    time? b i = some (c, some (o.seconds * 1000000)) := by
  have ⟨hour, minute⟩ := short
  have length : b.length = i + 8 + 1 + 5 :=
    length_eq_of_drop (n := 14) (by decide) (congrArg List.length here)
  have sign : o.written.bytes.takeWhile (fun x => x != ascii '+' && x != ascii '-') = [] := by
    rw [bytes_offset]
    cases o.west <;> rfl
  have behind : b.drop (i + 8) = o.written.bytes := by
    rw [← List.drop_drop, here]
    exact List.drop_left' rfl
  have west : (byteAt b (i + 8) == ascii '-') = o.west := by
    rw [← Nat.add_zero (i + 8), byteAt_add, behind, bytes_offset]
    cases o.west <;> rfl
  have shift : b.drop (i + 8 + 1) = (padded 2 o.hour).bytes ++ ascii ':' ::
      ((padded 2 o.minute).bytes ++ []) := by
    rw [← List.drop_drop, behind, bytes_offset, List.append_nil]
    rfl
  have read := clock?_hourMinute shift (by omega) (by omega)
  have ended : (byteAt [] 0 != 0) = false := rfl
  rw [ended, ← length] at read
  have more : i + 8 < b.length := by omega
  simp only [time?, skip_written here sign, clock?_written valid whole here, more, if_true, read,
    west, offset?_seconds short, Option.bind_eq_bind, Option.bind_some, Bool.false_eq_true,
    if_false]

/-! ## The whole text -/

/-- A date, a separator of one byte, and a time. -/
theorem ofBytes?_written {d : Date} (valid : d.Valid) {sep : UInt8} (narrow : sep < 0x80)
    {x : UInt8} {rest : List UInt8} (here : b = d.written.bytes ++ sep :: x :: rest) {c : Clock}
    {offset : Option Int} (existing : c.Valid) (time : time? b 11 = some (c, offset)) :
    ofBytes? b = some ⟨d, c, offset⟩ := by
  have length : b.length = 12 + rest.length := by
    rw [here, List.length_append, List.length_cons, List.length_cons]
    have : d.written.bytes.length = 10 := rfl
    omega
  obtain ⟨dash, digit, -⟩ := date_layout here
  have stop : dateEnd? b = some 10 := by
    rw [dateEnd?, if_neg (by omega), if_neg (by omega), if_pos dash, if_neg digit]
  have separator : byteAt b 10 = sep := by rw [here]; rfl
  have inside : 10 < b.length := by omega
  have inside' : 10 + 1 < b.length := by omega
  simp only [ofBytes?, stop, date?_written valid here, inside, separator, charLength, narrow,
    inside', time, existing, if_true, Option.bind_eq_bind, Option.bind_some]

theorem expandZ_eq_self {t : Text} (plain : ('Z' : CodePoint) ∉ t) : expandZ t = t := by
  induction t with
  | nil => rfl
  | cons c t ih =>
    obtain ⟨first, rest⟩ := not_or.1 (List.mem_cons.not.1 plain)
    have other : c ≠ 'Z' := fun same => first same.symm
    rw [expandZ, List.flatMap_cons, if_neg other]
    exact congrArg _ (ih rest)

theorem isSurrogate_of_lt {c : CodePoint} (h : c.val < 0x80) : c.isSurrogate = false := by
  simp only [CodePoint.isSurrogate, Bool.and_eq_false_iff, decide_eq_false_iff_not]
  omega

theorem mendSeparator_eq_self {t : Text} (whole : ∀ c ∈ t, c.isSurrogate = false) :
    mendSeparator t = t := by
  have clean : [7, 8, 10].find? (fun i => (t[i]?).any CodePoint.isSurrogate) = none := by
    refine List.find?_eq_none.2 fun i _ => ?_
    rw [Bool.not_eq_true, Option.any_eq_false]
    exact fun c hc => by simp [whole c (List.mem_of_getElem? hc)]
  rw [mendSeparator, clean]

theorem utf8_eq_bytes {t : Text} (plain : ∀ c ∈ t, c.val < 0x80) : t.utf8 = t.bytes := by
  induction t with
  | nil => rfl
  | cons c t ih =>
    obtain ⟨first, rest⟩ := List.forall_mem_cons.1 plain
    have one : c.utf8 = [UInt8.ofNat c.val] := by
      rw [CodePoint.utf8, if_pos first]
      rfl
    rw [utf8, List.flatMap_cons, one]
    exact congrArg _ (ih rest)

/-- A text of ASCII characters is read by its bytes, once every `Z` is spelt out. -/
theorem ofText?_eq {t : Text} (plain : ∀ c ∈ expandZ t, c.val < 0x80) :
    ofText? t = ofBytes? (expandZ t).bytes := by
  rw [ofText?]
  generalize expandZ t = t at plain
  have whole : ∀ c ∈ t, c.isSurrogate = false := fun c hc => isSurrogate_of_lt (plain c hc)
  have clean : t.any CodePoint.isSurrogate = false := by
    rw [List.any_eq_false]
    exact fun c hc => by simp [whole c hc]
  simp only [mendSeparator_eq_self whole, clean, utf8_eq_bytes plain, Bool.false_eq_true, if_false]

/-! ## Dates and times in writing -/

/-- Characters of one byte other than `Z`. -/
def isPlain (c : CodePoint) : Bool := decide (c.val < 0x80) && c != 'Z'

theorem expandZ_of_plain {t : Text} (plain : t.all isPlain) : expandZ t = t := by
  refine expandZ_eq_self fun mem => ?_
  have := List.all_eq_true.1 plain _ mem
  cases this

theorem ofText?_of_plain {t : Text} (plain : t.all isPlain) : ofText? t = ofBytes? t.bytes := by
  have same := expandZ_of_plain plain
  rw [ofText?_eq, same]
  rw [same]
  intro c hc
  have := List.all_eq_true.1 plain c hc
  rw [isPlain, Bool.and_eq_true, decide_eq_true_eq] at this
  exact this.1

@[simp] theorem isPlain_padded (k n : Nat) : (padded k n).all isPlain = true := by
  have each : ∀ d < 10, isPlain (CodePoint.ofNat (48 + d)) = true := by decide
  refine List.all_eq_true.2 fun c hc => ?_
  obtain ⟨d, hd, rfl⟩ := exists_of_mem_padded hc
  exact each d hd

theorem isPlain_separated (t : DateTime) {separator : CodePoint} (plain : isPlain separator = true) :
    (t.date.written ++ separator :: t.clock.written).all isPlain = true := by
  have marks : isPlain '-' = true ∧ isPlain ':' = true := by decide
  simp [Date.written, Clock.written, List.all_append, marks, plain]

theorem isPlain_written (t : DateTime) : t.written.all isPlain = true :=
  isPlain_separated t (by decide)

theorem isPlain_offset (o : Offset) : o.written.all isPlain = true := by
  have marks : isPlain ':' = true ∧ isPlain (if o.west then '-' else '+' : Char) = true := by
    cases o.west <;> decide
  simp only [Offset.written, List.all_append, List.all_cons, marks, isPlain_padded, Bool.and_self]

variable {t : DateTime}

theorem bytes_dateTime (t : DateTime) (rest : List UInt8) : t.written.bytes ++ rest =
    t.date.written.bytes ++ ascii 'T' :: (t.clock.written.bytes ++ rest) := by
  simp only [DateTime.written, bytes, List.map_append, List.map_cons, List.append_assoc,
    List.cons_append]
  rfl

/-- Date and time are read as they were written, with any character of one byte between them. -/
theorem ofText?_separated (valid : t.Valid) {separator : CodePoint}
    (plain : isPlain separator = true) :
    ofText? (t.date.written ++ separator :: t.clock.written) = some ⟨t.date, t.clock, none⟩ := by
  have bytes : (t.date.written ++ separator :: t.clock.written).bytes =
      t.date.written.bytes ++ UInt8.ofNat separator.val :: t.clock.written.bytes := bytes_append _ _
  rw [ofText?_of_plain (isPlain_separated t plain)]
  rw [isPlain, Bool.and_eq_true, decide_eq_true_eq] at plain
  have narrow : UInt8.ofNat separator.val < 0x80 := by
    rw [UInt8.lt_iff_toNat_lt, UInt8.toNat_ofNat']
    exact (Nat.mod_le _ _).trans_lt plain.1
  exact ofBytes?_written valid.1 narrow bytes valid.2
    (time?_written valid.2 rfl (congrArg (List.drop 11) bytes))

theorem ofText?_written (valid : t.Valid) : ofText? t.written = some ⟨t.date, t.clock, none⟩ :=
  ofText?_separated valid (by decide)

/-- Date, time and offset are read as they were written. -/
theorem ofText?_written_append (valid : t.Valid) {o : Offset} (short : o.Valid) :
    ofText? (t.written ++ o.written) = some ⟨t.date, t.clock, some (o.seconds * 1000000)⟩ := by
  have plain : (t.written ++ o.written).all isPlain := by
    rw [List.all_append, isPlain_written, isPlain_offset, Bool.and_self]
  have bytes := bytes_dateTime t o.written.bytes
  rw [ofText?_of_plain plain, bytes_append]
  exact ofBytes?_written valid.1 (by decide) bytes valid.2
    (time?_written_append valid.2 rfl short (congrArg (List.drop 11) bytes))

/-- A `Z` behind a date and a time stands for an offset of zero. -/
theorem ofText?_written_z (t : DateTime) : ofText? (t.written ++ [('Z' : CodePoint)]) =
    ofText? (t.written ++ (⟨false, 0, 0⟩ : Offset).written) := by
  have plain : (t.written ++ (⟨false, 0, 0⟩ : Offset).written).all isPlain := by
    rw [List.all_append, isPlain_written, isPlain_offset, Bool.and_self]
  have spelt : expandZ (t.written ++ [('Z' : CodePoint)]) =
      t.written ++ (⟨false, 0, 0⟩ : Offset).written := by
    have first := expandZ_of_plain (isPlain_written t)
    rw [expandZ] at first ⊢
    rw [List.flatMap_append, first]
    rfl
  rw [ofText?, ofText?, spelt, expandZ_of_plain plain]

end Reading

end UsageTree
