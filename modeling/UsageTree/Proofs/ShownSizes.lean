import Mathlib.Algebra.Order.Field.Rat
import Mathlib.Data.List.Basic
import Mathlib.Tactic.Linarith
import UsageTree.Proofs.Units
import UsageTree.Text

/-!
# What a shown size says

The text of a size is a numeral and a unit, and can be read in one way only. The unit is the largest
one that the size reaches. It is settled before the number is rounded, so that a size just below the
next unit is shown as 1024.0 of its own; every other size is less than 1024 of its unit.

## Main definitions

* `ByteSize.units` — all units.
* `ByteSize.Shows` — what a text says: a number and a power of 1024.
* `ByteSize.Fits` — a number of a unit as which a size is shown.

## Main statements

* `ByteSize.Shows.unique` — a text says one thing at most.
* `ByteSize.fits_of_text` — which unit is shown, and which sizes are shown as 1024 of it.
-/

namespace UsageTree.ByteSize

open Binary64

/-! ## Reading sizes -/

/-- The units in order, each 1024 of the one before. -/
def units : List String := "B" :: "KB" :: higherUnits

/-- The numeral stands for the number: an integer, or a natural number with one decimal. -/
inductive Denotes : String → ℚ → Prop
  | integer (n : Int) : Denotes (toString n) n
  | decimal (n : Nat) {d : Nat} (hd : d < 10) :
    Denotes (toString n ++ "." ++ toString d) (n + d / 10)

/-- The text gives a number of the unit that is the `k`-th power of 1024. -/
def Shows (s : String) (number : ℚ) (k : Nat) : Prop :=
  ∃ numeral unit, s = numeral ++ " " ++ unit ∧ Denotes numeral number ∧ units[k]? = some unit

variable {s unit : String} {a b : ℚ} {k l : Nat}

theorem isDigit_of_mem_toString_int {n : Int} {c : Char} (hc : c ∈ (toString n).toList) :
    c.isDigit ∨ c = '-' := by
  rw [Int.toString_eq_repr, Int.repr_eq_if] at hc
  split at hc
  · exact .inl (Text.isDigit_of_mem_toString hc)
  · rw [String.toList_append, List.mem_append] at hc
    rcases hc with sign | digit
    · exact .inr (by simpa using sign)
    · exact .inl (Text.isDigit_of_mem_toString digit)

theorem Denotes.char_cases (h : Denotes s a) {c : Char} (hc : c ∈ s.toList) :
    c.isDigit ∨ c = '-' ∨ c = '.' := by
  cases h with
  | integer n => exact (isDigit_of_mem_toString_int hc).imp_right .inl
  | decimal n hd =>
    simp only [String.toList_append, List.mem_append] at hc
    rcases hc with (digit | point) | digit
    · exact .inl (Text.isDigit_of_mem_toString digit)
    · exact .inr (.inr (by simpa using point))
    · exact .inl (Text.isDigit_of_mem_toString digit)

theorem point_notMem_toString (n : Nat) : '.' ∉ (toString n).toList := fun h =>
  absurd (Text.isDigit_of_mem_toString h) (by decide)

theorem toString_int_ne_decimal (i : Int) (n d : Nat) :
    toString i ≠ toString n ++ "." ++ toString d := by
  intro same
  have point : '.' ∈ (toString i).toList := by simp [same]
  have := isDigit_of_mem_toString_int point
  revert this
  decide

/-- Different integers are written differently. -/
theorem toString_int_inj {i j : Int} (same : toString i = toString j) : i = j := by
  have signed (n m : Nat) : "-" ++ toString n ≠ toString m := by
    intro same
    have sign : '-' ∈ (toString m).toList := by simp [← same]
    exact absurd (Text.isDigit_of_mem_toString sign) (by decide)
  rw [Int.toString_eq_repr, Int.toString_eq_repr, Int.repr_eq_if, Int.repr_eq_if] at same
  split at same <;> split at same
  · have := Text.toString_inj.1 same
    omega
  · exact absurd same.symm (signed _ _)
  · exact absurd same (signed _ _)
  · have := Text.toString_inj.1 ((String.append_right_inj "-").1 same)
    omega

/-- A numeral stands for one number. -/
theorem Denotes.unique (h : Denotes s a) (h' : Denotes s b) : a = b := by
  cases h with
  | integer i =>
    generalize same : toString i = s at h'
    cases h' with
    | integer j => rw [toString_int_inj same]
    | decimal n hd => exact absurd same (toString_int_ne_decimal i n _)
  | @decimal n d hd =>
    generalize same : toString n ++ "." ++ toString d = s at h'
    cases h' with
    | integer i => exact absurd same.symm (toString_int_ne_decimal i n d)
    | @decimal m e he =>
      have chars := congrArg String.toList same
      simp only [String.toList_append, List.append_assoc] at chars
      obtain ⟨whole, -, tenth⟩ := (List.append_cons_inj_of_notMem (point_notMem_toString n)
        (point_notMem_toString d)).1 chars
      rw [Text.toString_inj.1 (String.toList_inj.1 whole),
        Text.toString_inj.1 (String.toList_inj.1 tenth)]

/-- A text is read in one way at most. -/
theorem Shows.unique (h : Shows s a k) (h' : Shows s b l) : a = b ∧ k = l := by
  obtain ⟨numeral, unit, rfl, worth, known⟩ := h
  obtain ⟨numeral', unit', same, worth', known'⟩ := h'
  have blank : ' ' ∉ numeral'.toList := fun h => absurd (worth'.char_cases h) (by decide)
  have word : ' ' ∉ unit'.toList := by
    have words : ∀ unit ∈ units, ' ' ∉ unit.toList := by decide
    exact words unit' (List.mem_of_getElem? known')
  have chars := congrArg String.toList same.symm
  simp only [String.toList_append, List.append_assoc] at chars
  obtain ⟨front, -, back⟩ := (List.append_cons_inj_of_notMem blank word).1 chars
  obtain rfl := String.toList_inj.1 front
  obtain rfl := String.toList_inj.1 back
  refine ⟨worth.unique worth', ?_⟩
  obtain ⟨inside, -⟩ := List.getElem?_eq_some_iff.1 known
  exact (List.getElem?_inj inside (by decide)).1 (known.trans known'.symm)

/-! ## Shown numbers -/

variable {size : Int} {n tenths : Nat} {number : ℚ}

/-- A number of tenths is shown with one decimal. -/
theorem shows_tenthsText (tenths : Nat) (known : units[k]? = some unit) :
    Shows (tenthsText tenths ++ " " ++ unit) (tenths / 10) k := by
  have digits : ((tenths / 10 : Nat) : ℚ) + (tenths % 10 : Nat) / 10 = tenths / 10 := by
    have whole : ((10 * (tenths / 10) + tenths % 10 : Nat) : ℚ) = tenths :=
      congrArg Nat.cast (Nat.div_add_mod tenths 10)
    push_cast at whole
    linarith
  refine ⟨tenthsText tenths, unit, rfl, ?_, known⟩
  rw [← digits]
  exact .decimal (tenths / 10) (Nat.mod_lt tenths (by decide))

theorem shows_bytes (size : Int) : Shows (toString size ++ " B") size 0 :=
  ⟨toString size, "B", by rw [String.append_assoc]; rfl, .integer size, rfl⟩

/-- A shown size is given in bytes, or scaled. -/
theorem text_eq_ok : text size = .ok s ↔
    size < 1024 ∧ -Text.digitBound < size ∧ s = toString size ++ " B" ∨
      1024 ≤ size ∧ size < bound ∧ s = scaledText (quotient size 1024) := by
  rcases Int.lt_or_le size 1024 with small | large
  · rw [text_of_lt small, Attempt.ite_eq_ok]
    simp only [small, Int.not_le.2 small, true_and, false_and, or_false]
  · rw [text_of_le large, Attempt.ite_eq_ok]
    simp only [large, Int.not_lt.2 large, true_and, false_and, false_or]

/-- The number of tenths nearest to a size below the next unit is at most 10240, and is that within
half a tenth of the next unit. -/
theorem le_nextUnit {d : Nat} (hd : 0 < d) (below : n < 1024 * d)
    (near : IsHalfEven (10 * n) d tenths) :
    tenths ≤ 10240 ∧ (tenths = 10240 ↔ 20479 * d ≤ 20 * n) := by
  obtain rfl : tenths = halfEven (10 * n) d :=
    (near.le hd (isHalfEven_halfEven _ hd) le_rfl).antisymm
      ((isHalfEven_halfEven _ hd).le hd near le_rfl)
  refine ⟨halfEven_le hd (by omega), ?_⟩
  rw [halfEven_eq_iff hd (by decide) (by omega)]
  omega

/-- The number is one of the largest unit that the size reaches. In every unit but the last it is at
most 1024, and is 1024 only if the size is within a twentieth of the unit below the next one. -/
structure Fits (size : Int) (number : ℚ) (k : Nat) : Prop where
  reached : 0 < k → 1024 ^ k ≤ size
  below : k < 4 → size < 1024 ^ (k + 1)
  le : k < 4 → number ≤ 1024
  eq_iff : k < 4 → (number = 1024 ↔ 0 < k ∧ (1024 - 1 / 20) * 1024 ^ k ≤ (size : ℚ))

theorem fits_bytes (small : size < 1024) : Fits size size 0 where
  reached := nofun
  below _ := small
  le _ := by exact_mod_cast small.le
  eq_iff _ := by
    have apart : (size : ℚ) ≠ 1024 := by exact_mod_cast small.ne
    simp [apart]

theorem fits_tenths (hk : 0 < k) (reached : 1024 ^ k ≤ n) (below : k < 4 → n < 1024 ^ (k + 1))
    (near : IsHalfEven (10 * n) (1024 ^ k) tenths) : Fits n (tenths / 10) k := by
  have rounded (inside : k < 4) := by
    have below : n < 1024 * 1024 ^ k := (below inside).trans_eq (Nat.pow_succ' ..)
    exact le_nextUnit (Nat.pow_pos (by decide)) below near
  refine ⟨fun _ => by exact_mod_cast reached, fun inside => by exact_mod_cast below inside,
    fun inside => ?_, fun inside => ?_⟩
  · have le : (tenths : ℚ) ≤ 10240 := by exact_mod_cast (rounded inside).1
    linarith
  · have whole : (tenths : ℚ) / 10 = 1024 ↔ tenths = 10240 := by
      rw [div_eq_iff (by norm_num)]
      norm_num
      norm_cast
    have close : (1024 - 1 / 20) * 1024 ^ k ≤ ((n : Int) : ℚ) ↔ 20479 * 1024 ^ k ≤ 20 * n := by
      rw [Int.cast_natCast, ← Nat.cast_le (α := ℚ)]
      push_cast
      constructor <;> intro h <;> linarith
    rw [whole, (rounded inside).2, close, and_iff_right hk]

theorem exists_fits (h : text size = .ok s) : ∃ number k, Shows s number k ∧ Fits size number k := by
  rcases text_eq_ok.1 h with ⟨small, -, rfl⟩ | ⟨large, inside, rfl⟩
  · exact ⟨size, 0, shows_bytes size, fits_bytes small⟩
  · obtain ⟨n, rfl⟩ := Int.eq_ofNat_of_zero_le ((by decide : (0 : Int) ≤ 1024).trans large)
    have large : 1024 ≤ n := by exact_mod_cast large
    rcases Nat.lt_or_ge (2 ^ 53) n with past | small
    · have finite := (lt_bound_iff_of_le (by exact_mod_cast large)).1 inside
      obtain ⟨tenths, shown⟩ := exists_scaledText_of_lt past finite
      have shows : Shows (tenthsText tenths ++ " TB") (tenths / 10) 4 := by
        have read := shows_tenthsText tenths (rfl : units[4]? = some "TB")
        rwa [String.append_assoc] at read
      exact ⟨_, 4, shown ▸ shows, fun _ => by omega, nofun, nofun, nofun⟩
    · obtain ⟨k, unit, tenths, ⟨⟨pos, last, reached⟩, greatest⟩, known, near, shown⟩ :=
        exists_scaledText large small
      obtain ⟨j, rfl⟩ := Nat.exists_eq_add_of_le' pos
      refine ⟨tenths / 10, j + 1, shown ▸ shows_tenthsText tenths known, fits_tenths pos ?_ ?_ near⟩
      · exact_mod_cast reached
      · intro inside
        by_contra further
        have : j + 2 ≤ j + 1 := greatest ⟨by omega, by omega, by exact_mod_cast Nat.le_of_not_lt further⟩
        omega

/-- Shown sizes are numbers of the right unit, and 1024 of a unit but the last is shown for those
just below the next unit alone. -/
theorem fits_of_text (h : text size = .ok s) :
    (∃ number k, Shows s number k) ∧ ∀ number k, Shows s number k → Fits size number k := by
  obtain ⟨number, k, shows, fits⟩ := exists_fits h
  refine ⟨⟨number, k, shows⟩, fun number' k' shows' => ?_⟩
  obtain ⟨rfl, rfl⟩ := shows.unique shows'
  exact fits

/-- The last size that is less than 1024 kilobytes by its text, and the first that is not. -/
theorem fits_belowMegabyte :
    text 1048524 = .ok "1023.9 KB" ∧
      (∀ number k, Shows "1023.9 KB" number k → Fits 1048524 number k) ∧
    text 1048525 = .ok "1024.0 KB" ∧
      ∀ number k, Shows "1024.0 KB" number k → Fits 1048525 number k := by
  have under : text 1048524 = .ok "1023.9 KB" := by decide +kernel
  have close : text 1048525 = .ok "1024.0 KB" := by decide +kernel
  exact ⟨under, (fits_of_text under).2, close, (fits_of_text close).2⟩

/-- The last size below a megabyte is shown as 1024 of the smaller unit. -/
theorem shows_lastKilobyte : text 1048575 = .ok "1024.0 KB" ∧ Shows "1024.0 KB" 1024 1 ∧
    ¬ ∀ size s number k, text size = .ok s → Shows s number k → k < 4 → number < 1024 := by
  have shown : text 1048575 = .ok "1024.0 KB" := by decide +kernel
  have shows : Shows "1024.0 KB" 1024 1 := by
    have read := shows_tenthsText 10240 (rfl : units[1]? = some "KB")
    norm_num at read
    exact read
  exact ⟨shown, shows, fun below => (below _ _ _ _ shown shows (by decide)).false⟩

end UsageTree.ByteSize
