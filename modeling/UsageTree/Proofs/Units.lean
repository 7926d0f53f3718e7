import Mathlib.Order.Bounds.Defs
import UsageTree.Proofs.Rounding

/-!
# Sizes in the right unit

Dividing by 1024 only moves the binary point, so that sizes of up to 53 binary digits are divided
exactly, unit after unit, and rounded once: when one decimal is shown. The unit is then the largest
one that the size reaches. Larger sizes are rounded on the way, but never to less than a number that
takes them to the last unit.

## Main definitions

* `Binary64.IsRatio` — a number is the ratio of two natural numbers.
* `Binary64.Reaches` — a number is not less than a natural number.

## Main statements

* `ByteSize.exists_climb_of_isRatio`, `ByteSize.exists_climb_of_reaches` — where climbing ends.
* `ByteSize.text_nearest_tenths` — sizes are rounded once, in the largest unit that they reach.
-/

namespace UsageTree

namespace Binary64

/-! ## Numbers that are not rounded -/

/-- The number is the ratio of two natural numbers. -/
def IsRatio (x : Binary64) (a d : Nat) : Prop :=
  ∃ m p, x = finite false m p ∧ (m <<< p) * d = a * one

theorem one_eq_mul {i : Nat} (h : i ≤ 1074) : one = 2 ^ (1074 - i) * 2 ^ i := by
  rw [← Nat.pow_add, Nat.sub_add_cancel h, one, Nat.one_shiftLeft]

theorem pow_lt_overflowBound : 2 ^ 53 < overflowBound := by
  have := Nat.two_pow_pos 970
  rw [overflowBound]
  omega

/-- Ratios of up to 53 binary digits, with a power of two below them, are numbers. -/
theorem isRatio_nearest {a i n d : Nat} (small : a ≤ 2 ^ 53) (room : i ≤ 1074) (hd : 0 < d)
    (h : n * 2 ^ i = a * one * d) : IsRatio (nearest false n d) a (2 ^ i) := by
  obtain rfl : n = a * 2 ^ (1074 - i) * d := by
    apply Nat.eq_of_mul_eq_mul_right (Nat.two_pow_pos i)
    rw [h, one_eq_mul room]
    ring
  have finite : (nearest false (a * 2 ^ (1074 - i) * d) d).isFinite := by
    rw [isFinite_nearest hd, Nat.mul_comm _ d, Nat.mul_assoc d]
    refine Nat.mul_lt_mul_of_pos_left ?_ hd
    calc a * 2 ^ (1074 - i) ≤ a * one := by
          rw [one_eq_mul room]
          exact Nat.mul_le_mul_left a (Nat.le_mul_of_pos_right _ (Nat.two_pow_pos i))
      _ < overflowBound * one :=
          Nat.mul_lt_mul_of_pos_right (small.trans_lt pow_lt_overflowBound) one_pos
  obtain ⟨m, p, eq, worth, -⟩ := exists_nearest_eq hd finite
  refine ⟨m, p, eq, ?_⟩
  rw [worth, rounded_eq_self hd small, Nat.mul_assoc, ← one_eq_mul room]

variable {x : Binary64} {a d n : Nat}

/-- Dividing by 1024 divides the ratio, as long as it is larger than the smallest numbers. -/
theorem IsRatio.per {i : Nat} (h : IsRatio x a (2 ^ i)) (small : a ≤ 2 ^ 53)
    (room : i + 10 ≤ 1074) : IsRatio (x.per 1024) a (2 ^ (i + 10)) := by
  obtain ⟨m, p, rfl, worth⟩ := h
  refine isRatio_nearest small room (by decide) ?_
  rw [Nat.pow_add, ← Nat.mul_assoc, worth]

theorem IsRatio.atLeast (h : IsRatio x a d) (hd : 0 < d) : x.atLeast n ↔ n * d ≤ a := by
  obtain ⟨m, p, rfl, worth⟩ := h
  have positive : (finite false m p).atLeast n ↔ n * one ≤ m <<< p := by simp [Binary64.atLeast]
  rw [positive, ← Nat.mul_le_mul_right_iff hd, worth, Nat.mul_right_comm,
    Nat.mul_le_mul_right_iff one_pos]

/-- One decimal of a ratio is its nearest number of tenths. -/
theorem IsRatio.exists_oneDecimal (h : IsRatio x a d) (hd : 0 < d) :
    ∃ tenths, IsHalfEven (10 * a) d tenths ∧ x.oneDecimal = tenthsText tenths := by
  obtain ⟨m, p, rfl, worth⟩ := h
  have same : halfEven ((m <<< p) * 10) one = halfEven (10 * a) d := by
    have product : d * ((m <<< p) * 10) = one * (10 * a) := by
      calc d * ((m <<< p) * 10) = (m <<< p) * d * 10 := by ring
        _ = one * (10 * a) := by rw [worth]; ring
    rw [← halfEven_mul_left hd, product, Nat.mul_comm d one, halfEven_mul_left one_pos]
  exact ⟨_, isHalfEven_halfEven _ hd, by simp [oneDecimal, same]⟩

/-! ## Large numbers -/

/-- The number is finite, in normal form, and `n` or more. -/
def Reaches (x : Binary64) (n : Nat) : Prop :=
  ∃ m p, x = finite false m p ∧ Canonical x ∧ n * one ≤ m <<< p

theorem reaches_nearest {b : Nat} (hd : 0 < d) (small : n ≤ 2 ^ 53)
    (finite : (nearest false b d).isFinite) (large : n * one * d ≤ b) :
    Reaches (nearest false b d) n := by
  obtain ⟨m, p, eq, worth, canonical⟩ := exists_nearest_eq hd finite
  refine ⟨m, p, eq, eq ▸ canonical, ?_⟩
  rw [worth, ← rounded_whole hd small]
  exact rounded_le_rounded hd hd (Nat.mul_le_mul_right d large)

theorem Reaches.atLeast (h : Reaches x n) {k : Nat} (le : k ≤ n) : x.atLeast k := by
  obtain ⟨m, p, rfl, -, large⟩ := h
  simpa [Binary64.atLeast] using (Nat.mul_le_mul_right one le).trans large

/-- A finite number stays finite when it is divided. -/
theorem isFinite_per {negative : Bool} {m p k : Nat} (hk : 0 < k)
    (canonical : Canonical (finite negative m p)) : (nearest negative (m <<< p) k).isFinite := by
  obtain ⟨digits, -, shift⟩ := canonical
  obtain ⟨last, sum⟩ : ∃ last, last = 970 + 1074 := ⟨_, rfl⟩
  have bound : overflowBound * one = (2 ^ 54 - 1) * 2 ^ last := by
    rw [sum, Nat.pow_add, one, Nat.one_shiftLeft, overflowBound, Nat.mul_assoc]
  have limit : maxShift = last + 1 := by rw [sum, maxShift]
  have largest : 2 ^ p ≤ 2 * 2 ^ last := by
    rw [← Nat.pow_succ']
    exact Nat.pow_le_pow_right (by decide) (shift.trans_eq limit)
  have top := Nat.two_pow_pos last
  rw [isFinite_nearest hk, Nat.shiftLeft_eq, Nat.mul_assoc, bound]
  unfold implicitBit at digits
  calc m * 2 ^ p ≤ (2 ^ 53 - 1) * (2 * 2 ^ last) := Nat.mul_le_mul (by omega) largest
    _ < (2 ^ 54 - 1) * 2 ^ last := by omega
    _ ≤ k * ((2 ^ 54 - 1) * 2 ^ last) := Nat.le_mul_of_pos_left _ hk

theorem Reaches.per (h : Reaches x (n * 1024)) (small : n ≤ 2 ^ 53) : Reaches (x.per 1024) n := by
  obtain ⟨m, p, rfl, canonical, large⟩ := h
  refine reaches_nearest (by decide) small (isFinite_per (by decide) canonical) ?_
  rwa [Nat.mul_right_comm]

end Binary64

namespace ByteSize

open Binary64

variable {x : Binary64} {a i : Nat}

/-! ## Climbing -/

/-- Climbing divides an exact number exactly, and stops in the last unit or in one of which the
number has less than 1024. -/
theorem exists_climb_of_isRatio (unit : String) (higher : List String) (h : IsRatio x a (2 ^ i))
    (small : a ≤ 2 ^ 53) (room : i + 10 * higher.length ≤ 1074) :
    ∃ k y name, climb x unit higher = (y, name) ∧ (unit :: higher)[k]? = some name ∧
      IsRatio y a (2 ^ (i + 10 * k)) ∧ (0 < k → 2 ^ (i + 10 * k) ≤ a) ∧
      (k < higher.length → a < 2 ^ (i + 10 * (k + 1))) := by
  induction higher generalizing x unit i with
  | nil => exact ⟨0, x, unit, rfl, rfl, h, nofun, nofun⟩
  | cons next rest ih =>
    have more : x.atLeast 1024 ↔ 2 ^ (i + 10) ≤ a := by
      rw [h.atLeast (Nat.two_pow_pos i), Nat.pow_add, Nat.mul_comm]
    rw [List.length_cons] at room
    rw [climb]
    by_cases up : 2 ^ (i + 10) ≤ a
    · rw [if_pos (more.2 up)]
      obtain ⟨k, y, name, climbed, known, worth, reached, below⟩ :=
        ih next (h.per small (by omega)) (by omega)
      -- With every unit ten more binary digits stand below the ratio and below both bounds.
      have shift (j : Nat) : i + 10 + 10 * j = i + 10 * (j + 1) := by omega
      rw [shift] at worth reached below
      refine ⟨k + 1, y, name, climbed, known, worth, fun _ => ?_, fun inside => ?_⟩
      · rcases Nat.eq_zero_or_pos k with rfl | pos
        · exact up
        · exact reached pos
      · exact below (by simpa using inside)
    · rw [if_neg (more.not.2 up)]
      exact ⟨0, x, unit, rfl, rfl, h, nofun, fun _ => Nat.lt_of_not_le up⟩

/-- A number that is large enough for all units climbs to the last one. -/
theorem exists_climb_of_reaches (unit : String) (higher : List String)
    (h : Reaches x (1024 ^ higher.length)) (few : higher.length ≤ 5) :
    ∃ y, climb x unit higher = (y, higher.getLast?.getD unit) ∧ Reaches y 1 := by
  induction higher generalizing x unit with
  | nil => exact ⟨x, rfl, h⟩
  | cons next rest ih =>
    rw [List.length_cons] at h few
    have small : 1024 ^ rest.length ≤ 2 ^ 53 :=
      (Nat.pow_le_pow_right (by decide) (by omega : rest.length ≤ 5)).trans (by decide)
    have up : x.atLeast 1024 := h.atLeast (Nat.le_self_pow (Nat.succ_ne_zero _) 1024)
    rw [climb, if_pos up]
    obtain ⟨y, climbed, worth⟩ := ih next (h.per small) (by omega)
    refine ⟨y, climbed.trans ?_, worth⟩
    rw [List.getLast?_cons, Option.getD_some]

/-! ## Sizes -/

/-- The powers of 1024, from the first to the fourth, that are not larger than a size. -/
def powersWithin (size : Int) : Set Nat := {k | 1 ≤ k ∧ k ≤ 4 ∧ 1024 ^ k ≤ size}

/-- A size of up to 53 binary digits has an exact number of kilobytes. -/
theorem isRatio_kilobytes {n : Nat} (small : n ≤ 2 ^ 53) : IsRatio (quotient n 1024) n (2 ^ 10) := by
  rw [← Nat.cast_ofNat, quotient_natCast]
  exact isRatio_nearest small (by decide) (by decide) rfl

/-- A size that is exact in kilobytes is shown in the unit of the largest power of 1024. -/
theorem exists_scaledText {n : Nat} (large : 1024 ≤ n) (small : n ≤ 2 ^ 53) :
    ∃ k unit tenths, IsGreatest (powersWithin n) k ∧
      ["KB", "MB", "GB", "TB"][k - 1]? = some unit ∧ IsHalfEven (10 * n) (1024 ^ k) tenths ∧
      scaledText (quotient n 1024) = tenthsText tenths ++ " " ++ unit := by
  obtain ⟨k, y, unit, climbed, known, worth, reached, below⟩ :=
    exists_climb_of_isRatio "KB" higherUnits (isRatio_kilobytes small) small (by decide)
  have power (j : Nat) : 2 ^ (10 + 10 * j) = 1024 ^ (j + 1) := by
    rw [show 10 + 10 * j = 10 * (j + 1) by omega, Nat.pow_mul]
  rw [power] at worth reached below
  have few : k < 4 := (List.getElem?_eq_some_iff.1 known).1
  have within : 1024 ^ (k + 1) ≤ n := by
    rcases Nat.eq_zero_or_pos k with rfl | pos
    · exact large
    · exact reached pos
  obtain ⟨tenths, near, shown⟩ := worth.exists_oneDecimal (Nat.pow_pos (by decide))
  refine ⟨k + 1, unit, tenths, ⟨⟨Nat.le_add_left 1 k, few, by exact_mod_cast within⟩, ?_⟩, known,
    near, ?_⟩
  · rintro j ⟨-, last, reaches⟩
    by_contra further
    have next : 1024 ^ (k + 1 + 1) ≤ 1024 ^ j := Nat.pow_le_pow_right (by decide) (by omega)
    have stopped : n < 1024 ^ (k + 1 + 1) := below (show k < 3 by omega)
    have reaches : 1024 ^ j ≤ n := by exact_mod_cast reaches
    omega
  · rw [scaledText, climbed, shown]

/-- A size of more binary digits is shown in the last unit, if it is shown. -/
theorem exists_scaledText_of_lt {n : Nat} (large : 2 ^ 53 < n)
    (finite : (quotient n 1024).isFinite) :
    ∃ tenths, scaledText (quotient n 1024) = tenthsText tenths ++ " TB" := by
  have kilobytes : Reaches (quotient n 1024) (1024 ^ higherUnits.length) := by
    rw [← Nat.cast_ofNat, quotient_natCast] at finite ⊢
    refine reaches_nearest (by decide) (by decide) finite ?_
    rw [Nat.mul_right_comm]
    refine Nat.mul_le_mul_right one (Nat.le_of_lt (Nat.lt_of_le_of_lt ?_ large))
    decide
  obtain ⟨y, climbed, m, p, rfl, -⟩ :=
    exists_climb_of_reaches "KB" higherUnits kilobytes (by decide)
  refine ⟨halfEven ((m <<< p) * 10) one, ?_⟩
  rw [scaledText, climbed]
  simp [oneDecimal, higherUnits, String.append_assoc]

/-- A size of up to 53 binary digits is shown as the nearest number of tenths of the largest unit
that it reaches, and of two equally near ones as the even. Larger sizes are shown in the last
unit, up to the bound. -/
theorem text_nearest_tenths {size : Int} (large : 1024 ≤ size) :
    (size ≤ 2 ^ 53 → ∃ k unit tenths, IsGreatest (powersWithin size) k ∧
        ["KB", "MB", "GB", "TB"][k - 1]? = some unit ∧
        IsHalfEven (10 * size.toNat) (1024 ^ k) tenths ∧
        text size = .ok (tenthsText tenths ++ " " ++ unit)) ∧
      (2 ^ 53 < size → size < bound → ∃ tenths, text size = .ok (tenthsText tenths ++ " TB")) ∧
      (bound ≤ size → text size = .error .ratioOverflow) := by
  obtain ⟨n, rfl⟩ := Int.eq_ofNat_of_zero_le ((by decide : (0 : Int) ≤ 1024).trans large)
  refine ⟨fun small => ?_, fun past shown => ?_, fun beyond => ?_⟩
  · have small : n ≤ 2 ^ 53 := by exact_mod_cast small
    obtain ⟨m, p, finite, -⟩ := isRatio_kilobytes small
    obtain ⟨k, unit, tenths, greatest, known, near, shown⟩ :=
      exists_scaledText (by exact_mod_cast large) small
    refine ⟨k, unit, tenths, greatest, known, near, ?_⟩
    have inside := (lt_bound_iff_of_le large).2 (by rw [finite]; rfl)
    rw [text_of_le large, if_pos inside, shown]
  · have finite := (lt_bound_iff_of_le large).1 shown
    obtain ⟨tenths, scaled⟩ := exists_scaledText_of_lt (by exact_mod_cast past) finite
    refine ⟨tenths, ?_⟩
    rw [text_of_le large, if_pos shown, scaled]
  · exact text_eq_error.2 (.inr ⟨rfl, beyond⟩)

/-- A size halfway between two tenths of a kilobyte, and one of 61 binary digits. -/
theorem text_nearest_tenths_tie :
    (∃ k unit tenths, IsGreatest (powersWithin 1280) k ∧
      ["KB", "MB", "GB", "TB"][k - 1]? = some unit ∧ IsHalfEven (10 * 1280) (1024 ^ k) tenths ∧
      text 1280 = .ok (tenthsText tenths ++ " " ++ unit)) ∧ text 1280 = .ok "1.2 KB" ∧
    (∃ tenths, text (2 ^ 60 + 1) = .ok (tenthsText tenths ++ " TB")) ∧
      text (2 ^ 60 + 1) = .ok "1048576.0 TB" := by
  have shown : text (2 ^ 60 + 1) = .ok "1048576.0 TB" := by decide +kernel
  exact ⟨(text_nearest_tenths (by decide)).1 (by decide), by decide +kernel,
    (text_nearest_tenths (by decide)).2.1 (by decide) (exists_text_iff.1 ⟨_, shown⟩).2, shown⟩

end ByteSize

end UsageTree
