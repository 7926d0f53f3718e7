import Mathlib.Tactic.Ring
import UsageTree.ByteSize
import UsageTree.Proofs.Attempt

/-!
# Ratios that are finite

A ratio rounds past every finite number if it is at least as large as the number halfway between the
largest finite one and the next power of two. Two integers of which the first is not larger than the
second are far from that.

## Main definitions

* `Binary64.overflowBound` — the magnitude from which on ratios are not finite.
* `ByteSize.bound` — the size from which on there are too many kilobytes.
* `ByteSize.InRange` — the sizes that are shown.

## Main statements

* `Binary64.isFinite_nearest`, `Binary64.isFinite_quotient` — which ratios are finite.
* `ByteSize.text_eq_error`, `ByteSize.exists_text_iff` — why sizes are not shown, and which are.
-/

namespace UsageTree

namespace Binary64

/-- Halfway between the largest finite number and the next power of two, `2 ^ 1024`. -/
def overflowBound : Nat := (2 ^ 54 - 1) * 2 ^ 970

/-- An even number `k` is met from below once `a / d` is one half away from it. -/
theorem halfEven_eq_iff {a d k : Nat} (hd : 0 < d) (even : k % 2 = 0) (below : a < k * d) :
    halfEven a d = k ↔ 2 * (k * d) ≤ 2 * a + d := by
  have whole := Nat.div_add_mod a d
  have rest := Nat.mod_lt a hd
  have less : a / d < k := (Nat.div_lt_iff_lt_mul hd).2 below
  have rounded : halfEven a d = k ↔ a / d + 1 = k ∧ d ≤ 2 * (a % d) := by
    unfold halfEven
    grind
  rw [rounded]
  generalize a / d = q at *
  generalize a % d = r at *
  obtain ⟨j, rfl⟩ := Nat.exists_eq_add_of_le (Nat.succ_le_of_lt less)
  have product : (q.succ + j) * d = d * q + d + j * d := by
    rw [Nat.add_mul, Nat.succ_mul, Nat.mul_comm q]
  cases j with
  | zero => omega
  | succ j =>
    rw [Nat.succ_mul] at product
    omega

/-- The largest shift is passed by the shift of the ratio, or by rounding up. -/
theorem isFinite_nearest_iff_shift (negative : Bool) (a d : Nat) :
    (nearest negative a d).isFinite ↔ shiftOf (a / d) < maxShift ∨
      shiftOf (a / d) = maxShift ∧ halfEven a (d * 2 ^ shiftOf (a / d)) ≠ 2 * implicitBit := by
  unfold nearest
  dsimp only
  rw [Nat.shiftLeft_eq]
  generalize shiftOf (a / d) = p
  generalize halfEven a (d * 2 ^ p) = m
  split <;> split <;> simp only [isFinite, reduceCtorEq, true_iff, false_iff] <;> omega

/-- A ratio of two numbers of the smallest positive ones is finite below the bound. -/
theorem isFinite_nearest {negative : Bool} {a d : Nat} (hd : 0 < d) :
    (nearest negative a d).isFinite ↔ a < d * overflowBound * one := by
  obtain ⟨last, sum⟩ : ∃ last, last = 970 + 1074 := ⟨_, rfl⟩
  have bound : d * overflowBound * one = (2 ^ 54 - 1) * (d * 2 ^ last) := by
    rw [sum, Nat.pow_add, one, Nat.one_shiftLeft, overflowBound, Nat.mul_left_comm,
      Nat.mul_assoc, Nat.mul_assoc]
  have limit : maxShift = last + 1 := by rw [sum, maxShift]
  have pos (p : Nat) : 0 < d * 2 ^ p := Nat.mul_pos hd (Nat.two_pow_pos p)
  have mono {p q : Nat} (h : p ≤ q) : d * 2 ^ p ≤ d * 2 ^ q :=
    Nat.mul_le_mul_left d (Nat.pow_le_pow_right (by decide) h)
  have double (p : Nat) : d * 2 ^ (p + 1) = 2 * (d * 2 ^ p) := by ring
  have digits (p k : Nat) : 2 ^ (p + k) * d = 2 ^ k * (d * 2 ^ p) := by ring
  obtain ⟨below, above⟩ := shiftOf_spec (a / d)
  rw [Nat.one_shiftLeft, Nat.div_lt_iff_lt_mul hd, digits] at below
  rw [Nat.one_shiftLeft, Nat.le_div_iff_mul_le hd, digits] at above
  rw [isFinite_nearest_iff_shift, bound, limit]
  clear sum bound limit
  generalize shiftOf (a / d) = p at *
  have := pos last
  have := double last
  rcases Nat.lt_trichotomy p (last + 1) with small | rfl | large
  · have := mono (Nat.le_of_lt_succ small)
    exact iff_of_true (.inl small) (by omega)
  · have carry := halfEven_eq_iff (k := 2 * implicitBit) (pos _) (by decide) below
    rw [implicitBit] at carry
    simp only [Nat.lt_irrefl, true_and, false_or, ne_eq, implicitBit, carry]
    omega
  · have : d * 2 ^ (last + 1 + 1) ≤ d * 2 ^ p := mono large
    have := double (last + 1)
    exact iff_of_false (by omega) (by omega)

theorem one_pos : 0 < one := by
  rw [one, Nat.one_shiftLeft]
  exact Nat.two_pow_pos 1074

/-- The ratio of two natural numbers has no sign. -/
theorem quotient_natCast (s t : Nat) : quotient s t = nearest false (s * one) t := by
  have unsigned (n : Nat) : ¬ (n : Int) < 0 := by omega
  simp [quotient, unsigned]

/-- A ratio of two integers is finite below the bound. -/
theorem isFinite_quotient {s t : Int} (ht : t ≠ 0) :
    (quotient s t).isFinite ↔ s.natAbs < t.natAbs * overflowBound := by
  rw [quotient, isFinite_nearest (Int.natAbs_pos.2 ht)]
  exact Nat.mul_lt_mul_right one_pos

theorem one_lt_overflowBound : 1 < overflowBound := by
  have := Nat.two_pow_pos 970
  rw [overflowBound]
  omega

/-- No part of a total is too large for its share. -/
theorem isFinite_quotient_of_le {s t : Int} (hs : 0 ≤ s) (hst : s ≤ t) (ht : t ≠ 0) :
    (quotient s t).isFinite := by
  rw [isFinite_quotient ht]
  calc s.natAbs ≤ t.natAbs := by omega
    _ < t.natAbs * overflowBound :=
      (Nat.lt_mul_iff_one_lt_right (Int.natAbs_pos.2 ht)).2 one_lt_overflowBound

end Binary64

namespace ByteSize

/-- The size from which on there is no finite number of kilobytes. -/
def bound : Nat := 1024 * Binary64.overflowBound

/-- Below the bound sizes are so small that they are given in bytes, or have a finite number of
kilobytes. -/
theorem lt_bound_iff {size : Int} :
    size < bound ↔ size < 1024 ∨ (Binary64.quotient size 1024).isFinite := by
  have finite := Binary64.isFinite_quotient (s := size) (t := 1024) (by decide)
  have divisor : (1024 : Int).natAbs = 1024 := rfl
  have := Binary64.one_lt_overflowBound
  rw [finite, divisor, bound]
  omega

theorem lt_bound_iff_of_le {size : Int} (large : 1024 ≤ size) :
    size < bound ↔ (Binary64.quotient size 1024).isFinite := by
  rw [lt_bound_iff, or_iff_right (Int.not_lt.2 large)]

/-- The bound in full. -/
theorem bound_eq : bound = 1024 * (2 ^ 1024 - 2 ^ 970) := by
  obtain ⟨top, sum⟩ : ∃ top, top = 54 + 970 := ⟨1024, rfl⟩
  have whole : 2 ^ 54 * 2 ^ 970 = 2 ^ top := by rw [sum, Nat.pow_add]
  rw [bound, Binary64.overflowBound, Nat.sub_mul, whole, Nat.one_mul, sum]

/-- The sizes that are shown: they have neither too many digits nor too many kilobytes. -/
def InRange (size : Int) : Prop := -Text.digitBound < size ∧ size < bound

theorem le_digitBound : 1024 ≤ Text.digitBound := by decide +kernel

theorem text_of_lt {size : Int} (small : size < 1024) : text size =
    if -Text.digitBound < size then .ok (toString size ++ " B") else .error .digitLimit := by
  have digits : size.natAbs < Text.digitBound ↔ -Text.digitBound < size := by
    have := le_digitBound
    omega
  simp only [text, if_pos small, digits]

theorem text_of_le {size : Int} (large : 1024 ≤ size) : text size =
    if size < bound then .ok (scaledText (Binary64.quotient size 1024))
    else .error .ratioOverflow := by
  simp only [text, if_neg (Int.not_lt.2 large), lt_bound_iff_of_le large]

/-- A size is shown unless it has too many digits in bytes, or too many kilobytes. -/
theorem text_eq_error {size : Int} {f : Fault} : text size = .error f ↔
    f = .digitLimit ∧ size ≤ -Text.digitBound ∨ f = .ratioOverflow ∧ bound ≤ size := by
  rcases Int.lt_or_le size 1024 with small | large
  · have below : ¬ bound ≤ size := Int.not_le.2 (lt_bound_iff.2 (.inl small))
    rw [text_of_lt small, Attempt.ite_eq_error, Int.not_lt]
    exact (or_iff_left fun fault => below fault.2).symm
  · have short : ¬ size ≤ -Text.digitBound := by omega
    rw [text_of_le large, Attempt.ite_eq_error, Int.not_lt]
    exact (or_iff_right fun fault => short fault.2).symm

/-- Sizes in range are shown, and no others. -/
theorem exists_text_iff {size : Int} : (∃ s, text size = .ok s) ↔ InRange size := by
  simp only [Attempt.exists_eq_ok_iff, ne_eq, text_eq_error, InRange, not_or, not_and, Int.not_le,
    forall_and, forall_eq]

end ByteSize

end UsageTree
