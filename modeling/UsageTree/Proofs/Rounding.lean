import UsageTree.Binary64
import UsageTree.Proofs.Overflow

/-!
# Rounding keeps the order

What a ratio rounds to depends on its value alone: not on the two numbers that it is written with,
and the larger of two ratios does not round to the smaller number. That holds of rounding to an
integer, and so of rounding to 53 binary digits: of two ratios whose digits end at different places
the rounded ones are kept apart by a power of two.

## Main definitions

* `Binary64.IsHalfEven` — what it is to be the nearest integer, ties to even.
* `Binary64.rounded` — a ratio rounded to 53 binary digits.
* `Binary64.hundred` — the number 100.
* `Binary64.le` — the order of numbers.

## Main statements

* `Binary64.halfEven_le_halfEven`, `Binary64.nearest_le_nearest` — rounding keeps the order.
* `Binary64.nearest_mul_left`, `Binary64.quotient_mul_left` — a common factor makes no difference.
* `Binary64.rounded_eq_self` — numbers of 53 binary digits are kept.
* `Binary64.canonical_nearest` — results are in normal form.
-/

namespace UsageTree.Binary64

/-! ## Rounding to an integer -/

/-- No integer is nearer to `a / d` than `h`, and if another is as near then `h` is even. -/
structure IsHalfEven (a d h : Nat) : Prop where
  le_add : 2 * (h * d) ≤ 2 * a + d
  ge_sub : 2 * a ≤ 2 * (h * d) + d
  even : 2 * (h * d) = 2 * a + d ∨ 2 * a = 2 * (h * d) + d → h % 2 = 0

theorem isHalfEven_halfEven (a : Nat) {d : Nat} (hd : 0 < d) : IsHalfEven a d (halfEven a d) := by
  have whole := Nat.div_add_mod' a d
  have rest := Nat.mod_lt a hd
  have step : (a / d + 1) * d = a / d * d + d := Nat.succ_mul _ _
  rcases halfEven_cases a d with ⟨same, near⟩ | ⟨same, near⟩
  · have tie : 2 * (a % d) = d → (a / d) % 2 = 0 := by
      intro tie
      have unrounded : halfEven a d = a / d + (a / d) % 2 := by simp [halfEven, tie]
      omega
    constructor <;> rw [same] <;> omega
  · have tie : 2 * (a % d) = d → (a / d + 1) % 2 = 0 := by
      intro tie
      have unrounded : halfEven a d = a / d + (a / d) % 2 := by simp [halfEven, tie]
      omega
    constructor <;> rw [same] <;> omega

/-- The nearest integer to the smaller of two ratios is not the larger one. If it were, the ratios
would be one and the same, halfway between two integers that are both even. -/
theorem IsHalfEven.le {a a' d h h' : Nat} (hd : 0 < d) (near : IsHalfEven a d h)
    (near' : IsHalfEven a' d h') (le : a ≤ a') : h ≤ h' := by
  by_contra above
  have above : h' + 1 ≤ h := Nat.lt_of_not_le above
  have apart : h' * d + d ≤ h * d := by
    rw [← Nat.succ_mul]
    exact Nat.mul_le_mul_right d above
  have lower := near.le_add
  have upper := near'.ge_sub
  have next : h = h' + 1 := by
    apply Nat.eq_of_mul_eq_mul_right hd
    rw [Nat.succ_mul]
    omega
  have := near.even (.inl (by omega))
  have := near'.even (.inr (by omega))
  omega

theorem IsHalfEven.mul_left {a d h k : Nat} (hk : 0 < k) (near : IsHalfEven a d h) :
    IsHalfEven (k * a) (k * d) h := by
  have product : 2 * (h * (k * d)) = k * (2 * (h * d)) := by ring
  have above : 2 * (k * a) + k * d = k * (2 * a + d) := by ring
  have below : 2 * (h * (k * d)) + k * d = k * (2 * (h * d) + d) := by ring
  have double : 2 * (k * a) = k * (2 * a) := Nat.mul_left_comm 2 k a
  constructor
  · rw [product, above]
    exact Nat.mul_le_mul_left k near.le_add
  · rw [double, below]
    exact Nat.mul_le_mul_left k near.ge_sub
  · rw [above, below, product, double]
    exact fun tie => near.even (tie.imp (Nat.eq_of_mul_eq_mul_left hk)
      (Nat.eq_of_mul_eq_mul_left hk))

/-- Rounding keeps the order: two ratios are compared once they have one divisor. -/
theorem halfEven_le_halfEven {a d a' d' : Nat} (hd : 0 < d) (hd' : 0 < d')
    (ratio : a * d' ≤ a' * d) : halfEven a d ≤ halfEven a' d' := by
  have near := (isHalfEven_halfEven a hd).mul_left hd'
  have near' := (isHalfEven_halfEven a' hd').mul_left hd
  rw [Nat.mul_comm d d'] at near'
  refine near.le (Nat.mul_pos hd' hd) near' ?_
  rwa [Nat.mul_comm d' a, Nat.mul_comm d a']

theorem halfEven_le {a d k : Nat} (hd : 0 < d) (h : a ≤ k * d) : halfEven a d ≤ k := by
  calc halfEven a d ≤ halfEven (k * d) d := halfEven_le_halfEven hd hd (Nat.mul_le_mul_right d h)
    _ = k := halfEven_mul_self k hd

theorem le_halfEven {a d k : Nat} (hd : 0 < d) (h : k * d ≤ a) : k ≤ halfEven a d := by
  calc k = halfEven (k * d) d := (halfEven_mul_self k hd).symm
    _ ≤ halfEven a d := halfEven_le_halfEven hd hd (Nat.mul_le_mul_right d h)

theorem halfEven_mul_left {k : Nat} (hk : 0 < k) (a d : Nat) :
    halfEven (k * a) (k * d) = halfEven a d := by
  have below : 2 * (k * (a % d)) < k * d ↔ 2 * (a % d) < d := by
    rw [Nat.mul_left_comm]
    exact Nat.mul_lt_mul_left hk
  have above : k * d < 2 * (k * (a % d)) ↔ d < 2 * (a % d) := by
    rw [Nat.mul_left_comm]
    exact Nat.mul_lt_mul_left hk
  simp only [halfEven, Nat.mul_div_mul_left a d hk, Nat.mul_mod_mul_left, below, above]

/-! ## Rounding to 53 binary digits -/

/-- The ratio `a / d` rounded to 53 binary digits, or to an integer if that takes fewer. -/
def rounded (a d : Nat) : Nat := halfEven a (d <<< shiftOf (a / d)) <<< shiftOf (a / d)

theorem shiftOf_le_shiftOf {n n' : Nat} (h : n ≤ n') : shiftOf n ≤ shiftOf n' := by
  by_contra above
  have below := (shiftOf_spec n').1
  have least := (shiftOf_spec n).2.resolve_left (by omega)
  rw [Nat.one_shiftLeft] at below least
  have : 2 ^ (shiftOf n' + 53) ≤ 2 ^ (shiftOf n + 52) :=
    Nat.pow_le_pow_right (by decide) (by omega)
  omega

theorem div_le_div_of_mul_le {a d a' d' : Nat} (hd : 0 < d) (hd' : 0 < d')
    (ratio : a * d' ≤ a' * d) : a / d ≤ a' / d' := by
  rw [Nat.le_div_iff_mul_le hd']
  refine Nat.le_of_mul_le_mul_right ?_ hd
  calc a / d * d' * d = a / d * d * d' := Nat.mul_right_comm _ _ _
    _ ≤ a * d' := Nat.mul_le_mul_right d' (Nat.div_mul_le_self a d)
    _ ≤ a' * d := ratio

/-- The significand of a rounded ratio has 53 binary digits or is the next power of two, and it is
not shorter unless nothing was cut off. -/
theorem significand_bounds (a : Nat) {d : Nat} (hd : 0 < d) :
    halfEven a (d <<< shiftOf (a / d)) ≤ 2 * implicitBit ∧
      (shiftOf (a / d) = 0 ∨ implicitBit ≤ halfEven a (d <<< shiftOf (a / d))) := by
  obtain ⟨below, above⟩ := shiftOf_spec (a / d)
  generalize shiftOf (a / d) = p at *
  have pos : 0 < d <<< p := by
    rw [Nat.shiftLeft_eq]
    exact Nat.mul_pos hd (Nat.two_pow_pos p)
  have digits (k : Nat) : 1 <<< (p + k) * d = 2 ^ k * d <<< p := by
    rw [Nat.one_shiftLeft, Nat.shiftLeft_eq]
    ring
  rw [Nat.div_lt_iff_lt_mul hd, digits] at below
  rw [Nat.le_div_iff_mul_le hd, digits] at above
  exact ⟨halfEven_le pos below.le, above.imp_right (le_halfEven pos)⟩

/-- Rounding keeps the order. Ratios that are cut off at different digits lie on different sides of
a power of two, and so do their rounded values. -/
theorem rounded_le_rounded {a d a' d' : Nat} (hd : 0 < d) (hd' : 0 < d')
    (ratio : a * d' ≤ a' * d) : rounded a d ≤ rounded a' d' := by
  have upper := (significand_bounds a hd).1
  have lower := (significand_bounds a' hd').2
  have shifts := shiftOf_le_shiftOf (div_le_div_of_mul_le hd hd' ratio)
  unfold rounded
  generalize shiftOf (a / d) = p at *
  generalize shiftOf (a' / d') = p' at *
  simp only [Nat.shiftLeft_eq] at *
  rcases Nat.eq_or_lt_of_le shifts with rfl | less
  · refine Nat.mul_le_mul_right _ (halfEven_le_halfEven ?_ ?_ ?_)
    · exact Nat.mul_pos hd (Nat.two_pow_pos p)
    · exact Nat.mul_pos hd' (Nat.two_pow_pos p)
    · calc a * (d' * 2 ^ p) = a * d' * 2 ^ p := (Nat.mul_assoc _ _ _).symm
        _ ≤ a' * d * 2 ^ p := Nat.mul_le_mul_right _ ratio
        _ = a' * (d * 2 ^ p) := Nat.mul_assoc _ _ _
  · have lower := lower.resolve_left (by omega)
    calc halfEven a (d * 2 ^ p) * 2 ^ p ≤ 2 * implicitBit * 2 ^ p := Nat.mul_le_mul_right _ upper
      _ = implicitBit * 2 ^ (p + 1) := by ring
      _ ≤ implicitBit * 2 ^ p' := Nat.mul_le_mul_left _ (Nat.pow_le_pow_right (by decide) less)
      _ ≤ halfEven a' (d' * 2 ^ p') * 2 ^ p' := Nat.mul_le_mul_right _ lower

theorem shiftLeft_mul_left (k d p : Nat) : (k * d) <<< p = k * d <<< p := by
  rw [Nat.shiftLeft_eq, Nat.shiftLeft_eq, Nat.mul_assoc]

/-- Up to 53 binary digits, followed by zeros, are kept. -/
theorem rounded_eq_self {m e d : Nat} (hd : 0 < d) (small : m ≤ 2 ^ 53) :
    rounded (m * 2 ^ e * d) d = m * 2 ^ e := by
  obtain ⟨-, above⟩ := shiftOf_spec (m * 2 ^ e)
  have size : m * 2 ^ e ≤ 2 ^ (e + 53) := by
    rw [Nat.pow_add, Nat.mul_comm]
    exact Nat.mul_le_mul_left _ small
  rw [rounded, Nat.mul_div_cancel _ hd]
  rw [Nat.one_shiftLeft] at above
  generalize shiftOf (m * 2 ^ e) = p at *
  -- Only a power of two can lose more digits than follow, and it consists of zeros alone.
  have whole : 2 ^ p ∣ m * 2 ^ e := by
    by_cases few : p ≤ e
    · exact (Nat.pow_dvd_pow 2 few).mul_left m
    · have above := above.resolve_left (by omega)
      have last := (Nat.pow_le_pow_iff_right (by decide : 1 < 2)).1 (above.trans size)
      obtain rfl : p = e + 1 := by omega
      rw [size.antisymm above]
      exact Nat.pow_dvd_pow 2 (by omega)
  obtain ⟨c, hc⟩ := whole
  have product : 2 ^ p * c * d = c * (d * 2 ^ p) := by ring
  rw [hc, Nat.shiftLeft_eq, Nat.shiftLeft_eq, product,
    halfEven_mul_self c (Nat.mul_pos hd (Nat.two_pow_pos p)), Nat.mul_comm]

/-- Integers of up to 53 binary digits are kept. -/
theorem rounded_whole {n d : Nat} (hd : 0 < d) (small : n ≤ 2 ^ 53) :
    rounded (n * one * d) d = n * one := by
  obtain ⟨e, zeros⟩ : ∃ e, e = 1074 := ⟨_, rfl⟩
  rw [one, Nat.one_shiftLeft, ← zeros]
  exact rounded_eq_self hd small

theorem nearest_mul_left (negative : Bool) {k : Nat} (hk : 0 < k) (a d : Nat) :
    nearest negative (k * a) (k * d) = nearest negative a d := by
  simp only [nearest, Nat.mul_div_mul_left a d hk, shiftLeft_mul_left, halfEven_mul_left hk]

/-- A ratio that does not overflow is rounded, and the result is in normal form. -/
theorem exists_nearest_eq {negative : Bool} {a d : Nat} (hd : 0 < d)
    (h : (nearest negative a d).isFinite) : ∃ m p, nearest negative a d = finite negative m p ∧
      m <<< p = rounded a d ∧ Canonical (finite negative m p) := by
  have bounds := significand_bounds a hd
  unfold nearest rounded at *
  dsimp only at h ⊢
  generalize shiftOf (a / d) = p at *
  generalize halfEven a (d <<< p) = m at *
  by_cases carry : m = 2 * implicitBit
  · rw [if_pos carry] at h ⊢
    by_cases fits : p + 1 ≤ maxShift
    · refine ⟨implicitBit, p + 1, if_pos fits, ?_, by decide, .inl (Nat.le_refl _), fits⟩
      rw [carry, Nat.shiftLeft_eq, Nat.shiftLeft_eq]
      ring
    · rw [if_neg fits] at h
      cases h
  · rw [if_neg carry] at h ⊢
    by_cases fits : p ≤ maxShift
    · exact ⟨m, p, if_pos fits, rfl, by omega, bounds.2.symm, fits⟩
    · rw [if_neg fits] at h
      cases h

theorem nearest_eq_infinite {negative : Bool} {a d : Nat} (h : ¬ (nearest negative a d).isFinite) :
    nearest negative a d = infinite negative := by
  unfold nearest at h ⊢
  dsimp only at h ⊢
  generalize shiftOf (a / d) = p at *
  generalize halfEven a (d <<< p) = m at *
  split <;> split <;> simp_all [isFinite]

theorem canonical_nearest {negative : Bool} {a d : Nat} (hd : 0 < d) :
    Canonical (nearest negative a d) := by
  by_cases h : (nearest negative a d).isFinite
  · obtain ⟨m, p, eq, -, canonical⟩ := exists_nearest_eq hd h
    exact eq ▸ canonical
  · rw [nearest_eq_infinite h]
    trivial

/-! ## The order of numbers -/

/-- A magnitude with a sign. -/
def signed (negative : Bool) (n : Nat) : Int := if negative then -n else n

/-- The order of numbers: finite ones are compared by what they are worth, so that both zeros are
equal. Nothing compares with `nan`. -/
protected def le : Binary64 → Binary64 → Prop
  | nan, _ => False
  | _, nan => False
  | infinite negative, infinite negative' => negative = true ∨ negative' = false
  | infinite negative, finite .. => negative = true
  | finite .., infinite negative => negative = false
  | finite negative m p, finite negative' m' p' =>
    signed negative (m <<< p) ≤ signed negative' (m' <<< p')

instance : LE Binary64 := ⟨Binary64.le⟩

/-- The number 100. -/
def hundred : Binary64 := finite false 0x19000000000000 1028

@[simp] theorem finite_le_finite {m p m' p' : Nat} :
    finite false m p ≤ finite false m' p' ↔ m <<< p ≤ m' <<< p' :=
  Int.ofNat_le

theorem zero_le_finite (m p : Nat) : 0 ≤ finite false m p :=
  finite_le_finite.2 (by simp)

/-- Rounding to a number keeps the order, also where it leads past every finite number. -/
theorem nearest_le_nearest {a d a' d' : Nat} (hd : 0 < d) (hd' : 0 < d')
    (ratio : a * d' ≤ a' * d) : nearest false a d ≤ nearest false a' d' := by
  by_cases finite' : (nearest false a' d').isFinite
  · have finite : (nearest false a d).isFinite := by
      rw [isFinite_nearest hd'] at finite'
      rw [isFinite_nearest hd]
      refine Nat.lt_of_mul_lt_mul_right (a := d') ?_
      calc a * d' ≤ a' * d := ratio
        _ < d' * overflowBound * one * d := Nat.mul_lt_mul_of_pos_right finite' hd
        _ = d * overflowBound * one * d' := by ring
    obtain ⟨m, p, eq, worth, -⟩ := exists_nearest_eq hd finite
    obtain ⟨m', p', eq', worth', -⟩ := exists_nearest_eq hd' finite'
    rw [eq, eq', finite_le_finite, worth, worth']
    exact rounded_le_rounded hd hd' ratio
  · rw [nearest_eq_infinite finite']
    by_cases finite : (nearest false a d).isFinite
    · obtain ⟨m, p, eq, -⟩ := exists_nearest_eq hd finite
      rw [eq]
      exact rfl
    · rw [nearest_eq_infinite finite]
      exact .inr rfl

/-- A common factor of two integers makes no difference to their ratio. -/
theorem quotient_mul_left {k : Int} (hk : 0 < k) (s t : Int) :
    quotient (k * s) (k * t) = quotient s t := by
  have sign (n : Int) : k * n < 0 ↔ n < 0 := by
    constructor
    · exact fun h => Int.lt_of_mul_lt_mul_left (by simpa using h) hk.le
    · exact Int.mul_neg_of_pos_of_neg hk
  have pos : 0 < k.natAbs := Int.natAbs_pos.2 hk.ne'
  simp only [quotient, sign, Int.natAbs_mul, Nat.mul_assoc, nearest_mul_left _ pos]

end UsageTree.Binary64
