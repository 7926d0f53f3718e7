/-!
# Binary64 numbers

Double-precision numbers as exact dyadic values. A finite number is `±m · 2^p / 2^1074`: its
magnitude is a natural number of the smallest positive numbers, so that every statement about
finite values is one about natural numbers.

Results of arithmetic are *canonical*: `m < 2^53`, and `2^52 ≤ m` unless `p = 0`.

## Main definitions

* `Binary64` — finite numbers with a sign, two infinities, and no number.
* `Binary64.halfEven` — the nearest integer to a quotient, ties to even.
* `Binary64.nearest` — the nearest number to a ratio, ties to an even significand.
* `Binary64.Canonical` — the normal form of a finite number.
* `Binary64.quotient` — the ratio of two integers.
* `Binary64.times`, `Binary64.per` — a number multiplied or divided by a positive integer.
* `Binary64.atLeast` — comparison with a natural number.
* `Binary64.ofDecimal` — the number nearest to a decimal.
* `Binary64.oneDecimal` — the text with one digit after the point.
* `Binary64.toBits`, `Binary64.ofBits` — a number and its word of 64 bits.
-/

namespace UsageTree

/-- A double-precision number. -/
inductive Binary64 where
  /-- The number `±significand · 2^shift / 2^1074`. -/
  | finite (negative : Bool) (significand shift : Nat)
  /-- One of the two infinities. -/
  | infinite (negative : Bool)
  /-- The value that is no number. -/
  | nan
  deriving Repr, DecidableEq, Inhabited

namespace Binary64

/-- How many of the smallest positive numbers make one. -/
def one : Nat := 1 <<< 1074

/-- The smallest significand of 53 binary digits. -/
def implicitBit : Nat := 0x10000000000000

/-- The largest shift of a finite number. -/
def maxShift : Nat := 2045

/-- Positive zero. -/
def zero : Binary64 := finite false 0 0

instance : OfNat Binary64 0 := ⟨zero⟩

/-- Neither infinite nor `nan`. -/
def isFinite : Binary64 → Bool
  | finite .. => true
  | _ => false

/-- The normal form of a finite number. -/
def Canonical : Binary64 → Prop
  | finite _ m p => m < 2 * implicitBit ∧ (implicitBit ≤ m ∨ p = 0) ∧ p ≤ maxShift
  | _ => True

/-! ## Rounding -/

/-- The nearest integer to `a / d`; of two equally near ones the even. -/
def halfEven (a d : Nat) : Nat :=
  let q := a / d
  let r := a % d
  if 2 * r < d then q else if d < 2 * r then q + 1 else q + q % 2

/-- The shift that leaves at most 53 binary digits of `n`. -/
def shiftOf (n : Nat) : Nat := n.log2 - 52

/-- The nearest number to `±a / d`, in units of the smallest positive number; of two equally near
ones that with the even significand. A magnitude that rounds past the largest finite number is
infinite. -/
def nearest (negative : Bool) (a d : Nat) : Binary64 :=
  let p := shiftOf (a / d)
  let m := halfEven a (d <<< p)
  if m = 2 * implicitBit then
    if p + 1 ≤ maxShift then finite negative implicitBit (p + 1) else infinite negative
  else
    if p ≤ maxShift then finite negative m p else infinite negative

/-! ## Laws of rounding -/

theorem halfEven_cases (a d : Nat) :
    (halfEven a d = a / d ∧ 2 * (a % d) ≤ d) ∨
      (halfEven a d = a / d + 1 ∧ d ≤ 2 * (a % d)) := by
  unfold halfEven
  grind

/-- A multiple of the divisor is met exactly. -/
@[simp] theorem halfEven_mul_self (k : Nat) {d : Nat} (hd : 0 < d) : halfEven (k * d) d = k := by
  simp [halfEven, hd]

/-- The shift keeps 53 binary digits and drops none that it need not drop. -/
theorem shiftOf_spec (n : Nat) :
    n < 1 <<< (shiftOf n + 53) ∧ (shiftOf n = 0 ∨ 1 <<< (shiftOf n + 52) ≤ n) := by
  unfold shiftOf
  rw [Nat.one_shiftLeft, Nat.one_shiftLeft]
  constructor
  · exact Nat.lt_of_lt_of_le Nat.lt_log2_self (Nat.pow_le_pow_right (by decide) (by omega))
  · by_cases h : n.log2 ≤ 52
    · left; omega
    · right
      have hn : n ≠ 0 := by rintro rfl; simp at h
      have : n.log2 - 52 + 52 = n.log2 := by omega
      rw [this]
      exact Nat.log2_self_le hn

/-! ## Arithmetic

Each operation is its exact result rounded once. -/

/-- The number nearest to `s / t`, for `t ≠ 0`. A zero over a negative number is negative zero. -/
def quotient (s t : Int) : Binary64 :=
  nearest (decide (s < 0) != decide (t < 0)) (s.natAbs * one) t.natAbs

/-- The number nearest to `k · x`. -/
def times (x : Binary64) (k : Nat) : Binary64 :=
  match x with
  | finite negative m p => nearest negative ((m <<< p) * k) 1
  | x => x

/-- The number nearest to `x / k`. -/
def per (x : Binary64) (k : Nat) : Binary64 :=
  match x with
  | finite negative m p => nearest negative (m <<< p) k
  | x => x

/-- The number is `k` or more. -/
def atLeast (x : Binary64) (k : Nat) : Bool :=
  match x with
  | finite negative m p => k * one ≤ m <<< p && (!negative || k == 0 && m == 0)
  | infinite negative => !negative
  | nan => false

/-- The integer that a finite number is, if it is one. -/
def toInt? : Binary64 → Option Int
  | finite negative m p =>
    if (m <<< p) % one = 0 then
      let n : Int := ((m <<< p) / one : Nat)
      some (if negative then -n else n)
    else none
  | _ => none

/-! ## Decimal numerals -/

/-- The number nearest to `±digits · 10^exponent`. Exponents that settle the result on their own
are not raised to: a positive integer times `10^400` is past every finite number, and `digits`
of fewer than `k + 400` binary digits over `10^(k + 400)` is nearest to zero. -/
def ofDecimal (negative : Bool) (digits : Nat) (exponent : Int) : Binary64 :=
  if digits = 0 then finite negative 0 0
  else match exponent with
    | .ofNat e =>
      if 400 < e then infinite negative else nearest negative (digits * Nat.pow 10 e * one) 1
    | .negSucc e =>
      if digits.log2 + 400 < e then finite negative 0 0
      else nearest negative (digits * one) (Nat.pow 10 (e + 1))

/-- A natural number of tenths, with a point before its last digit. -/
def tenthsText (tenths : Nat) : String := toString (tenths / 10) ++ "." ++ toString (tenths % 10)

/-- The number rounded to tenths, ties to even; the sign stands even before a zero. -/
def oneDecimal : Binary64 → String
  | finite negative m p =>
    (if negative then "-" else "") ++ tenthsText (halfEven ((m <<< p) * 10) one)
  | infinite negative => if negative then "-inf" else "inf"
  | nan => "nan"

/-! ## Words

The interchange format: a sign bit, eleven bits of exponent, fifty-two bits of significand. -/

/-- The word of a canonical number. The leading digit of a significand of 53 binary digits adds one
to the exponent. -/
def toBits : Binary64 → Nat
  | finite negative m p => (2048 * negative.toNat + p) * implicitBit + m
  | infinite negative => (2048 * negative.toNat + 2047) * implicitBit
  | nan => 2047 * implicitBit + implicitBit / 2

/-- The number of a word. -/
def ofBits (word : Nat) : Binary64 :=
  let negative := word / (2048 * implicitBit) % 2 == 1
  let exponent := word / implicitBit % 2048
  let fraction := word % implicitBit
  if exponent = 0 then finite negative fraction 0
  else if exponent = 2047 then if fraction = 0 then infinite negative else nan
  else finite negative (implicitBit + fraction) (exponent - 1)

/-- The word of a canonical finite number reads back as that number. -/
theorem ofBits_toBits_finite {negative : Bool} {m p : Nat}
    (h : Canonical (finite negative m p)) :
    ofBits (toBits (finite negative m p)) = finite negative m p := by
  obtain ⟨hm, hp, hs⟩ := h
  unfold maxShift at hs
  unfold implicitBit at hm hp
  have hn := negative.toNat_le
  have back : (negative.toNat == 1) = negative := by cases negative <;> rfl
  generalize hw : toBits (finite negative m p) = w
  simp only [toBits, implicitBit] at hw
  have hsign : w / (2048 * implicitBit) % 2 = negative.toNat := by unfold implicitBit; omega
  by_cases hlow : m < implicitBit
  · unfold implicitBit at hlow
    have hp0 : p = 0 := by omega
    have hexp : w / implicitBit % 2048 = 0 := by unfold implicitBit; omega
    have hfrac : w % implicitBit = m := by unfold implicitBit; omega
    simp only [ofBits, hsign, back, hexp, hfrac, hp0, ↓reduceIte]
  · unfold implicitBit at hlow
    have hexp : w / implicitBit % 2048 = p + 1 := by unfold implicitBit; omega
    have hfrac : w % implicitBit = m - implicitBit := by unfold implicitBit; omega
    have hzero : ¬p + 1 = 0 := by omega
    have hlast : ¬p + 1 = 2047 := by omega
    have hm' : implicitBit + (m - implicitBit) = m := by unfold implicitBit; omega
    simp only [ofBits, hsign, back, hexp, hfrac, hzero, hlast, hm', ↓reduceIte,
      Nat.add_sub_cancel]

end Binary64

end UsageTree
