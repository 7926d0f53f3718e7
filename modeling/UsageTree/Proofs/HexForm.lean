import UsageTree.Service

/-!
# Texts of hexadecimal digits

Which texts stand for bytes is a matter of form alone: digits stand in pairs, and ASCII blanks may
stand in front of a pair and behind it, but not inside.

## Main definitions

* `Hex.digits` — the digits of either case.
* `Hex.Paired` — texts of that form.
* `Hex.Spells` — such a text and the bytes for which it stands.
* `Hex.Writes` — the text of bytes in lower-case digits.

## Main statements

* `Hex.decode?_eq_some` — bytes are read from what spells them.
* `Hex.exists_decode?_iff` — bytes are read from texts of that form and from no others.
-/

namespace UsageTree.Hex

open Service (toLower)

/-- The hexadecimal digits, of either case. -/
def digits : Text := "0123456789abcdefABCDEF"

/-- Pairs of digits, with blanks between pairs and at the ends. -/
inductive Paired : Text → Prop where
  | nil : Paired []
  | blank {c : CodePoint} {s : Text} (hc : isBlank c) (rest : Paired s) : Paired (c :: s)
  | pair {c d : CodePoint} {s : Text} (hc : c ∈ digits) (hd : d ∈ digits) (rest : Paired s) :
    Paired (c :: d :: s)

/-- The digits are the characters that have a value. -/
theorem exists_value?_iff {c : CodePoint} : (∃ n, value? c = some n) ↔ c ∈ digits := by
  constructor
  · rintro ⟨n, hn⟩
    -- No code point past `f` has a value, and those up to it are tried one by one.
    have small : c.val < 103 := by
      refine Nat.lt_of_not_le fun large => ?_
      have past : ∀ first last : Char, last.toNat < 103 → c.between first last = false := by
        intro first last hlast
        simp [CodePoint.between]
        omega
      simp [value?, past _ _ (by decide : '9'.toNat < 103), past _ _ (by decide : 'f'.toNat < 103),
        past _ _ (by decide : 'F'.toNat < 103)] at hn
    have listed : ∀ k < 103, (value? (CodePoint.ofNat k)).isSome → CodePoint.ofNat k ∈ digits := by
      decide
    simpa [hn] using listed c.val small
  · have valued : ∀ d ∈ digits, (value? d).isSome := by decide
    intro hc
    exact Option.isSome_iff_exists.1 (valued c hc)

theorem isBlank_of_mem_digits {c : CodePoint} (h : c ∈ digits) : isBlank c = false := by
  revert c
  decide

/-- A digit has the value of which it is, in lower case, the digit. -/
theorem value?_eq_some {c : CodePoint} {n : Nat} :
    value? c = some n ↔ n < 16 ∧ toLower c = digit n := by
  constructor
  · intro h
    have valued : ∀ d ∈ digits, ∀ m ∈ value? d, m < 16 ∧ toLower d = digit m := by decide
    exact valued c (exists_value?_iff.1 ⟨n, h⟩) n h
  · rintro ⟨small, lower⟩
    by_cases capital : c.between 'A' 'Z'
    · have tried : ∀ k < 91, (CodePoint.ofNat k).between 'A' 'Z' → ∀ m < 16,
          toLower (CodePoint.ofNat k) = digit m → value? (CodePoint.ofNat k) = some m := by
        decide +kernel
      have range : c.val < 91 := by
        simp [CodePoint.between] at capital
        omega
      have found := tried c.val range
      rw [CodePoint.ofNat_val] at found
      exact found capital n small lower
    · have same : c = digit n := by simpa [toLower, capital] using lower
      rw [same, value?_digit small]

theorem isBlank_of_value? {c : CodePoint} {n : Nat} (h : value? c = some n) : isBlank c = false :=
  isBlank_of_mem_digits (exists_value?_iff.1 ⟨n, h⟩)

theorem value?_of_high {c : CodePoint} {b : UInt8} (h : toLower c = digit (b.toNat / 16)) :
    value? c = some (b.toNat / 16) := by
  have := b.toNat_lt
  exact value?_eq_some.2 ⟨by omega, h⟩

theorem value?_of_low {c : CodePoint} {b : UInt8} (h : toLower c = digit (b.toNat % 16)) :
    value? c = some (b.toNat % 16) :=
  value?_eq_some.2 ⟨by omega, h⟩

/-! ## Read bytes -/

theorem decode?_blank {c : CodePoint} (hc : isBlank c) (s : Text) :
    decode? (c :: s) = decode? s := by
  cases s <;> simp [decode?, hc]

theorem decode?_pair {c d : CodePoint} {high low : Nat} (hc : value? c = some high)
    (hd : value? d = some low) (s : Text) :
    decode? (c :: d :: s) = (decode? s).map (joinByte high low :: ·) := by
  cases read : decode? s <;> simp [decode?, isBlank_of_value? hc, hc, hd, read]

theorem toNat_joinByte {high low : Nat} (hh : high < 16) (hl : low < 16) :
    (joinByte high low).toNat = 16 * high + low :=
  UInt8.toNat_ofNat_of_lt' (by omega : 16 * high + low < 256)

/-- Each of the bytes is written with its two digits, in letters of either case, and blanks stand
between pairs and at the ends. -/
inductive Spells : Text → List UInt8 → Prop where
  | nil : Spells [] []
  | blank {c : CodePoint} {s : Text} {bytes : List UInt8} (hc : isBlank c) (rest : Spells s bytes) :
    Spells (c :: s) bytes
  | pair {c d : CodePoint} {s : Text} {b : UInt8} {bytes : List UInt8}
    (hc : toLower c = digit (b.toNat / 16)) (hd : toLower d = digit (b.toNat % 16))
    (rest : Spells s bytes) : Spells (c :: d :: s) (b :: bytes)

/-- Bytes are read from what spells them, and from nothing else. -/
theorem decode?_eq_some {s : Text} {bytes : List UInt8} :
    decode? s = some bytes ↔ Spells s bytes := by
  constructor
  · intro h
    fun_induction decode? s generalizing bytes with
    | case1 =>
      cases h
      exact .nil
    | case2 c hc =>
      cases h
      exact .blank hc .nil
    | case3 => cases h
    | case4 c d rest hc ih => exact .blank hc (ih h)
    | case5 c d rest hc ih =>
      obtain ⟨high, hhigh, h⟩ := Option.bind_eq_some_iff.1 h
      obtain ⟨low, hlow, h⟩ := Option.bind_eq_some_iff.1 h
      obtain ⟨others, hothers, h⟩ := Option.bind_eq_some_iff.1 h
      cases h
      obtain ⟨hh, hc⟩ := value?_eq_some.1 hhigh
      obtain ⟨hl, hd⟩ := value?_eq_some.1 hlow
      have joined := toNat_joinByte hh hl
      refine .pair ?_ ?_ (ih hothers)
      · rw [hc, joined, show (16 * high + low) / 16 = high by omega]
      · rw [hd, joined, show (16 * high + low) % 16 = low by omega]
  · intro h
    induction h with
    | nil => rfl
    | blank hc rest ih => rw [decode?_blank hc, ih]
    | pair hc hd rest ih =>
      rw [decode?_pair (value?_of_high hc) (value?_of_low hd), ih, joinByte_div_mod,
        Option.map_some]

theorem Spells.paired {s : Text} {bytes : List UInt8} (h : Spells s bytes) : Paired s := by
  induction h with
  | nil => exact .nil
  | blank hc rest ih => exact .blank hc ih
  | pair hc hd rest ih =>
    have high := exists_value?_iff.1 ⟨_, value?_of_high hc⟩
    have low := exists_value?_iff.1 ⟨_, value?_of_low hd⟩
    exact .pair high low ih

/-- Bytes are read from pairs of digits, and from nothing else. -/
theorem exists_decode?_iff {s : Text} : (∃ bytes, decode? s = some bytes) ↔ Paired s := by
  constructor
  · rintro ⟨bytes, h⟩
    exact (decode?_eq_some.1 h).paired
  · intro paired
    induction paired with
    | nil => exact ⟨[], rfl⟩
    | blank hc rest ih => rwa [decode?_blank hc]
    | pair hc hd rest ih =>
      obtain ⟨high, hhigh⟩ := exists_value?_iff.2 hc
      obtain ⟨low, hlow⟩ := exists_value?_iff.2 hd
      obtain ⟨bytes, read⟩ := ih
      exact ⟨joinByte high low :: bytes, by rw [decode?_pair hhigh hlow, read, Option.map_some]⟩

/-! ## Written bytes -/

/-- The digits that are written. -/
def lowerDigits : Text := "0123456789abcdef"

/-- The text has two lower-case digits for each of the bytes, and is read as the bytes. -/
structure Writes (s : Text) (bytes : List UInt8) : Prop where
  lower : ∀ c ∈ s, c ∈ lowerDigits
  length : s.length = 2 * bytes.length
  reads : decode? s = some bytes

theorem digit_mem_lowerDigits {n : Nat} (h : n < 16) : digit n ∈ lowerDigits := by
  revert n
  decide

theorem writes_encode (bytes : List UInt8) : Writes (encode bytes) bytes where
  lower c hc := by
    obtain ⟨b, -, hc⟩ := List.mem_flatMap.1 hc
    have := b.toNat_lt
    simp only [encodeByte, List.mem_cons, List.not_mem_nil, or_false] at hc
    rcases hc with rfl | rfl
    · exact digit_mem_lowerDigits (by omega)
    · exact digit_mem_lowerDigits (by omega)
  length := by
    simp [encode, encodeByte, List.length_flatMap, List.map_const', Nat.mul_comm]
  reads := decode?_encode bytes

end UsageTree.Hex
