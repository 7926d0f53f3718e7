/-!
# Texts

A text is a list of code points. Surrogates count among them: an escape may stand for half of a
pair that nothing completes, and such a half is compared like any other code point.

## Main definitions

* `CodePoint` — a code point.
* `Text` — a text. Strings are texts without surrogates.
* `Text.le` — the order of texts, by code points.
* `Text.isSpace`, `Text.isBlank`, `Text.isDigit` — classes of characters.
* `Text.capitals` — a text in capital letters.
* `Text.digitsValue` — the number that digits stand for.
* `Text.maxDigits`, `Text.digitBound` — the longest integers.
-/

namespace UsageTree

/-- A code point, surrogates among them. -/
structure CodePoint where
  val : Nat
  val_lt : val < 0x110000
  deriving Repr, DecidableEq

namespace CodePoint

/-- The code point of a number; there is none past `U+10FFFF`, and `U+FFFD` takes its place. -/
def ofNat (n : Nat) : CodePoint := if h : n < 0x110000 then ⟨n, h⟩ else ⟨0xFFFD, by decide⟩

/-- The code point of a character. -/
def ofChar (c : Char) : CodePoint := ofNat c.toNat

instance : Coe Char CodePoint := ⟨ofChar⟩

instance : Inhabited CodePoint := ⟨ofNat 0⟩

/-- The code point lies in the range between two characters, both included. -/
def between (first last : Char) (c : CodePoint) : Bool :=
  first.toNat ≤ c.val && c.val ≤ last.toNat

/-- Half of a pair. -/
def isSurrogate (c : CodePoint) : Bool := 0xD800 ≤ c.val && c.val ≤ 0xDFFF

theorem ext_val {a b : CodePoint} (h : a.val = b.val) : a = b := by
  obtain ⟨a, _⟩ := a
  obtain ⟨b, _⟩ := b
  cases h
  rfl

@[simp] theorem val_ofNat {n : Nat} (h : n < 0x110000) : (ofNat n).val = n := by
  simp [ofNat, h]

@[simp] theorem val_ofChar (c : Char) : (ofChar c).val = c.toNat := by
  have h := c.valid
  simp only [UInt32.isValidChar, Nat.isValidChar] at h
  exact val_ofNat (show c.val.toNat < 0x110000 by omega)

@[simp] theorem ofNat_val (c : CodePoint) : ofNat c.val = c := by
  simp [ofNat, c.val_lt]

theorem ofChar_inj {a b : Char} : ofChar a = ofChar b ↔ a = b := by
  refine ⟨fun h => ?_, congrArg _⟩
  have h := congrArg val h
  rw [val_ofChar, val_ofChar] at h
  exact Char.toNat_inj.1 h

end CodePoint

/-- A text. -/
abbrev Text := List CodePoint

namespace Text

/-- The text of a string. -/
def ofString (s : String) : Text := s.toList.map CodePoint.ofChar

instance : Coe String Text := ⟨ofString⟩

theorem ofString_inj {s t : String} : ofString s = ofString t ↔ s = t := by
  refine ⟨fun h => ?_, congrArg _⟩
  exact String.toList_inj.1 ((List.map_inj_right fun _ _ => CodePoint.ofChar_inj.1).1 h)

/-! ## Order -/

/-- The first text does not come after the second. The first code points that differ decide, and
the beginning of a text comes before the text. -/
def le : Text → Text → Bool
  | [], _ => true
  | _ :: _, [] => false
  | a :: as, b :: bs => decide (a.val < b.val) || a == b && le as bs

@[simp] theorem nil_le (b : Text) : le [] b := rfl

theorem cons_le_cons {a b : CodePoint} {as bs : Text} :
    le (a :: as) (b :: bs) ↔ a.val < b.val ∨ a = b ∧ le as bs := by
  simp [le]

theorem le_refl (a : Text) : le a a := by
  induction a with
  | nil => rfl
  | cons c a ih => exact cons_le_cons.2 (.inr ⟨rfl, ih⟩)

theorem le_total (a b : Text) : le a b || le b a := by
  induction a generalizing b with
  | nil => rfl
  | cons c a ih =>
    cases b with
    | nil => rfl
    | cons d b =>
      have h := ih b
      rcases Nat.lt_trichotomy c.val d.val with hc | hc | hc
      · simp [cons_le_cons.2 (.inl hc)]
      · cases CodePoint.ext_val hc
        simpa [le] using h
      · simp [cons_le_cons.2 (.inl hc)]

theorem le_trans {a b c : Text} (hab : le a b) (hbc : le b c) : le a c := by
  induction a generalizing b c with
  | nil => rfl
  | cons x a ih =>
    cases b with
    | nil => cases hab
    | cons y b =>
      cases c with
      | nil => cases hbc
      | cons z c =>
        rcases cons_le_cons.1 hab with hxy | ⟨rfl, hab'⟩
        · rcases cons_le_cons.1 hbc with hyz | ⟨rfl, _⟩
          · exact cons_le_cons.2 (.inl (Nat.lt_trans hxy hyz))
          · exact cons_le_cons.2 (.inl hxy)
        · rcases cons_le_cons.1 hbc with hyz | ⟨rfl, hbc'⟩
          · exact cons_le_cons.2 (.inl hyz)
          · exact cons_le_cons.2 (.inr ⟨rfl, ih hab' hbc'⟩)

/-- Texts that come after each other are the same. -/
theorem le_antisymm {a b : Text} (hab : le a b) (hba : le b a) : a = b := by
  induction a generalizing b with
  | nil =>
    cases b with
    | nil => rfl
    | cons => cases hba
  | cons x a ih =>
    cases b with
    | nil => cases hab
    | cons y b =>
      rcases cons_le_cons.1 hab with hxy | ⟨rfl, hab'⟩
      · rcases cons_le_cons.1 hba with hyx | ⟨rfl, _⟩ <;> omega
      · rcases cons_le_cons.1 hba with hxx | ⟨_, hba'⟩
        · omega
        · rw [ih hab' hba']

/-! ## Blanks -/

/-- The characters with the property White_Space. -/
def isSpace (c : CodePoint) : Bool :=
  let n := c.val
  0x9 ≤ n && n ≤ 0xD || n == 0x20 || n == 0x85 || n == 0xA0 || n == 0x1680 ||
    0x2000 ≤ n && n ≤ 0x200A || n == 0x2028 || n == 0x2029 || n == 0x202F || n == 0x205F ||
    n == 0x3000

/-- White space and the ASCII information separators U+001C to U+001F. -/
def isBlank (c : CodePoint) : Bool := isSpace c || 0x1C ≤ c.val && c.val ≤ 0x1F

/-! ## Capital letters -/

/-- The capital form of a character if it is made of ASCII letters. Any other character stays. -/
def capital (c : CodePoint) : Text :=
  if c.between 'a' 'z' then [CodePoint.ofNat (c.val - 32)]
  else if c.val = 0xDF then "SS"
  else if c.val = 0x131 then "I"
  else if c.val = 0x17F then "S"
  else if c.val = 0xFB00 then "FF"
  else if c.val = 0xFB01 then "FI"
  else if c.val = 0xFB02 then "FL"
  else if c.val = 0xFB03 then "FFI"
  else if c.val = 0xFB04 then "FFL"
  else if c.val = 0xFB05 ∨ c.val = 0xFB06 then "ST"
  else [c]

/-- A text in capital letters. It is exact for texts whose capital form is all ASCII, and no other
text becomes ASCII. -/
def capitals (t : Text) : Text := t.flatMap capital

/-! ## Numbers in writing -/

def isDigit (c : CodePoint) : Bool := c.between '0' '9'

/-- The number that digits stand for. -/
def digitsValue (ds : Text) : Nat := ds.foldl (fun n d => 10 * n + (d.val - 48)) 0

/-- The number of digits beyond which integers are neither read nor written. -/
def maxDigits : Nat := 4300

/-- The magnitude from which on integers have too many digits to be written. -/
def digitBound : Nat := Nat.pow 10 maxDigits

/-- Different numbers are written differently. -/
theorem toString_inj {n m : Nat} : toString n = toString m ↔ n = m := by
  refine ⟨fun same => ?_, congrArg _⟩
  have digits : Nat.toDigits 10 n = Nat.toDigits 10 m := by
    rw [← Nat.toList_repr, ← Nat.toList_repr]
    exact congrArg String.toList same
  simpa only [Nat.ofDigitChars_ten_toDigits] using congrArg (Nat.ofDigitChars 10 · 0) digits

theorem isDigit_of_mem_toString {n : Nat} {c : Char} (hc : c ∈ (toString n).toList) :
    c.isDigit := by
  rw [Nat.toString_eq_repr, Nat.toList_repr] at hc
  exact Nat.isDigit_of_mem_toDigits (by decide) (by decide) hc

end Text

end UsageTree
