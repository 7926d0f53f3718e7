import UsageTree.Text.CaseFolding
import UsageTree.Text.CombiningClass
import UsageTree.Text.Decomposition

/-!
# Folding and taking apart

Full case folding makes letters the same that differ in case alone. Compatibility decomposition
takes characters apart for good, and puts the marks behind a letter in an order that does not depend
on how they were written.

## Main definitions

* `Text.foldCase` — a text in which letters that differ in case alone are the same.
* `Text.combiningClass` — the canonical combining class of a character.
* `Text.reorder` — marks put in the order of their classes.
* `Text.decompose` — one character taken apart.
* `Text.compatible` — a text taken apart, its marks in canonical order.

## Main statements

* `CaseFolding.complete`, `Decomposition.complete` — tables whose replacements need no replacing.
-/

namespace UsageTree.Text

/-! ## Case folding -/

/-- The text with every character replaced by its folded form. -/
def foldCase (cs : Text) : Text := cs.flatMap CaseFolding.table.replace

theorem CaseFolding.complete : CaseFolding.table.Complete :=
  ⟨by decide +kernel, by decide +kernel, by decide +kernel⟩

/-! ## Marks -/

/-- The canonical combining class of a character. -/
def combiningClass (c : CodePoint) : Nat := (CombiningClass.table.find? c.val).getD 0

theorem CombiningClass.ascending : CombiningClass.table.Ascending := by decide +kernel

/-- The text with `c` in front, behind those leading marks that have a smaller class than `c`. A
character of class 0 goes to the front and lets no mark pass. -/
def insertMark (c : CodePoint) : Text → Text
  | [] => [c]
  | d :: rest =>
    if 0 < combiningClass d ∧ combiningClass d < combiningClass c then d :: insertMark c rest
    else c :: d :: rest

/-- The text with every run of marks sorted by class; marks of one class keep their order. -/
def reorder (cs : Text) : Text := cs.foldr insertMark []

/-! ## Decomposition -/

/-- The two or three letters of a Hangul syllable. Syllables are numbered by leading consonant,
vowel and trailing consonant, the last of which may be absent. -/
def hangul? (c : CodePoint) : Option Text :=
  if 0xAC00 ≤ c.val ∧ c.val ≤ 0xD7A3 then
    let i := c.val - 0xAC00
    let lead := CodePoint.ofNat (0x1100 + i / 588)
    let vowel := CodePoint.ofNat (0x1161 + i % 588 / 28)
    if i % 28 = 0 then some [lead, vowel]
    else some [lead, vowel, CodePoint.ofNat (0x11A7 + i % 28)]
  else none

/-- The characters into which a character is taken apart. -/
def decompose (c : CodePoint) : Text := (hangul? c).getD (Decomposition.table.replace c)

/-- The text with every character taken apart and marks in canonical order. -/
def compatible (cs : Text) : Text := reorder (cs.flatMap decompose)

theorem Decomposition.complete : Decomposition.table.Complete :=
  ⟨by decide +kernel, by decide +kernel, by decide +kernel⟩

end UsageTree.Text
