import UsageTree.Proofs.Folding
import UsageTree.Text.Normalization

/-!
# Names folded twice

Case is folded before a name is taken apart, and marks are dropped last. Nothing that is left can be
taken apart and nothing is a mark, but capitals may have come out of characters that case folding
does not know, such as the sign of a trade mark. A second folding folds these capitals, and a third
one finds nothing to do.

## Main definitions

* `Text.Plain` — base characters that are not taken apart.
* `Text.ConcealsCase` — characters out of which capitals come.
* `Collation.Refolded` — what folding a folded name does.

## Main statements

* `Text.decompose_of_mem`, `Text.foldCase_foldCase` — taking apart and folding case are done in one
  go.
* `Text.plain_of_mem_replace` — plain characters stay plain when their case is folded.
* `Text.le_of_concealsCase` — Latin and Greek letters conceal no case.
* `Collation.fold_fold` — folding a folded name folds its case and nothing else.
* `Collation.refolded` — what is left to fold in a folded name.
-/

namespace UsageTree

namespace Text

variable {c d : CodePoint} {cs : Text}

/-! ## Characters taken apart -/

/-- The character is no syllable, and the table has nothing for it. -/
def Whole (c : CodePoint) : Prop :=
  (hangul? c).isNone ∧ Decomposition.table.replaced.testBit c.val = false

instance : Decidable (Whole c) := inferInstanceAs (Decidable (_ ∧ _))

/-- A syllable has two or three letters, all of them from one block. -/
theorem of_hangul? {letters : Text} (h : hangul? c = some letters) : 1 < letters.length ∧
    ∀ d ∈ letters, ∃ n, 0x1100 ≤ n ∧ n < 0x1200 ∧ d = CodePoint.ofNat n := by
  have letter {n : Nat} (first : 0x1100 ≤ n) (last : n < 0x1200) :
      ∃ n', 0x1100 ≤ n' ∧ n' < 0x1200 ∧ CodePoint.ofNat n = CodePoint.ofNat n' :=
    ⟨n, first, last, rfl⟩
  unfold hangul? at h
  split at h
  · dsimp only at h
    split at h
    all_goals
      cases h
      simp only [List.mem_cons, List.not_mem_nil, or_false, forall_eq_or_imp, forall_eq]
    · exact ⟨by simp, letter (by omega) (by omega), letter (by omega) (by omega)⟩
    · exact ⟨by simp, letter (by omega) (by omega), letter (by omega) (by omega),
        letter (by omega) (by omega)⟩
  · cases h

theorem decompose_eq_self_iff : decompose c = [c] ↔ Whole c := by
  unfold decompose Whole
  rw [← Decomposition.complete.replace_eq_self_iff]
  cases h : hangul? c with
  | none => simp
  | some letters =>
    have several := (of_hangul? h).1
    refine iff_of_false (fun single => ?_) (by simp)
    rw [Option.getD_some] at single
    simp [single] at several

/-- A part of a character is a letter of a syllable, or the table has it. -/
theorem mem_decompose (h : d ∈ decompose c) :
    (∃ n, 0x1100 ≤ n ∧ n < 0x1200 ∧ d = CodePoint.ofNat n) ∨
      (hangul? c).isNone ∧ d ∈ Decomposition.table.replace c := by
  unfold decompose at h
  cases syllable : hangul? c with
  | none => exact .inr ⟨rfl, by simpa [syllable] using h⟩
  | some letters => exact .inl ((of_hangul? syllable).2 d (by simpa [syllable] using h))

theorem whole_letters : ∀ k < 0x100, Whole (CodePoint.ofNat (0x1100 + k)) := by decide +kernel

theorem whole_images :
    Decomposition.table.Forall fun _ image => ∀ m ∈ image, Whole (CodePoint.ofNat m) := by
  decide +kernel

/-- A part of a character is not taken apart again. -/
theorem decompose_of_mem (h : d ∈ decompose c) : decompose d = [d] := by
  rw [decompose_eq_self_iff]
  rcases mem_decompose h with ⟨n, first, last, rfl⟩ | ⟨noSyllable, h⟩
  · obtain ⟨k, rfl⟩ := Nat.exists_eq_add_of_le first
    exact whole_letters k (by omega)
  · rcases CharTable.exists_of_mem_replace h with ⟨stays, rfl⟩ | ⟨image, m, found, hm, rfl⟩
    · exact ⟨noSyllable, Decomposition.complete.replace_eq_self_iff.1 stays⟩
    · exact whole_images.of_find? found m hm

/-- Syllables are far up in the code. -/
theorem decompose_of_lt (h : c.val < 0xAC00) : decompose c = Decomposition.table.replace c := by
  have noSyllable : hangul? c = none := if_neg (by omega)
  simp [decompose, noSyllable]

theorem nul_of_mem_decompose (h : ('\x00' : CodePoint) ∈ decompose c) : c = '\x00' := by
  rcases mem_decompose h with ⟨n, first, -, nul⟩ | ⟨-, h⟩
  · have := CharTable.eq_zero_of_ofNat_eq_nul nul.symm
    omega
  · exact Decomposition.complete.nul_of_mem h

/-! ## Case -/

theorem flatMap_eq_self {f : CodePoint → Text} (h : ∀ c ∈ cs, f c = [c]) : cs.flatMap f = cs := by
  rw [List.flatMap_congr h, List.flatMap_singleton']

theorem replace_of_mem_foldCase (h : c ∈ foldCase cs) : CaseFolding.table.replace c = [c] := by
  obtain ⟨b, -, hb⟩ := List.mem_flatMap.1 h
  exact CaseFolding.complete.replace_of_mem hb

theorem foldCase_eq_self_iff :
    foldCase cs = cs ↔ ∀ c ∈ cs, CaseFolding.table.replace c = [c] := by
  refine ⟨fun folded c hc => ?_, flatMap_eq_self⟩
  exact replace_of_mem_foldCase (folded.symm ▸ hc : c ∈ foldCase cs)

/-- Case is folded in one go. -/
theorem foldCase_foldCase (cs : Text) : foldCase (foldCase cs) = foldCase cs :=
  foldCase_eq_self_iff.2 fun _ => replace_of_mem_foldCase

theorem nul_mem_foldCase_iff : ('\x00' : CodePoint) ∈ foldCase cs ↔ ('\x00' : CodePoint) ∈ cs := by
  constructor
  · intro h
    obtain ⟨c, hc, h⟩ := List.mem_flatMap.1 h
    exact CaseFolding.complete.nul_of_mem h ▸ hc
  · exact fun h => List.mem_flatMap.2 ⟨_, h, by decide⟩

/-! ## Plain characters -/

/-- The code points of marks. -/
def marks : Nat := CombiningClass.table.bits (· != 0)

theorem combiningClass_eq_zero_iff : combiningClass c = 0 ↔ marks.testBit c.val = false := by
  rw [marks, CharTable.testBit_bits CombiningClass.ascending, combiningClass]
  cases CombiningClass.table.find? c.val <;> simp

/-- A base character that is not taken apart. -/
structure Plain (c : CodePoint) : Prop where
  whole : decompose c = [c]
  base : combiningClass c = 0

theorem plain_of_mem_bases (h : d ∈ bases (decompose c)) : Plain d := by
  obtain ⟨part, base⟩ := List.mem_filter.1 h
  exact ⟨decompose_of_mem part, by simpa using base⟩

/-- Plain characters are not taken apart, and none is dropped. -/
theorem bases_compatible_of_plain (h : ∀ c ∈ cs, Plain c) : bases (compatible cs) = cs := by
  rw [bases_compatible]
  refine flatMap_eq_self fun c hc => ?_
  rw [(h c hc).whole]
  exact List.filter_eq_self.2 (by simpa using (h c hc).base)

theorem plain_images : CaseFolding.table.Forall fun n image =>
    Decomposition.table.replaced.testBit n ∨ marks.testBit n ∨
      ∀ m ∈ image, Whole (CodePoint.ofNat m) ∧ marks.testBit (CodePoint.ofNat m).val = false := by
  decide +kernel

/-- No mark and nothing to take apart comes of folding the case of a plain character. Some letters
with a mark do have such forms, but these letters are taken apart themselves. -/
theorem plain_of_mem_replace (plain : Plain c) (h : d ∈ CaseFolding.table.replace c) : Plain d := by
  rcases CharTable.exists_of_mem_replace h with ⟨-, rfl⟩ | ⟨image, m, found, hm, rfl⟩
  · exact plain
  · have whole := (decompose_eq_self_iff.1 plain.whole).2
    have base := combiningClass_eq_zero_iff.1 plain.base
    rcases plain_images.of_find? found with apart | mark | images
    · exact absurd (whole.symm.trans apart) Bool.false_ne_true
    · exact absurd (base.symm.trans mark) Bool.false_ne_true
    · obtain ⟨whole, base⟩ := images m hm
      exact ⟨decompose_eq_self_iff.2 whole, combiningClass_eq_zero_iff.2 base⟩

theorem plain_of_mem_foldCase (plain : ∀ c ∈ cs, Plain c) : ∀ d ∈ foldCase cs, Plain d := by
  intro d hd
  obtain ⟨c, hc, h⟩ := List.mem_flatMap.1 hd
  exact plain_of_mem_replace (plain c hc) h

/-! ## Concealed case -/

/-- The character has a case that shows only when it was taken apart: of what is left of it, with
its own case folded and its marks dropped, something has a case to fold. -/
def ConcealsCase (c : CodePoint) : Prop :=
  ∃ d ∈ CaseFolding.table.replace c, ∃ e ∈ bases (decompose d), CaseFolding.table.replace e ≠ [e]

instance : Decidable (ConcealsCase c) := inferInstanceAs (Decidable (∃ d ∈ _, ∃ e ∈ _, _ ≠ _))

theorem uncased_images : Decomposition.table.Forall fun n image =>
    0x3D2 ≤ n ∨ CaseFolding.table.replaced.testBit n ∨ ∀ m ∈ image,
      CaseFolding.table.replaced.testBit (CodePoint.ofNat m).val = false ∨
        marks.testBit (CodePoint.ofNat m).val := by
  decide +kernel

theorem early_images : CaseFolding.table.Forall fun n image =>
    0x3D2 ≤ n ∨ ∀ m ∈ image, (CodePoint.ofNat m).val < 0x3D2 ∨ Whole (CodePoint.ofNat m) := by
  decide +kernel

/-- Up to the Greek letters, nothing with a case comes out of a character that has none. -/
theorem replace_of_mem_bases (early : c.val < 0x3D2) (stays : CaseFolding.table.replace c = [c])
    (h : d ∈ bases (decompose c)) : CaseFolding.table.replace d = [d] := by
  obtain ⟨part, base⟩ := List.mem_filter.1 h
  rw [decompose_of_lt (by omega)] at part
  rcases CharTable.exists_of_mem_replace part with ⟨-, rfl⟩ | ⟨image, m, found, hm, rfl⟩
  · exact stays
  · have uncased := CaseFolding.complete.replace_eq_self_iff.1 stays
    have base := combiningClass_eq_zero_iff.1 (by simpa using base)
    rcases uncased_images.of_find? found with late | cased | images
    · omega
    · exact absurd (uncased.symm.trans cased) Bool.false_ne_true
    · rcases images m hm with uncased | mark
      · exact CaseFolding.complete.replace_eq_self_iff.2 uncased
      · exact absurd (base.symm.trans mark) Bool.false_ne_true

/-- No character in front of the Greek symbols conceals its case, so no Latin letter does. -/
theorem le_of_concealsCase (h : ConcealsCase c) : 0x3D2 ≤ c.val := by
  obtain ⟨d, hd, e, he, cased⟩ := h
  by_contra early
  refine cased ?_
  rcases CharTable.exists_of_mem_replace hd with ⟨stays, rfl⟩ | ⟨image, m, found, hm, rfl⟩
  · exact replace_of_mem_bases (by omega) stays he
  · have stays := CaseFolding.complete.replace_of_mem hd
    rcases (early_images.of_find? found).resolve_left early m hm with early | whole
    · exact replace_of_mem_bases early stays he
    · rw [decompose_eq_self_iff.2 whole] at he
      cases List.mem_singleton.1 (List.mem_of_mem_filter he)
      exact stays

example : ConcealsCase (CodePoint.ofNat 0x3D2) := by decide +kernel

end Text

namespace Collation

variable {name : Text} {c : CodePoint}

theorem mem_fold : c ∈ fold name ↔ ∃ a ∈ name, ∃ b ∈ Text.CaseFolding.table.replace a,
    c ∈ Text.bases (Text.decompose b) := by
  simp only [fold_eq_flatMap, foldChar, List.mem_flatMap]

theorem plain_of_mem_fold (h : c ∈ fold name) : Text.Plain c := by
  obtain ⟨a, -, b, -, hc⟩ := mem_fold.1 h
  exact Text.plain_of_mem_bases hc

theorem nul_mem_of_mem_fold (h : ('\x00' : CodePoint) ∈ fold name) :
    ('\x00' : CodePoint) ∈ name := by
  obtain ⟨a, ha, b, hb, h⟩ := mem_fold.1 h
  cases Text.nul_of_mem_decompose (List.mem_of_mem_filter h)
  exact Text.CaseFolding.complete.nul_of_mem hb ▸ ha

theorem exists_key (h : ('\x00' : CodePoint) ∉ name) :
    ∃ k, key name = .ok k ∧ k.folded = fold name :=
  ⟨_, key_eq_ok h, rfl⟩

/-- Folding a folded name folds its case and nothing else. -/
theorem fold_fold (name : Text) : fold (fold name) = Text.foldCase (fold name) :=
  Text.bases_compatible_of_plain (Text.plain_of_mem_foldCase fun _ => plain_of_mem_fold)

/-- A name folded twice is folded for good. -/
theorem fold_fold_fold (name : Text) : fold (fold (fold name)) = fold (fold name) := by
  rw [fold_fold (fold name), fold_fold name, Text.foldCase_foldCase]

/-- A folded name is folded for good unless a character of the name conceals its case. -/
theorem fold_fold_eq_self_iff :
    fold (fold name) = fold name ↔ ∀ c ∈ name, ¬ Text.ConcealsCase c := by
  rw [fold_fold, Text.foldCase_eq_self_iff]
  constructor
  · rintro settled a ha ⟨b, hb, c, hc, cased⟩
    exact cased (settled c (mem_fold.2 ⟨a, ha, b, hb, hc⟩))
  · intro shown c hc
    obtain ⟨a, ha, b, hb, hc⟩ := mem_fold.1 hc
    by_contra cased
    exact shown a ha ⟨b, hb, c, hc, cased⟩

/-- What folding a folded name does: `k` is the key of the name, `k'` that of its folded form, and
`k''` that of the folded form of this one. -/
structure Refolded (name : Text) (k k' k'' : Key) : Prop where
  /-- Taking apart and dropping marks are done with at once. -/
  plain : ∀ c ∈ k.folded, Text.Plain c
  twice_eq : k'.folded = Text.foldCase k.folded
  twice_eq_iff : k'.folded = k.folded ↔ ∀ c ∈ name, ¬ Text.ConcealsCase c
  twice_eq_of_lt : (∀ c ∈ name, c.val < 0x3D2) → k'.folded = k.folded
  /-- No character is left that any of the steps would change. -/
  settled : ∀ c ∈ k'.folded, Text.Plain c ∧ Text.CaseFolding.table.replace c = [c]
  thrice_eq : k''.folded = k'.folded
  /-- Names that differ in case alone are not told apart by their folded forms. -/
  alike : ∀ name', Text.foldCase name' = Text.foldCase name →
    ∃ l, key name' = .ok l ∧ l.folded = k.folded

/-- Accents are gone once a name is folded, and so is case unless a character of the name conceals
its own. All case is gone when the folded name is folded again. -/
theorem refolded (h : ('\x00' : CodePoint) ∉ name) : ∃ k k' k'', key name = .ok k ∧
    key k.folded = .ok k' ∧ key k'.folded = .ok k'' ∧ Refolded name k k' k'' := by
  obtain ⟨k, hk, once⟩ := exists_key h
  have clean : ('\x00' : CodePoint) ∉ k.folded := once ▸ mt nul_mem_of_mem_fold h
  obtain ⟨k', hk', twice⟩ := exists_key clean
  have clean' : ('\x00' : CodePoint) ∉ k'.folded := twice ▸ mt nul_mem_of_mem_fold clean
  obtain ⟨k'', hk'', thrice⟩ := exists_key clean'
  rw [once] at twice
  rw [twice] at thrice
  refine ⟨k, k', k'', hk, hk', hk'', ?_⟩
  refine {
    plain := fun c hc => plain_of_mem_fold (once ▸ hc)
    twice_eq := by rw [twice, once, fold_fold]
    twice_eq_iff := by rw [twice, once, fold_fold_eq_self_iff]
    twice_eq_of_lt := fun early => ?_
    settled := fun c hc => ?_
    thrice_eq := by rw [thrice, twice, fold_fold_fold]
    alike := fun name' same => ?_ }
  · rw [twice, once, fold_fold_eq_self_iff]
    exact fun c hc conceals => (early c hc).not_ge (Text.le_of_concealsCase conceals)
  · rw [twice] at hc
    exact ⟨plain_of_mem_fold hc, Text.replace_of_mem_foldCase (fold_fold name ▸ hc)⟩
  · have clean : ('\x00' : CodePoint) ∉ name' := by
      rwa [← Text.nul_mem_foldCase_iff, same, Text.nul_mem_foldCase_iff]
    obtain ⟨l, hl, folded⟩ := exists_key clean
    refine ⟨l, hl, ?_⟩
    rw [folded, once, fold, fold, same]

/-- An accent, and a sign that conceals two capitals. -/
def brand : Text := "Café™"

theorem refolded_brand : ('\x00' : CodePoint) ∉ brand ∧ fold brand = "cafeTM" ∧
    ∃ k k' k'', key brand = .ok k ∧ key k.folded = .ok k' ∧ key k'.folded = .ok k'' ∧
      Refolded brand k k' k'' :=
  ⟨by decide, by decide +kernel, refolded (by decide)⟩

/-- The capitals that come out of the sign are folded the second time only. -/
theorem unsettled_trademark :
    key "™" = .ok ⟨"TM", "™"⟩ ∧ key "TM" = .ok ⟨"tm", "TM"⟩ ∧
    ¬ ∀ name k k', key name = .ok k → key k.folded = .ok k' → k'.folded = k.folded := by
  have sign : key "™" = .ok ⟨"TM", "™"⟩ := by decide +kernel
  have letters : key "TM" = .ok ⟨"tm", "TM"⟩ := by decide +kernel
  exact ⟨sign, letters, fun settled => absurd (settled _ _ _ sign letters) (by decide)⟩

end Collation

end UsageTree
