import UsageTree.Proofs.NameOrder

/-!
# Names folded character by character

Marks are put in order over a whole text, so that a mark at the beginning of one text may pass marks
at the end of the text in front of it. Base characters let no mark pass and keep their order, and
nothing else is left of a folded name. So it does not matter what the marks of two texts do where
these meet, and a name is folded by folding one character after the other.

## Main definitions

* `Text.bases` — a text without its marks.
* `Collation.foldChar` — the folded form of a single character.

## Main statements

* `Text.bases_reorder` — the order of marks is lost with the marks.
* `Collation.fold_eq_flatMap` — a name is folded character by character.
* `Collation.key_append` — the folded form of two names in a row.
-/

namespace UsageTree

namespace Text

/-- The base characters of a text, which is the text without its marks. -/
def bases (cs : Text) : Text := cs.filter (combiningClass · == 0)

theorem bases_append (cs ds : Text) : bases (cs ++ ds) = bases cs ++ bases ds :=
  List.filter_append ..

/-- A mark passes marks only on the way to its place, and a base character passes nothing. -/
theorem bases_insertMark (c : CodePoint) (cs : Text) :
    bases (insertMark c cs) = bases (c :: cs) := by
  fun_induction insertMark c cs with
  | case1 => rfl
  | case2 d rest passes ih =>
    have mark : combiningClass c ≠ 0 := by omega
    have passed : combiningClass d ≠ 0 := by omega
    simp_all [bases]
  | case3 => rfl

/-- The order of marks is lost with the marks. -/
theorem bases_reorder (cs : Text) : bases (reorder cs) = bases cs := by
  induction cs with
  | nil => rfl
  | cons c cs ih =>
    calc bases (reorder (c :: cs))
      _ = bases ([c] ++ reorder cs) := bases_insertMark c (reorder cs)
      _ = bases [c] ++ bases cs := by rw [bases_append, ih]
      _ = bases (c :: cs) := (bases_append [c] cs).symm

/-- The base characters of a text that is taken apart are those of its characters. -/
theorem bases_compatible (cs : Text) :
    bases (compatible cs) = cs.flatMap fun c => bases (decompose c) := by
  rw [compatible, bases_reorder, bases, List.filter_flatMap]
  rfl

end Text

namespace Collation

/-- The folded form of a single character. -/
def foldChar (c : CodePoint) : Text :=
  (Text.CaseFolding.table.replace c).flatMap fun d => Text.bases (Text.decompose d)

/-- A name is folded character by character. -/
theorem fold_eq_flatMap (name : Text) : fold name = name.flatMap foldChar := by
  have folded : fold name = Text.bases (Text.compatible (Text.foldCase name)) := rfl
  rw [folded, Text.bases_compatible, Text.foldCase, List.flatMap_assoc]
  rfl

theorem fold_append (s t : Text) : fold (s ++ t) = fold s ++ fold t := by
  simp only [fold_eq_flatMap, List.flatMap_append]

theorem fold_singleton (c : CodePoint) : fold [c] = foldChar c := by
  simp [fold_eq_flatMap]

theorem key_eq_ok {name : Text} (h : ('\x00' : CodePoint) ∉ name) : key name = .ok (keyOf name) :=
  if_neg h

/-- Two names in a row are folded to the folded form of the one followed by that of the other, and
so to the folded forms of all their characters one after the other. -/
theorem key_append {s t : Text} (hs : ('\x00' : CodePoint) ∉ s) (ht : ('\x00' : CodePoint) ∉ t) :
    ∃ a b k ks, key s = .ok a ∧ key t = .ok b ∧ key (s ++ t) = .ok k ∧
      k.folded = a.folded ++ b.folded ∧
      (s ++ t).mapM (fun c => key [c]) = .ok ks ∧ k.folded = ks.flatMap Key.folded := by
  have both : ('\x00' : CodePoint) ∉ s ++ t := by
    intro mem
    exact (List.mem_append.1 mem).elim hs ht
  have single : (s ++ t).mapM (fun c => key [c]) = .ok ((s ++ t).map fun c => keyOf [c]) := by
    rw [← Attempt.mapM_ok]
    apply Attempt.mapM_congr
    intro c hc
    apply key_eq_ok
    intro nul
    exact both (List.mem_singleton.1 nul ▸ hc)
  have folded : (fun c => (keyOf [c]).folded) = foldChar := funext fold_singleton
  refine ⟨_, _, _, _, key_eq_ok hs, key_eq_ok ht, key_eq_ok both, fold_append s t, single, ?_⟩
  rw [List.flatMap_map, folded]
  exact fold_eq_flatMap (s ++ t)

/-- A letter with a mark above it. -/
def acute : Text := "E\u0301"

/-- A mark that goes below the letter in front of the text, and two letters more. -/
def dotted : Text := "\u0323ÉA"

/-- The mark below passes the mark above where the two texts meet. -/
theorem key_append_dotted :
    ('\x00' : CodePoint) ∉ acute ∧ ('\x00' : CodePoint) ∉ dotted ∧
    Text.compatible (acute ++ dotted) ≠ Text.compatible acute ++ Text.compatible dotted ∧
    ∃ a b k ks, key acute = .ok a ∧ key dotted = .ok b ∧ key (acute ++ dotted) = .ok k ∧
      k.folded = a.folded ++ b.folded ∧
      (acute ++ dotted).mapM (fun c => key [c]) = .ok ks ∧ k.folded = ks.flatMap Key.folded :=
  ⟨by decide, by decide, by decide +kernel, key_append (by decide) (by decide)⟩

example : fold (acute ++ dotted) = "eea" := by decide +kernel

end Collation

end UsageTree
