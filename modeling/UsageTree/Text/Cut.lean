import UsageTree.Text

/-!
# Cutting and trimming texts

`cut` divides a text at every separator and keeps empty pieces; `trim` removes unwanted characters
at both ends.

## Main definitions

* `Text.cut` — the pieces between separators, in order.
* `Text.trim` — the text without the characters of a class at its ends.
-/

namespace UsageTree.Text

/-! ## cut -/

/-- One character read from the right: the separator closes the piece in front,
any other character joins it. -/
def cutStep (sep c : CodePoint) (r : Text × List Text) : Text × List Text :=
  if c = sep then ([], r.1 :: r.2) else (c :: r.1, r.2)

/-- The pieces of `cs` between occurrences of `sep`. A text without `sep` is one piece. -/
def cut (sep : CodePoint) (cs : Text) : List Text :=
  let r := cs.foldr (cutStep sep) ([], [])
  r.1 :: r.2

@[simp] theorem cut_nil (sep : CodePoint) : cut sep [] = [[]] := rfl

@[simp] theorem cut_cons_self (sep : CodePoint) (cs : Text) :
    cut sep (sep :: cs) = [] :: cut sep cs := by
  simp [cut, cutStep]

theorem cut_cons_of_ne {sep c : CodePoint} (h : c ≠ sep) (cs : Text) :
    cut sep (c :: cs) = (cut sep cs).modifyHead (c :: ·) := by
  simp [cut, cutStep, h]

theorem cut_ne_nil (sep : CodePoint) (cs : Text) : cut sep cs ≠ [] := by
  simp [cut]

/-- A separator divides: the pieces on its two sides are found independently. -/
theorem cut_append_cons (sep : CodePoint) (cs ds : Text) :
    cut sep (cs ++ sep :: ds) = cut sep cs ++ cut sep ds := by
  induction cs with
  | nil => simp
  | cons c cs ih =>
    by_cases h : c = sep
    · subst h; simp [ih]
    · rw [List.cons_append, cut_cons_of_ne h, cut_cons_of_ne h, ih]
      cases hc : cut sep cs with
      | nil => exact absurd hc (cut_ne_nil sep cs)
      | cons p ps => simp

/-- No piece holds the separator. -/
theorem not_mem_of_mem_cut {sep : CodePoint} {cs p : Text} (h : p ∈ cut sep cs) : sep ∉ p := by
  induction cs generalizing p with
  | nil => simp_all
  | cons c cs ih =>
    by_cases hc : c = sep
    · subst hc
      rcases List.mem_cons.1 (by simpa using h) with rfl | h
      · simp
      · exact ih h
    · rw [cut_cons_of_ne hc] at h
      cases hq : cut sep cs with
      | nil => exact absurd hq (cut_ne_nil sep cs)
      | cons q qs =>
        rw [hq] at h ih
        rcases List.mem_cons.1 (by simpa using h) with rfl | h
        · simpa [Ne.symm hc] using ih (p := q) (by simp)
        · exact ih (by simp [h])

/-- A text without the separator is its only piece. -/
theorem cut_eq_singleton {sep : CodePoint} {cs : Text} (h : sep ∉ cs) : cut sep cs = [cs] := by
  induction cs with
  | nil => rfl
  | cons c cs ih =>
    have hc : c ≠ sep := by rintro rfl; simp at h
    rw [cut_cons_of_ne hc, ih (by simp_all)]
    rfl

/-! ## trim -/

/-- The text without the characters of class `p` at either end. -/
def trim (p : CodePoint → Bool) (cs : Text) : Text :=
  ((cs.dropWhile p).reverse.dropWhile p).reverse

end UsageTree.Text
