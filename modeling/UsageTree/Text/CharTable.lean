import UsageTree.Text

/-!
# Tables of character properties

A property that few characters have is kept in segments of neighbouring code points, in ascending
order.

A table lists thousands of values, and laws about every character rest on all of them. Such a law is
decided entry by entry: the table is run through once, and the characters that a table says anything
about are kept as the bits of one number, so that each of them is looked up in a single step.

## Main definitions

* `CharTable` — segments of values.
* `CharTable.find?` — the value of a code point.
* `CharTable.Ascending` — segments stand in order.
* `CharTable.Forall` — what holds of every entry.
* `CharTable.bits` — the characters whose values have a property.
* `CharTable.Complete` — a table whose replacements need no replacing.

## Main statements

* `CharTable.testBit_bits` — a bit is set exactly for the characters whose values have the property.
* `CharTable.Complete.replace_of_mem` — what was put in place of a character stays.
-/

namespace UsageTree.Text

/-- The values of neighbouring code points. -/
structure Segment (α : Type) where
  first : Nat
  values : Array α

/-- Segments in ascending order, none overlapping the next. -/
abbrev CharTable (α : Type) := List (Segment α)

namespace CharTable

variable {α : Type} {t : CharTable α} {n : Nat} {a : α}

/-- The value of a code point, if a segment holds it. -/
def find? (c : Nat) : CharTable α → Option α
  | [] => none
  | s :: rest =>
    if c < s.first then none
    else match s.values[c - s.first]? with
      | some a => some a
      | none => find? c rest

/-- The text that a table puts in place of `c`. No entry, or an empty one, leaves it. -/
def replace (t : CharTable (List Nat)) (c : CodePoint) : Text :=
  match find? c.val t with
  | none | some [] => [c]
  | some image => image.map CodePoint.ofNat

/-! ## Segments -/

theorem exists_of_find? (h : t.find? n = some a) :
    ∃ s ∈ t, s.first ≤ n ∧ s.values[n - s.first]? = some a := by
  fun_induction find? n t with
  | case1 => cases h
  | case2 => cases h
  | case3 s rest begun b held => exact ⟨s, .head _, Nat.not_lt.1 begun, held.trans h⟩
  | case4 s rest _ _ ih =>
    obtain ⟨s', hs', known⟩ := ih h
    exact ⟨s', .tail _ hs', known⟩

/-- No segment begins before the one in front of it ends. -/
def Ascending (t : CharTable α) : Prop :=
  t.Pairwise fun s s' => s.first + s.values.size ≤ s'.first

instance : Decidable t.Ascending := inferInstanceAs (Decidable (List.Pairwise _ _))

/-- What a segment holds is found, for no other segment stands in its way. -/
theorem Ascending.find?_eq_some (ascending : t.Ascending) {s : Segment α} (hs : s ∈ t)
    (begun : s.first ≤ n) (held : s.values[n - s.first]? = some a) : t.find? n = some a := by
  induction t with
  | nil => cases hs
  | cons s' rest ih =>
    obtain ⟨before, ascending⟩ := List.pairwise_cons.1 ascending
    rcases List.mem_cons.1 hs with rfl | hs
    · rw [find?, if_neg (Nat.not_lt.2 begun), held]
    · have past := before s hs
      have begun' : ¬ n < s'.first := by omega
      have passed : s'.values[n - s'.first]? = none := Array.getElem?_eq_none (by omega)
      rw [find?, if_neg begun', passed]
      exact ih ascending hs

/-! ## Entries -/

/-- Every value in the table satisfies `p` together with its code point. -/
def Forall (p : Nat → α → Prop) (t : CharTable α) : Prop :=
  ∀ s ∈ t, ∀ e ∈ s.values.toList.zipIdx s.first, p e.2 e.1

instance (p : Nat → α → Prop) [∀ n a, Decidable (p n a)] : Decidable (t.Forall p) :=
  inferInstanceAs (Decidable (∀ s ∈ t, ∀ e ∈ s.values.toList.zipIdx s.first, p e.2 e.1))

theorem Forall.of_find? {p : Nat → α → Prop} (all : t.Forall p) (h : t.find? n = some a) :
    p n a := by
  obtain ⟨s, hs, begun, held⟩ := exists_of_find? h
  refine all s hs (a, n) ?_
  rw [List.mk_mem_zipIdx_iff_le_and_getElem?_sub]
  exact ⟨begun, by simpa using held⟩

/-! ## Characters as bits -/

/-- One bit for each of the values, the lowest for the first, set if the value satisfies `p`. -/
def flags (p : α → Bool) : List α → Nat
  | [] => 0
  | a :: as => (p a).toNat + 2 * flags p as

theorem testBit_flags (p : α → Bool) (as : List α) (i : Nat) :
    (flags p as).testBit i = as[i]?.any p := by
  induction as generalizing i with
  | nil => simp [flags]
  | cons a as ih =>
    cases i with
    | zero => cases h : p a <;> simp [flags, Nat.testBit_zero, h]
    | succ i =>
      have half : ((p a).toNat + 2 * flags p as) / 2 = flags p as := by
        have bit := Bool.toNat_lt (p a)
        omega
      rw [flags, Nat.testBit_succ, half, ih, List.getElem?_cons_succ]

/-- One bit for each code point, set if its value satisfies `p`. -/
def bits (p : α → Bool) : CharTable α → Nat
  | [] => 0
  | s :: rest => flags p s.values.toList <<< s.first ||| bits p rest

theorem testBit_bits_iff {p : α → Bool} :
    (t.bits p).testBit n ↔ ∃ s ∈ t, s.first ≤ n ∧ s.values[n - s.first]?.any p := by
  induction t with
  | nil => simp [bits]
  | cons s rest ih => simp [bits, Nat.testBit_shiftLeft, testBit_flags, ih]

/-- The bits say what looking up says. -/
theorem testBit_bits {p : α → Bool} (ascending : t.Ascending) :
    (t.bits p).testBit n = (t.find? n).any p := by
  rw [Bool.eq_iff_iff, testBit_bits_iff, Option.any_eq_true]
  constructor
  · rintro ⟨s, hs, begun, held⟩
    obtain ⟨a, held, ha⟩ := (Option.any_eq_true ..).1 held
    exact ⟨a, ascending.find?_eq_some hs begun held, ha⟩
  · rintro ⟨a, found, ha⟩
    obtain ⟨s, hs, begun, held⟩ := exists_of_find? found
    exact ⟨s, hs, begun, (Option.any_eq_true ..).2 ⟨a, held, ha⟩⟩

end CharTable

/-! ## Replacements -/

namespace CharTable

variable {t : CharTable (List Nat)} {c d : CodePoint}

/-- The code points of the characters that a table replaces. -/
def replaced (t : CharTable (List Nat)) : Nat := t.bits (! ·.isEmpty)

/-- A table replaces a character in one go: it neither replaces what it puts in the place of a
character nor puts a NUL there. -/
structure Complete (t : CharTable (List Nat)) : Prop where
  ascending : t.Ascending
  final : t.Forall fun _ image => ∀ m ∈ image, t.replaced.testBit (CodePoint.ofNat m).val = false
  nonzero : t.Forall fun _ image => 0 ∉ image

/-- A character stays, or is replaced by what the table has for it. -/
theorem replace_cases (t : CharTable (List Nat)) (c : CodePoint) :
    t.replace c = [c] ∧ (t.find? c.val).any (! ·.isEmpty) = false ∨
    ∃ image, t.find? c.val = some image ∧ image ≠ [] ∧
      t.replace c = image.map CodePoint.ofNat := by
  unfold replace
  cases h : t.find? c.val with
  | none => exact .inl ⟨rfl, rfl⟩
  | some image =>
    cases image with
    | nil => exact .inl ⟨rfl, rfl⟩
    | cons m image => exact .inr ⟨m :: image, rfl, List.cons_ne_nil m image, rfl⟩

/-- What stands in the place of a character is that character, or an entry has it. -/
theorem exists_of_mem_replace (h : d ∈ t.replace c) :
    t.replace c = [c] ∧ d = c ∨
      ∃ image m, t.find? c.val = some image ∧ m ∈ image ∧ d = CodePoint.ofNat m := by
  rcases replace_cases t c with ⟨stays, -⟩ | ⟨image, found, -, image_eq⟩
  · exact .inl ⟨stays, List.mem_singleton.1 (stays ▸ h)⟩
  · obtain ⟨m, hm, rfl⟩ := List.mem_map.1 (image_eq ▸ h)
    exact .inr ⟨image, m, found, hm, rfl⟩

/-- The bits tell which characters stay. -/
theorem Complete.replace_eq_self_iff (complete : t.Complete) :
    t.replace c = [c] ↔ t.replaced.testBit c.val = false := by
  rw [replaced, testBit_bits complete.ascending]
  rcases replace_cases t c with ⟨stays, unlisted⟩ | ⟨image, found, nonempty, image_eq⟩
  · exact iff_of_true stays unlisted
  · refine iff_of_false (fun stays => ?_) (by simpa [found] using nonempty)
    -- An image that holds its own character would hold a replaced one.
    have own : c ∈ image.map CodePoint.ofNat := by
      rw [← image_eq, stays]
      exact List.mem_singleton.2 rfl
    obtain ⟨m, hm, same⟩ := List.mem_map.1 own
    have final := complete.final.of_find? found m hm
    rw [same, replaced, testBit_bits complete.ascending, found] at final
    simp [nonempty] at final

/-- What was put in the place of a character stays. -/
theorem Complete.replace_of_mem (complete : t.Complete) (h : d ∈ t.replace c) :
    t.replace d = [d] := by
  rcases exists_of_mem_replace h with ⟨stays, rfl⟩ | ⟨image, m, found, hm, rfl⟩
  · exact stays
  · exact complete.replace_eq_self_iff.2 (complete.final.of_find? found m hm)

theorem eq_zero_of_ofNat_eq_nul {m : Nat} (h : CodePoint.ofNat m = '\x00') : m = 0 := by
  have h := congrArg CodePoint.val h
  unfold CodePoint.ofNat at h
  split at h
  · exact h
  · cases h

/-- A NUL comes from a NUL. -/
theorem Complete.nul_of_mem (complete : t.Complete) (h : ('\x00' : CodePoint) ∈ t.replace c) :
    c = '\x00' := by
  rcases exists_of_mem_replace h with ⟨-, same⟩ | ⟨image, m, found, hm, nul⟩
  · exact same.symm
  · exact absurd (eq_zero_of_ofNat_eq_nul nul.symm ▸ hm) (complete.nonzero.of_find? found)

end CharTable

end UsageTree.Text
