import Mathlib.Data.List.Induction
import UsageTree.LastChange

/-!
# The latest of several times

Times that are taken in one after the other leave the greatest text behind. Only where all of them
are unset or empty does the order matter: then the last one stays, and an empty text, which is the
greatest there is, may be given up for a time that is unset.

## Main definitions

* `LastChange.IsGreatest` — a text is the greatest of the times that say something.
* `LastChange.IsLatest` — what is left of a list of times.
* `LastChange.IsMaximum` — the greatest text, also if it is empty.
* `LastChange.Displaced` — an empty text is given up for a time that is unset.

## Main statements

* `LastChange.isLatest_foldl` — taking times in one by one leaves the latest.
* `LastChange.IsLatest.isMaximum_iff` — when the latest is the greatest text.
* `LastChange.IsLatest.eq_iff_of_perm` — when two orders have the same latest.
* `LastChange.foldl_latest_perm` — their order does not matter where none is empty.
-/

namespace UsageTree.LastChange

/-- `t` is not empty, is one of the times, and no time comes after it. -/
structure IsGreatest (ts : List LastChange) (t : Text) : Prop where
  ne_nil : t ≠ []
  mem : some t ∈ ts
  le : ∀ s, some s ∈ ts → Text.le s t

/-- `l` is the greatest of the times that are neither unset nor empty, or the last of all times if
there are no such times. -/
def IsLatest (ts : List LastChange) (l : LastChange) : Prop :=
  (∃ t, l = some t ∧ IsGreatest ts t) ∨
    (∀ t, some t ∈ ts → t = []) ∧ ts.getLast? = some l

theorem latest_of_blank {l : LastChange} (h : ∀ t, l = some t → t = []) (c : LastChange) :
    latest l c = c := by
  cases l with
  | none => rfl
  | some t => rw [h t rfl, latest_empty_left]

theorem IsGreatest.concat {ts : List LastChange} {t : Text} (h : IsGreatest ts t) {c : LastChange}
    (hc : ∀ s, c = some s → Text.le s t) : IsGreatest (ts ++ [c]) t where
  ne_nil := h.ne_nil
  mem := by simp [h.mem]
  le s hs := by
    rcases List.mem_append.1 hs with hs | hs
    · exact h.le s hs
    · exact hc s (List.mem_singleton.1 hs).symm

/-- After times that say nothing, the next one stays whatever it is. -/
theorem isLatest_concat_of_blank {ts : List LastChange} (blank : ∀ t, some t ∈ ts → t = [])
    (c : LastChange) : IsLatest (ts ++ [c]) c := by
  by_cases hc : ∃ s, c = some s ∧ s ≠ []
  · obtain ⟨s, rfl, hs⟩ := hc
    refine .inl ⟨s, rfl, hs, by simp, fun r hr => ?_⟩
    rcases List.mem_append.1 hr with hr | hr
    · simp [blank r hr]
    · cases List.mem_singleton.1 hr
      exact Text.le_refl _
  · refine .inr ⟨fun t ht => ?_, by simp⟩
    rcases List.mem_append.1 ht with ht | ht
    · exact blank t ht
    · by_contra hne
      exact hc ⟨t, (List.mem_singleton.1 ht).symm, hne⟩

/-- What is left of some times, taken together with one time more. -/
theorem IsLatest.concat {ts : List LastChange} {l : LastChange} (h : IsLatest ts l)
    (c : LastChange) : IsLatest (ts ++ [c]) (latest l c) := by
  rcases h with ⟨t, rfl, h⟩ | ⟨blank, last⟩
  · left
    cases c with
    | none => exact ⟨t, latest_none_right h.ne_nil, h.concat (by simp)⟩
    | some s =>
      by_cases hs : s = []
      · subst hs
        exact ⟨t, latest_empty_right h.ne_nil, h.concat (by simp)⟩
      · by_cases hst : Text.le s t
        · refine ⟨t, by simp [latest_some h.ne_nil hs, hst], h.concat ?_⟩
          rintro _ ⟨⟩
          exact hst
        · have hts : Text.le t s := by simpa [hst] using Text.le_total s t
          refine ⟨s, by simp [latest_some h.ne_nil hs, hst], hs, by simp, fun r hr => ?_⟩
          rcases List.mem_append.1 hr with hr | hr
          · exact Text.le_trans (h.le r hr) hts
          · cases List.mem_singleton.1 hr
            exact Text.le_refl _
  · have hl : ∀ t, l = some t → t = [] := fun t ht =>
      blank t (ht ▸ List.mem_of_getLast? last)
    rw [latest_of_blank hl]
    exact isLatest_concat_of_blank blank c

/-- Times taken in from left to right leave the latest of them. -/
theorem isLatest_foldl {ts : List LastChange} (h : ts ≠ []) : IsLatest ts (ts.foldl latest none) := by
  induction ts using List.reverseRecOn with
  | nil => exact absurd rfl h
  | append_singleton ts c ih =>
    rw [List.foldl_append, List.foldl_cons, List.foldl_nil]
    by_cases hts : ts = []
    · subst hts
      exact isLatest_concat_of_blank (by simp) c
    · exact (ih hts).concat c

/-! ## What is left -/

/-- What is left is one of the times. -/
theorem IsLatest.mem {ts : List LastChange} {l : LastChange} (h : IsLatest ts l) : l ∈ ts := by
  rcases h with ⟨t, rfl, h⟩ | ⟨-, last⟩
  · exact h.mem
  · exact List.mem_of_getLast? last

/-- Where some time says something, the greatest is left. -/
theorem IsLatest.exists_greatest {ts : List LastChange} {l : LastChange} (h : IsLatest ts l)
    {s : Text} (hs : s ≠ []) (mem : some s ∈ ts) : ∃ t, l = some t ∧ IsGreatest ts t := by
  rcases h with h | ⟨blank, -⟩
  · exact h
  · exact absurd (blank s mem) hs

/-- Times that are chosen from others and overtake all of them have the same greatest. -/
theorem IsGreatest.of_dominates {ts rs : List LastChange} {t : Text} (h : IsGreatest ts t)
    (chosen : ∀ r, some r ∈ rs → some r ∈ ts)
    (dominates : ∀ s, s ≠ [] → some s ∈ ts → ∃ r, some r ∈ rs ∧ Text.le s r) : IsGreatest rs t where
  ne_nil := h.ne_nil
  mem := by
    obtain ⟨r, hr, htr⟩ := dominates t h.ne_nil h.mem
    have hrt := h.le r (chosen r hr)
    rwa [Text.le_antisymm htr hrt]
  le r hr := h.le r (chosen r hr)

/-! ## The greatest text -/

/-- The greatest text among some times, or unset if there is no text among them. -/
structure IsMaximum (ts : List LastChange) (l : LastChange) : Prop where
  mem : ∀ m, l = some m → some m ∈ ts
  le : ∀ t, some t ∈ ts → ∃ m, l = some m ∧ Text.le t m

/-- There is an empty text among the times and no other one, and the last time is unset. -/
structure Displaced (ts : List LastChange) : Prop where
  empty : some [] ∈ ts
  blank : ∀ t, some t ∈ ts → t = []
  last : ts.getLast? = some none

variable {ts rs : List LastChange} {l m : LastChange}

theorem IsMaximum.congr (h : IsMaximum ts l) (same : ∀ t, t ∈ ts ↔ t ∈ rs) : IsMaximum rs l where
  mem m hm := (same _).1 (h.mem m hm)
  le t ht := h.le t ((same _).2 ht)

theorem IsMaximum.unique (hl : IsMaximum ts l) (hm : IsMaximum ts m) : l = m := by
  cases l with
  | none =>
    cases m with
    | none => rfl
    | some t =>
      obtain ⟨_, ⟨⟩, -⟩ := hl.le t (hm.mem t rfl)
  | some s =>
    obtain ⟨t, rfl, hst⟩ := hm.le s (hl.mem s rfl)
    obtain ⟨_, ⟨⟩, hts⟩ := hl.le t (hm.mem t rfl)
    rw [Text.le_antisymm hst hts]

/-- What is left of some times is the greatest text, unless an empty one was given up. -/
theorem IsLatest.isMaximum_iff (h : IsLatest ts l) : IsMaximum ts l ↔ ¬ Displaced ts := by
  rcases h with ⟨t, rfl, greatest⟩ | ⟨blank, last⟩
  · refine iff_of_true ⟨?_, fun s hs => ⟨t, rfl, greatest.le s hs⟩⟩ fun displaced => ?_
    · rintro _ ⟨⟩
      exact greatest.mem
    · exact greatest.ne_nil (displaced.blank t greatest.mem)
  · cases l with
    | some t =>
      have mem : some t ∈ ts := List.mem_of_getLast? last
      refine iff_of_true ⟨?_, fun s hs => ⟨t, rfl, ?_⟩⟩ fun displaced => ?_
      · rintro _ ⟨⟩
        exact mem
      · rw [blank s hs, blank t mem]
        exact Text.le_refl []
      · cases last.symm.trans displaced.last
    | none =>
      constructor
      · intro maximum displaced
        obtain ⟨_, ⟨⟩, -⟩ := maximum.le [] displaced.empty
      · intro kept
        refine ⟨nofun, fun t ht => absurd ⟨?_, blank, last⟩ kept⟩
        exact blank t ht ▸ ht

theorem IsLatest.eq_none (h : IsLatest ts l) (displaced : Displaced ts) : l = none := by
  rcases h with ⟨t, -, greatest⟩ | ⟨-, last⟩
  · exact absurd (displaced.blank t greatest.mem) greatest.ne_nil
  · exact Option.some.inj (last.symm.trans displaced.last)

/-! ## Times in another order -/

/-- The same times in another order leave the same, unless an empty text was given up in one order
and not in the other. -/
theorem IsLatest.eq_iff_of_perm (hl : IsLatest ts l) (hm : IsLatest rs m) (perm : ts.Perm rs) :
    l = m ↔ (Displaced ts ↔ Displaced rs) := by
  have kept {us vs : List LastChange} {k : LastChange} (perm : us.Perm vs) (left : Displaced us)
      (maximum : IsMaximum vs k) : k ≠ none := by
    obtain ⟨t, rfl, -⟩ := maximum.le [] (perm.mem_iff.1 left.empty)
    exact nofun
  by_cases first : Displaced ts <;> by_cases second : Displaced rs
  · exact iff_of_true ((hl.eq_none first).trans (hm.eq_none second).symm) (iff_of_true first second)
  · have apart := kept perm first (hm.isMaximum_iff.2 second)
    exact iff_of_false (fun same => apart (same ▸ hl.eq_none first)) fun h => second (h.1 first)
  · have apart := kept perm.symm second (hl.isMaximum_iff.2 first)
    exact iff_of_false (fun same => apart (same ▸ hm.eq_none second)) fun h => first (h.2 second)
  · have maximum := (hl.isMaximum_iff.2 first).congr fun t => perm.mem_iff
    exact iff_of_true (maximum.unique (hm.isMaximum_iff.2 second)) (iff_of_false first second)

/-- Taking in times in another order leaves the same, if none of them is empty. -/
theorem foldl_latest_perm {ts rs : List LastChange} (perm : ts.Perm rs)
    (filled : ∀ t ∈ ts, t ≠ some []) : ts.foldl latest none = rs.foldl latest none := by
  by_cases hts : ts = []
  · subst hts
    rw [perm.nil_eq]
  · have hrs : rs ≠ [] := fun e => hts (List.perm_nil.1 (e ▸ perm))
    have kept {us : List LastChange} (filled : some [] ∉ us) : ¬ Displaced us :=
      fun displaced => filled displaced.empty
    refine ((isLatest_foldl hts).eq_iff_of_perm (isLatest_foldl hrs) perm).2 ?_
    have first : some [] ∉ ts := fun mem => filled _ mem rfl
    exact iff_of_false (kept first) (kept fun mem => first (perm.mem_iff.2 mem))

end UsageTree.LastChange
