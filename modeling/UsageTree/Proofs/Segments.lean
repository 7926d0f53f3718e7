import Mathlib.Data.List.DropRight
import UsageTree.Path
import UsageTree.Proofs.Beginnings

/-!
# Paths as lists of segments

A path is read as the list of what stands between its slashes and backslashes, and a list of
segments is written as a path with one slash between two of them. Reading after writing gives the
segments back, so that a list of segments and the path written for it are the same thing.

## Main definitions

* `Path.segments` — the segments of a path.
* `Path.joined` — the path of a list of segments.
* `Path.IsSegment`, `Path.IsPiece` — what can stand between two separators, and between two slashes.

## Main statements

* `Path.segments_joined`, `Path.joined_injective` — writing loses nothing.
* `Path.pieces_clean` — cleaning a path does not change its segments.
* `Path.chain_eq`, `Path.chain_clean` — the chain of a path consists of the beginnings of its pieces,
  and that of a clean path of the beginnings of its segments.
-/

namespace UsageTree.Path

/-- Both kinds of slash stand between segments. -/
def isSeparator (c : CodePoint) : Bool := c = slash || c = '\\'

/-- The non-empty parts of a path between separators. -/
def segments (path : Text) : List Text := (path.splitOnP isSeparator).filter (· ≠ [])

/-- The path of a list of segments, with a slash between two of them. -/
def joined (ss : List Text) : Text := [slash].intercalate ss

/-- A text that can stand between two separators. -/
def IsSegment (s : Text) : Prop := s ≠ [] ∧ ∀ c ∈ s, isSeparator c = false

/-- A text that can stand between two slashes. -/
def IsPiece (s : Text) : Prop := s ≠ [] ∧ slash ∉ s

/-! ## Reading -/

theorem forall_mem_splitOnP {p : CodePoint → Bool} {cs s : Text} (h : s ∈ cs.splitOnP p) :
    ∀ c ∈ s, p c = false := by
  induction cs generalizing s with
  | nil => simp_all
  | cons d cs ih =>
    rw [List.splitOnP_cons_eq_if_modifyHead] at h
    obtain ⟨r, rs, hr⟩ := List.exists_cons_of_ne_nil (List.splitOnP_ne_nil p cs)
    rw [hr] at h ih
    split at h
    · rcases List.mem_cons.1 h with rfl | h
      · simp
      · exact ih h
    · rename_i hd
      rcases List.mem_cons.1 (by simpa using h) with rfl | h
      · intro c hc
        rcases List.mem_cons.1 hc with rfl | hc
        · simpa using hd
        · exact ih (by simp) c hc
      · exact ih (by simp [h])

/-- What is read between separators is a segment. -/
theorem isSegment_of_mem {path s : Text} (h : s ∈ segments path) : IsSegment s := by
  obtain ⟨hs, hne⟩ := List.mem_filter.1 h
  exact ⟨by simpa using hne, forall_mem_splitOnP hs⟩

theorem isSegment_of_isPrefix {path : Text} {p : List Text} (h : p <+: segments path) :
    ∀ s ∈ p, IsSegment s := fun _ hs => isSegment_of_mem (h.subset hs)

theorem IsSegment.slash_notMem {s : Text} (h : IsSegment s) : slash ∉ s := by
  intro hs
  have := h.2 slash hs
  simp [isSeparator] at this

theorem IsSegment.backslash_notMem {s : Text} (h : IsSegment s) : ('\\' : CodePoint) ∉ s := by
  intro hs
  have := h.2 _ hs
  simp [isSeparator] at this

theorem IsSegment.isPiece {s : Text} (h : IsSegment s) : IsPiece s := ⟨h.1, h.slash_notMem⟩

theorem isPiece_of_mem {path s : Text} (h : s ∈ pieces path) : IsPiece s := by
  obtain ⟨hs, hne⟩ := List.mem_filter.1 h
  exact ⟨by simpa using hne, Text.not_mem_of_mem_cut hs⟩

theorem cut_eq_splitOnP (cs : Text) : Text.cut slash cs = cs.splitOnP (· == slash) := by
  induction cs with
  | nil => rfl
  | cons c cs ih =>
    rw [List.splitOnP_cons_eq_if_modifyHead, ← ih]
    by_cases h : c = slash
    · subst h; simp
    · simp [Text.cut_cons_of_ne h, h]

/-- Once backslashes are slashes, cutting at slashes is cutting at separators. -/
theorem splitOnP_map_toSlash (path : Text) :
    (path.map toSlash).splitOnP (· == slash) = path.splitOnP isSeparator := by
  induction path with
  | nil => rfl
  | cons c path ih =>
    have same : (toSlash c == slash) = isSeparator c := by
      by_cases h : c = '\\'
      · simp [toSlash, isSeparator, h]
      · simp [toSlash, isSeparator, h, beq_eq_decide]
    rw [List.map_cons, List.splitOnP_cons_eq_if_modifyHead, List.splitOnP_cons_eq_if_modifyHead,
      ih, same]
    by_cases h : isSeparator c
    · simp [h]
    · have kept : toSlash c = c := by
        have : c ≠ '\\' := by rintro rfl; simp [isSeparator] at h
        simp [toSlash, this]
      simp [h, kept]

/-! ## Cleaning -/

theorem pieces_slash_cons (cs : Text) : pieces (slash :: cs) = pieces cs := by
  simp [pieces]

theorem pieces_append_slash (cs : Text) : pieces (cs ++ [slash]) = pieces cs := by
  simp [pieces, Text.cut_append_cons]

theorem pieces_dropWhile (cs : Text) : pieces (cs.dropWhile (· == slash)) = pieces cs := by
  induction cs with
  | nil => rfl
  | cons c cs ih =>
    by_cases h : c = slash
    · subst h; simp [ih, pieces_slash_cons]
    · simp [h]

theorem pieces_rdropWhile (cs : Text) : pieces (cs.rdropWhile (· == slash)) = pieces cs := by
  induction cs using List.reverseRecOn with
  | nil => rfl
  | append_singleton cs c ih =>
    by_cases h : c = slash
    · subst h; simp [ih, pieces_append_slash]
    · simp [h]

/-- Slashes at the ends stand beside empty pieces only. -/
theorem pieces_trim (cs : Text) : pieces (Text.trim (· == slash) cs) = pieces cs := by
  change pieces ((cs.dropWhile (· == slash)).rdropWhile (· == slash)) = pieces cs
  rw [pieces_rdropWhile, pieces_dropWhile]

/-- Cleaning keeps the segments. -/
theorem pieces_clean (path : Text) : pieces (clean path) = segments path := by
  rw [clean, pieces_trim, pieces, cut_eq_splitOnP, splitOnP_map_toSlash, segments]

/-! ## Writing -/

@[simp] theorem joined_nil : joined [] = [] := rfl

@[simp] theorem joined_singleton (s : Text) : joined [s] = s := by simp [joined]

theorem joined_cons {s : Text} {ss : List Text} (h : ss ≠ []) :
    joined (s :: ss) = s ++ slash :: joined ss := by
  obtain ⟨t, ts, rfl⟩ := List.exists_cons_of_ne_nil h
  simp [joined, List.intercalate]

/-- Segments that hold no separator of a class are read back by cutting at that class. -/
theorem splitOnP_joined {p : CodePoint → Bool} (hp : p slash) {ss : List Text} (hne : ss ≠ [])
    (h : ∀ s ∈ ss, ∀ c ∈ s, p c = false) : (joined ss).splitOnP p = ss := by
  induction ss with
  | nil => exact absurd rfl hne
  | cons s ss ih =>
    have hs := h s (by simp)
    by_cases hss : ss = []
    · subst hss; simp [List.splitOnP_eq_singleton hs]
    · rw [joined_cons hss, List.splitOnP_append_cons_of_forall_mem hs slash hp,
        ih hss fun t ht => h t (by simp [ht])]

/-- The segments of a path that was written for them. -/
theorem segments_joined {ss : List Text} (h : ∀ s ∈ ss, IsSegment s) :
    segments (joined ss) = ss := by
  by_cases hss : ss = []
  · subst hss; simp [segments]
  · rw [segments, splitOnP_joined (by simp [isSeparator]) hss fun s hs => (h s hs).2]
    exact List.filter_eq_self.2 fun s hs => by simpa using (h s hs).1

theorem joined_injective {ss ts : List Text} (hs : ∀ s ∈ ss, IsSegment s)
    (ht : ∀ t ∈ ts, IsSegment t) (h : joined ss = joined ts) : ss = ts := by
  rw [← segments_joined hs, ← segments_joined ht, h]

theorem joined_eq_nil {ss : List Text} (h : ∀ s ∈ ss, s ≠ []) : joined ss = [] ↔ ss = [] := by
  cases ss with
  | nil => simp
  | cons s ss =>
    have first := h s (by simp)
    by_cases hss : ss = []
    · subst hss; simp [first]
    · simp [joined_cons hss]

/-- One segment more is one step down. -/
theorem joined_concat {ss : List Text} (h : ∀ s ∈ ss, s ≠ []) (s : Text) :
    joined (ss ++ [s]) = extend (joined ss) s := by
  induction ss with
  | nil => simp
  | cons t ss ih =>
    have ht : t ≠ [] := h t (by simp)
    have hss : ∀ s ∈ ss, s ≠ [] := fun s hs => h s (by simp [hs])
    rw [List.cons_append, joined_cons (by simp), ih hss]
    by_cases hnil : ss = []
    · subst hnil; simp [extend, ht]
    · have below : joined ss ≠ [] := fun hj => hnil ((joined_eq_nil hss).1 hj)
      simp [joined_cons hnil, extend, below]

/-- The pieces of a path that was written for them. -/
theorem pieces_joined {ss : List Text} (h : ∀ s ∈ ss, IsPiece s) : pieces (joined ss) = ss := by
  by_cases hss : ss = []
  · subst hss; simp [pieces]
  · have apart : ∀ s ∈ ss, ∀ c ∈ s, (c == slash) = false := by
      intro s hs c hc
      have : c ≠ slash := fun e => (h s hs).2 (e ▸ hc)
      simpa using this
    rw [pieces, cut_eq_splitOnP, splitOnP_joined (by simp) hss apart]
    exact List.filter_eq_self.2 fun s hs => by simpa using (h s hs).1

/-! ## Chains -/

/-- The way down from a path along more pieces meets the paths of their beginnings. The induction
moves one piece from the way ahead to the path already walked. -/
theorem descend_joined {ss ts : List Text} (h : ∀ s ∈ ss ++ ts, s ≠ []) :
    descend (joined ss) ts = ts.inits.tail.map fun p => joined (ss ++ p) := by
  induction ts generalizing ss with
  | nil => rfl
  | cons t ts ih =>
    have walked : ∀ s ∈ ss, s ≠ [] := fun s hs => h s (by simp [hs])
    have ahead : ∀ s ∈ (ss ++ [t]) ++ ts, s ≠ [] := fun s hs => h s (by simpa using hs)
    rw [descend_cons, ← joined_concat walked, ih ahead, List.inits_cons, List.tail_cons,
      Beginnings.inits_eq_cons]
    simp [Function.comp_def]

/-- The chain of a path consists of the beginnings of its pieces. -/
theorem chain_eq (path : Text) : chain path = (pieces path).inits.map joined := by
  have down : descend (joined []) (pieces path) = (pieces path).inits.tail.map joined :=
    descend_joined fun s hs => (isPiece_of_mem (by simpa using hs)).1
  rw [chain, Beginnings.inits_eq_cons, List.map_cons]
  exact congrArg _ down

/-- The chain of a clean path consists of the beginnings of its segments. -/
theorem chain_clean (path : Text) : chain (clean path) = (segments path).inits.map joined := by
  rw [chain_eq, pieces_clean]

/-- The last piece is the name under which a path is shown. -/
theorem label_joined_concat {ss : List Text} {s : Text} (h : ∀ t ∈ ss ++ [s], IsPiece t) :
    label (joined (ss ++ [s])) = s := by
  simp [label, pieces_joined h]

end UsageTree.Path
