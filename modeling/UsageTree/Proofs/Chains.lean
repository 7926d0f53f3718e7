import UsageTree.Proofs.Segments

/-!
# Chains of paths

A path is cut into pieces when its chain is made, and again when the name is taken under which it is
shown. Both cuts agree: on the way down a chain every path is the one before it with its own name
added, and the chain of any path that is met is the way that led to it. What is met on the way down
to a clean path is clean.

## Main definitions

* `Path.IsClean` — what is left of a path when it is cleaned.
* `Path.Chained` — what there is to know of the chain of a path.

## Main statements

* `Path.clean_eq_self` — cleaning leaves clean paths as they are.
* `Path.chain_getElem?` — the paths of a chain are written for the beginnings of the pieces.
* `Path.chained` — the chain of any path.
-/

namespace UsageTree

/-! ## Trimming -/

namespace Text

variable {p : CodePoint → Bool} {cs : Text}

theorem trim_eq_self (first : ∀ c ∈ cs.head?, p c = false)
    (last : ∀ c ∈ cs.getLast?, p c = false) : trim p cs = cs := by
  have front : cs.dropWhile p = cs := by
    cases cs with
    | nil => rfl
    | cons c cs => exact List.dropWhile_cons_of_neg (by simpa using first c rfl)
  have back : cs.rdropWhile p = cs := by
    rw [List.rdropWhile_eq_self_iff]
    intro nonempty
    simpa using last _ (List.getLast?_eq_some_getLast nonempty)
  change (cs.dropWhile p).rdropWhile p = cs
  rw [front, back]

theorem mem_of_mem_trim {c : CodePoint} (h : c ∈ trim p cs) : c ∈ cs :=
  (List.dropWhile_suffix p).subset ((List.rdropWhile_prefix p (cs.dropWhile p)).subset h)

theorem of_mem_head?_trim {c : CodePoint} (h : c ∈ (trim p cs).head?) : p c = false := by
  obtain ⟨rest, left⟩ := List.head?_eq_some_iff.1 h
  obtain ⟨dropped, split⟩ : trim p cs <+: cs.dropWhile p := List.rdropWhile_prefix p _
  have first := List.head?_dropWhile_not p cs
  rw [← split, left] at first
  exact first

theorem of_mem_getLast?_trim {c : CodePoint} (h : c ∈ (trim p cs).getLast?) : p c = false := by
  have nonempty : trim p cs ≠ [] := List.ne_nil_of_mem (List.mem_of_mem_getLast? h)
  have last : ¬ p ((trim p cs).getLast nonempty) :=
    List.rdropWhile_last_not p (cs.dropWhile p) nonempty
  rw [List.getLast?_eq_some_getLast nonempty] at h
  cases h
  simpa using last

end Text

namespace Path

/-! ## Cleaning -/

/-- A path without backslashes and without slashes at its ends. -/
structure IsClean (path : Text) : Prop where
  backslash_notMem : ('\\' : CodePoint) ∉ path
  first : ∀ c ∈ path.head?, c ≠ slash
  last : ∀ c ∈ path.getLast?, c ≠ slash

/-- Cleaning leaves clean paths as they are. -/
theorem clean_eq_self {path : Text} (h : IsClean path) : clean path = path := by
  have same : path.map toSlash = path := by
    conv_rhs => rw [← List.map_id path]
    apply List.map_congr_left
    intro c hc
    have : c ≠ '\\' := fun e => h.backslash_notMem (e ▸ hc)
    simp [toSlash, this]
  rw [clean, same]
  apply Text.trim_eq_self
  · intro c hc
    simpa using h.first c hc
  · intro c hc
    simpa using h.last c hc

theorem isClean_clean (path : Text) : IsClean (clean path) where
  backslash_notMem mem := by
    obtain ⟨c, -, hc⟩ := List.mem_map.1 (Text.mem_of_mem_trim mem)
    unfold toSlash at hc
    split at hc
    · exact absurd hc (by decide)
    · contradiction
  first c hc := by simpa using Text.of_mem_head?_trim hc
  last c hc := by simpa using Text.of_mem_getLast?_trim hc

/-- One segment more leaves a path clean. -/
theorem IsClean.extend {path s : Text} (h : IsClean path) (hs : IsSegment s) :
    IsClean (Path.extend path s) := by
  have apart : ∀ c ∈ s, c ≠ slash := fun c hc e => hs.slash_notMem (e ▸ hc)
  have first : ∀ c ∈ s.head?, c ≠ slash := fun c hc => apart c (List.mem_of_mem_head? hc)
  have last : ∀ c ∈ s.getLast?, c ≠ slash := fun c hc => apart c (List.mem_of_mem_getLast? hc)
  unfold Path.extend
  split
  · exact ⟨hs.backslash_notMem, first, last⟩
  · rename_i below
    refine ⟨?_, ?_, ?_⟩
    · have other : ('\\' : CodePoint) ≠ slash := by decide
      simp [h.backslash_notMem, hs.backslash_notMem, other]
    · rw [List.head?_append_of_ne_nil _ below]
      exact h.first
    · rw [List.getLast?_append_of_ne_nil _ (by simp), List.getLast?_cons_of_ne_nil hs.1]
      exact last

/-- A path that is written for segments is clean. -/
theorem isClean_joined {ss : List Text} (h : ∀ s ∈ ss, IsSegment s) : IsClean (joined ss) := by
  induction ss using List.reverseRecOn with
  | nil => exact ⟨by simp, by simp, by simp⟩
  | append_singleton ss s ih =>
    have nonempty : ∀ t ∈ ss, t ≠ [] := fun t ht => (h t (by simp [ht])).1
    rw [joined_concat nonempty]
    exact (ih fun t ht => h t (by simp [ht])).extend (h s (by simp))

/-- What is met on the way down to a clean path is clean. -/
theorem isClean_of_mem_chain {path q : Text} (h : q ∈ chain (clean path)) : IsClean q := by
  rw [chain_clean] at h
  obtain ⟨p, hp, rfl⟩ := List.mem_map.1 h
  exact isClean_joined (isSegment_of_isPrefix ((List.mem_inits _ _).1 hp))

/-! ## The way down -/

variable {path p q : Text} {k : Nat}

/-- The paths of a chain are written for the beginnings of the pieces. -/
theorem chain_getElem? : (chain path)[k]? = some q ↔
    k ≤ depth path ∧ q = joined ((pieces path).take k) := by
  rw [chain_eq, List.getElem?_map, Option.map_eq_some_iff]
  simp only [Beginnings.getElem?_inits, depth]
  grind

/-- The chain of a path that is met is the way that led to it. -/
theorem chain_of_getElem? (h : (chain path)[k]? = some q) :
    chain q = (chain path).take (k + 1) := by
  obtain ⟨-, rfl⟩ := chain_getElem?.1 h
  have cut : pieces (joined ((pieces path).take k)) = (pieces path).take k :=
    pieces_joined fun s hs => isPiece_of_mem (List.mem_of_mem_take hs)
  rw [chain_eq, cut, chain_eq, Beginnings.inits_take, List.map_take]

/-- One step down a chain adds the name of the path to which it leads. -/
theorem extend_of_getElem? (hp : (chain path)[k]? = some p)
    (hq : (chain path)[k + 1]? = some q) :
    IsPiece (label q) ∧ q = extend p (label q) ∧ (p = [] ↔ k = 0) := by
  obtain ⟨-, rfl⟩ := chain_getElem?.1 hp
  obtain ⟨deeper, rfl⟩ := chain_getElem?.1 hq
  have inside : k < (pieces path).length := deeper
  have next : (pieces path).take (k + 1) = (pieces path).take k ++ [(pieces path)[k]] :=
    List.take_succ_eq_append_getElem inside
  have walked : ∀ s ∈ (pieces path).take k ++ [(pieces path)[k]], IsPiece s := by
    intro s hs
    rw [← next] at hs
    exact isPiece_of_mem (List.mem_of_mem_take hs)
  have nonempty : ∀ s ∈ (pieces path).take k, s ≠ [] :=
    fun s hs => (walked s (List.mem_append_left _ hs)).1
  rw [next, label_joined_concat walked]
  refine ⟨walked _ List.mem_concat_self, joined_concat nonempty _, ?_⟩
  rw [joined_eq_nil nonempty, List.take_eq_nil_iff]
  have : pieces path ≠ [] := List.ne_nil_of_length_pos (by omega)
  simp [this]

theorem length_lt_extend {s : Text} (h : s ≠ []) : p.length < (extend p s).length := by
  have := List.length_pos_iff.2 h
  unfold extend
  split
  · simp_all
  · simp

/-- The name of a path is that of the last path of its chain. -/
theorem label_joined_pieces (path : Text) : label (joined (pieces path)) = label path := by
  rw [label, pieces_joined fun s => isPiece_of_mem, label]

/-- What there is to know of the chain of a path. -/
structure Chained (path : Text) : Prop where
  root : (chain path)[0]? = some []
  longer : (chain path).Pairwise fun p q => p.length < q.length
  nodup : (chain path).Nodup
  /-- The chain of a path that is met is the way that led to it. -/
  beginning : ∀ (k : Nat) (q : Text), (chain path)[k]? = some q → chain q = (chain path).take (k + 1)
  clean_clean : clean (clean path) = clean path
  clean_mem : ∀ q ∈ chain (clean path), clean q = q
  /-- Every path but the root is the one before it with its name added. -/
  step : ∀ (k : Nat) (p q : Text), (chain path)[k]? = some p → (chain path)[k + 1]? = some q →
    label q ≠ [] ∧ slash ∉ label q ∧ q = if k = 0 then label q else p ++ slash :: label q
  label_last : ∃ q, (chain path).getLast? = some q ∧ label path = label q

/-- The chain of any path, clean or not. -/
theorem chained (path : Text) : Chained path := by
  have longer : (chain path).Pairwise fun p q => p.length < q.length := by
    -- It is enough to compare neighbours.
    apply List.IsChain.pairwise
    rw [List.isChain_iff_getElem]
    intro k hk
    have here := List.getElem?_eq_getElem (l := chain path) (i := k) (by omega)
    obtain ⟨piece, step, -⟩ := extend_of_getElem? here (List.getElem?_eq_getElem hk)
    rw [step]
    exact length_lt_extend piece.1
  refine {
    root := rfl
    longer := longer
    nodup := longer.imp fun shorter same => ?_
    beginning := fun k q => chain_of_getElem?
    clean_clean := clean_eq_self (isClean_clean path)
    clean_mem := fun q hq => clean_eq_self (isClean_of_mem_chain hq)
    step := fun k p q hp hq => ?_
    label_last := ⟨joined (pieces path), ?_, (label_joined_pieces path).symm⟩ }
  · rw [same] at shorter
    omega
  · obtain ⟨piece, step, first⟩ := extend_of_getElem? hp hq
    refine ⟨piece.1, piece.2, ?_⟩
    simpa only [extend, first] using step
  · rw [chain_eq, List.getLast?_map, Beginnings.getLast?_inits]
    rfl

example : chain "a\\b//c/" = ["", "a\\b", "a\\b/c"] := by decide

end Path

end UsageTree
