import UsageTree.Entry
import UsageTree.Proofs.Attempt
import UsageTree.Proofs.TallyForm

/-!
# The entries below a path, from the list of files

One level of entries needs of a tally only what the files say: the segments that follow the path,
and the summaries of the files below them. The number of levels that is allowed for is never
exceeded.

## Main definitions

* `Usage.arranged` — the segments that follow a path, the one with the largest total first.
* `Usage.Within` — so many levels suffice.
* `Entry.assemble` — an entry, put together from its summary and what lies below it.

## Main statements

* `Entry.levels_succ` — one level in terms of the files.
* `Usage.within_keys` — enough levels are allowed for.
-/

namespace UsageTree

open UsageTree.Path UsageTree.Usage

namespace Usage

/-- The summary of the files at or below the path one segment below `p`. -/
def below (us : List Usage) (p : List Text) (s : Text) : Summary :=
  Summary.of (reaching us (p ++ [s]))

/-- The segments that follow `p`, the one with the largest total first. -/
def arranged (us : List Usage) (p : List Text) : List Text :=
  (heads us p).insertionSort fun s t => (below us p t).size ≤ (below us p s).size

theorem mem_arranged {us : List Usage} {p : List Text} {s : Text} :
    s ∈ arranged us p ↔ s ∈ heads us p := List.mem_insertionSort _

theorem perm_arranged (us : List Usage) (p : List Text) : (arranged us p).Perm (heads us p) :=
  List.perm_insertionSort _ _

/-- A way down to a file has no more steps than there are paths with something below them. -/
theorem length_segments_le {us : List Usage} {u : Usage} (hu : u ∈ us) :
    u.segments.length ≤ (Tally.ofUsages us).children.keys.length := by
  by_cases hnil : u.segments = []
  · simp [hnil]
  · have shorter : ∀ p, p <+: u.segments.dropLast → p <+: u.segments ∧ p ≠ u.segments := by
      intro p hp
      refine ⟨hp.trans (List.dropLast_prefix _), fun whole => ?_⟩
      have fits := hp.length_le
      have := List.length_pos_iff.2 hnil
      rw [whole, List.length_dropLast] at fits
      omega
    have distinct : (u.segments.dropLast.inits.map joined).Nodup := by
      refine (Beginnings.nodup_inits _).map_on fun p hp q hq => ?_
      exact joined_injective (isSegment_of_isPrefix (shorter p ((List.mem_inits _ _).1 hp)).1)
        (isSegment_of_isPrefix (shorter q ((List.mem_inits _ _).1 hq)).1)
    have known : u.segments.dropLast.inits.map joined ⊆ (Tally.ofUsages us).children.keys := by
      intro q hq
      obtain ⟨p, hp, rfl⟩ := List.mem_map.1 hq
      exact Tally.mem_keys_children.2 ⟨p, rfl, u, hu, shorter p ((List.mem_inits _ _).1 hp)⟩
    have counted := (List.subperm_of_subset distinct known).length_le
    rw [List.length_map, List.length_inits, List.length_dropLast] at counted
    omega

/-- So many levels of entries suffice below `p`. -/
structure Within (us : List Usage) (p : List Text) (fuel : Nat) : Prop where
  pos : 0 < fuel
  lt : ∀ u ∈ reaching us p, u.segments.length < p.length + fuel

/-- As many levels as there are paths with something below them suffice below any path. -/
theorem within_keys (us : List Usage) (p : List Text) :
    Within us p ((Tally.ofUsages us).children.keys.length + 1) where
  pos := Nat.succ_pos _
  lt u hu := by
    have := length_segments_le (mem_reaching.1 hu).1
    omega

theorem within_root (us : List Usage) :
    Within us [] ((Tally.ofUsages us).children.keys.length + 1) := within_keys us []

/-- One step down takes one level. -/
theorem Within.step {us : List Usage} {p : List Text} {fuel : Nat} (h : Within us p (fuel + 1))
    {s : Text} (hs : s ∈ heads us p) : Within us (p ++ [s]) fuel where
  pos := by
    obtain ⟨u, hu, hps⟩ := mem_heads.1 hs
    have deep := hps.length_le
    have := h.lt u (mem_reaching.2 ⟨hu, (List.prefix_append p [s]).trans hps⟩)
    rw [List.length_append, List.length_singleton] at deep
    omega
  lt u hu := by
    obtain ⟨hu, hps⟩ := mem_reaching.1 hu
    have := h.lt u (mem_reaching.2 ⟨hu, (List.prefix_append p [s]).trans hps⟩)
    rw [List.length_append, List.length_singleton]
    omega

end Usage

namespace Entry

/-- The only thing that keeps a share from being known. -/
theorem share_eq_error {size total : Int} {e : Fault} (h : share size total = .error e) :
    e = .ratioOverflow := by
  unfold share at h
  split at h
  · cases h
  · dsimp only at h
    split at h
    · cases h
    · cases h
      rfl

/-- The entry of a path that is summed up by `sum`, with what lies below it. -/
def assemble (path name : Text) (sum : Summary) (total : Int)
    (below : Except Fault (List Entry)) : Except Fault Entry := do
  let percent ← share sum.size total
  let children ← below
  return ⟨path, name, sum.size, sum.itemCount, sum.lastChanged, percent, children⟩

section

variable {path name : Text} {sum : Summary} {total : Int} {below : Except Fault (List Entry)}

theorem assemble_eq_ok {e : Entry} (h : assemble path name sum total below = .ok e) :
    e.path = path ∧ e.name = name ∧ ⟨e.size, e.itemCount, e.lastChanged⟩ = sum ∧
      below = .ok e.children := by
  obtain ⟨percent, -, h⟩ := Attempt.bind_eq_ok.1 h
  obtain ⟨children, hchildren, h⟩ := Attempt.bind_eq_ok.1 h
  cases h
  exact ⟨rfl, rfl, rfl, hchildren⟩

theorem assemble_eq_error {f : Fault} (h : assemble path name sum total below = .error f) :
    f = .ratioOverflow ∨ below = .error f := by
  rcases Attempt.bind_eq_error.1 h with h | ⟨percent, -, h⟩
  · exact .inl (share_eq_error h)
  · rcases Attempt.bind_eq_error.1 h with h | ⟨children, -, h⟩
    · exact .inr h
    · cases h

end

/-- The entry one segment below `p`, made with some levels more. -/
def grow (us : List Usage) (p : List Text) (fuel : Nat) (total : Int) (s : Text) :
    Except Fault Entry :=
  assemble (joined (p ++ [s])) s (below us p s) total
    (levels (Tally.ofUsages us) fuel (joined (p ++ [s])) (below us p s).size)

/-- Every path directly below a path has a summary. -/
theorem mapM_measured (us : List Usage) {p : List Text} (hp : ∀ s ∈ p, IsSegment s) :
    ((Tally.ofUsages us).childrenOf (joined p)).mapM (measured (Tally.ofUsages us)) =
      .ok ((heads us p).map fun s => (joined (p ++ [s]), below us p s)) := by
  rw [Tally.childrenOf_joined us hp, List.mapM_map, ← Attempt.mapM_ok]
  apply Attempt.mapM_congr
  intro s hs
  rw [Function.comp_apply, measured,
    Tally.summary?_joined us (isSegment_of_mem_heads hs), if_neg (reaching_ne_nil hs), below]

/-- The paths directly below a path, the one with the largest total first. -/
theorem bySize_heads (us : List Usage) (p : List Text) :
    bySize ((heads us p).map fun s => (joined (p ++ [s]), below us p s)) =
      (arranged us p).map fun s => (joined (p ++ [s]), below us p s) := by
  rw [bySize, Sorting.sort_eq_insertionSort, arranged]
  exact (List.map_insertionSort (fun s t => (below us p t).size ≤ (below us p s).size)
    (fun a b : Text × Summary => b.2.size ≤ a.2.size) _ _ fun s _ t _ => Iff.rfl).symm

/-- One level of entries. -/
theorem levels_succ (us : List Usage) {p : List Text} (hp : ∀ s ∈ p, IsSegment s) (fuel : Nat)
    (total : Int) :
    levels (Tally.ofUsages us) (fuel + 1) (joined p) total =
      (arranged us p).mapM (grow us p fuel total) := by
  rw [levels, mapM_measured us hp, Attempt.ok_bind, bySize_heads, List.mapM_map]
  apply Attempt.mapM_congr
  intro s hs
  have label : Path.label (joined (p ++ [s])) = s :=
    label_joined_concat fun t ht => (isSegment_of_mem_heads (mem_arranged.1 hs) t ht).isPiece
  simp only [Function.comp_apply, grow, assemble, label]

/-- Where the levels suffice, entries can only fail for want of a finite ratio. -/
theorem levels_eq_error {us : List Usage} {p : List Text} (hp : ∀ s ∈ p, IsSegment s) {fuel : Nat}
    (enough : Within us p fuel) {total : Int} {f : Fault}
    (h : levels (Tally.ofUsages us) fuel (joined p) total = .error f) : f = .ratioOverflow := by
  induction fuel generalizing p total with
  | zero => exact absurd enough.pos (Nat.lt_irrefl 0)
  | succ fuel ih =>
    rw [levels_succ us hp] at h
    obtain ⟨s, hs, h⟩ := Attempt.exists_of_mapM_eq_error h
    have hs := mem_arranged.1 hs
    rcases assemble_eq_error h with h | h
    · exact h
    · exact ih (isSegment_of_mem_heads hs) (enough.step hs) h

end Entry

end UsageTree
