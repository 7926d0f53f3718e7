import Mathlib.Algebra.Order.BigOperators.Group.List
import Mathlib.Algebra.Order.Ring.Int
import UsageTree.Proofs.Beginnings
import UsageTree.Proofs.FirstSeen
import UsageTree.Proofs.Segments
import UsageTree.Tally

/-!
# The files below a path

A path is given by its segments. The files at or below it are those whose segments begin with them.
Such a file is either at the path itself or below exactly one of the paths one segment longer, so
that the files below a path are divided among the paths directly below it.

## Main definitions

* `Usage.segments` — the segments of the path of a file.
* `Usage.reaching`, `Usage.exactly` — the files at or below a path, and those at the path itself.
* `Usage.heads` — the segments that follow a path, in order of first appearance.
* `Usage.firstAt` — the place of the first file at or below a path.

## Main statements

* `Usage.perm_reaching` — how the files below a path are divided.
-/

namespace UsageTree.Usage

/-- The segments of the path of a file. -/
def segments (u : Usage) : List Text := Path.segments u.path

/-- The files at or below the path with segments `p`, in order. -/
def reaching (us : List Usage) (p : List Text) : List Usage := us.filter fun u => p <+: u.segments

/-- The files at the path with segments `p`, in order. -/
def exactly (us : List Usage) (p : List Text) : List Usage := us.filter fun u => u.segments = p

/-- The segment after `p` on the way to a file. -/
def next? (p : List Text) (u : Usage) : Option Text := Beginnings.nextAfter p u.segments

/-- The segments that follow `p`, in order of first appearance. -/
def heads (us : List Usage) (p : List Text) : List Text := (us.filterMap (next? p)).eraseDups

/-- The place of the first file at or below the path with segments `p`. -/
def firstAt (us : List Usage) (p : List Text) : Nat := us.findIdx fun u => p <+: u.segments

/-! ## Segments that follow a path -/

theorem next?_eq_some {p : List Text} {u : Usage} {s : Text} :
    next? p u = some s ↔ p ++ [s] <+: u.segments := Beginnings.nextAfter_eq_some

theorem next?_eq_none {p : List Text} {u : Usage} (hp : p <+: u.segments) :
    next? p u = none ↔ u.segments = p := Beginnings.nextAfter_eq_none hp

theorem mem_heads {us : List Usage} {p : List Text} {s : Text} :
    s ∈ heads us p ↔ ∃ u ∈ us, p ++ [s] <+: u.segments := by
  simp [heads, next?_eq_some]

theorem nodup_heads (us : List Usage) (p : List Text) : (heads us p).Nodup :=
  FirstSeen.nodup_eraseDups _

theorem isSegment_of_mem_heads {us : List Usage} {p : List Text} {s : Text}
    (h : s ∈ heads us p) : ∀ t ∈ p ++ [s], Path.IsSegment t := by
  obtain ⟨u, -, hu⟩ := mem_heads.1 h
  exact Path.isSegment_of_isPrefix hu

/-! ## Files at or below a path -/

theorem mem_reaching {us : List Usage} {p : List Text} {u : Usage} :
    u ∈ reaching us p ↔ u ∈ us ∧ p <+: u.segments := by
  simp [reaching]

theorem mem_exactly {us : List Usage} {p : List Text} {u : Usage} :
    u ∈ exactly us p ↔ u ∈ us ∧ u.segments = p := by
  simp [exactly]

@[simp] theorem reaching_nil (us : List Usage) : reaching us [] = us := by
  simp [reaching]

theorem reaching_ne_nil {us : List Usage} {p : List Text} {s : Text} (h : s ∈ heads us p) :
    reaching us (p ++ [s]) ≠ [] := by
  obtain ⟨u, hu, hs⟩ := mem_heads.1 h
  exact List.ne_nil_of_mem (mem_reaching.2 ⟨hu, hs⟩)

theorem reaching_concat (us : List Usage) (p : List Text) (s : Text) :
    reaching us (p ++ [s]) = (reaching us p).filter fun u => next? p u = some s := by
  rw [reaching, reaching, List.filter_filter]
  apply List.filter_congr
  intro u _
  have : p ++ [s] <+: u.segments → p <+: u.segments := (List.prefix_append p [s]).trans
  simp only [next?_eq_some]
  grind

theorem exactly_eq_filter (us : List Usage) (p : List Text) :
    exactly us p = (reaching us p).filter fun u => next? p u = none := by
  rw [exactly, reaching, List.filter_filter]
  apply List.filter_congr
  intro u _
  by_cases hp : p <+: u.segments
  · simp [next?_eq_none hp, hp]
  · have : u.segments ≠ p := fun e => hp (e ▸ List.prefix_rfl)
    simp [hp, this]

/-! ## Division -/

/-- A list is divided among the keys of its items; items without a key are left over. An item is
counted once on each side: in the part of its key, or among those left over. -/
theorem perm_flatMap_filter {κ β : Type} [DecidableEq κ] [DecidableEq β] (key : β → Option κ)
    {ks : List κ} (nodup : ks.Nodup) {xs : List β}
    (complete : ∀ x ∈ xs, ∀ k, key x = some k → k ∈ ks) :
    xs.Perm ((ks.flatMap fun k => xs.filter fun x => key x = some k) ++
      xs.filter fun x => key x = none) := by
  refine List.perm_iff_count.2 fun a => ?_
  simp only [List.count_append, List.count_flatMap, Function.comp_def]
  cases ha : key a with
  | none =>
    have elsewhere : ∀ k ∈ ks, (xs.filter fun x => key x = some k).count a = 0 := by
      intro k _
      exact List.count_eq_zero.2 fun h => by simp [ha] at h
    rw [List.map_congr_left elsewhere, List.count_filter (by simp [ha])]
    simp
  | some k =>
    have left : (xs.filter fun x => key x = none).count a = 0 :=
      List.count_eq_zero.2 fun h => by simp [ha] at h
    have elsewhere : ∀ j, j ≠ k → j ∈ ks → (xs.filter fun x => key x = some j).count a = 0 := by
      intro j hj _
      exact List.count_eq_zero.2 fun h => hj (by simpa [ha, eq_comm] using (List.mem_filter.1 h).2)
    rw [left, Nat.add_zero, List.sum_map_eq_nsmul_single k _ elsewhere,
      List.count_filter (by simp [ha])]
    by_cases hk : k ∈ ks
    · rw [List.count_eq_one_of_mem nodup hk, one_nsmul]
    · have : a ∉ xs := fun h => hk (complete a h k ha)
      rw [List.count_eq_zero.2 this, nsmul_zero]

/-- The files at or below a path are those below the paths directly below it, and those at the path
itself. -/
theorem perm_reaching (us : List Usage) (p : List Text) :
    (reaching us p).Perm
      (((heads us p).flatMap fun s => reaching us (p ++ [s])) ++ exactly us p) := by
  have complete : ∀ u ∈ reaching us p, ∀ s, next? p u = some s → s ∈ heads us p :=
    fun u hu s hs => mem_heads.2 ⟨u, (mem_reaching.1 hu).1, next?_eq_some.1 hs⟩
  simp only [reaching_concat, exactly_eq_filter]
  exact perm_flatMap_filter (next? p) (nodup_heads us p) complete

/-- What is added up over the files below a path is the total of what is added up below each of the
paths directly below it, and of what the files at the path itself add. -/
theorem sum_reaching {M : Type} [AddCommMonoid M] (f : Usage → M) (us : List Usage)
    (p : List Text) :
    ((reaching us p).map f).sum =
      ((heads us p).map fun s => ((reaching us (p ++ [s])).map f).sum).sum +
        ((exactly us p).map f).sum := by
  rw [((perm_reaching us p).map f).sum_eq, List.map_append, List.sum_append, List.map_flatMap,
    List.flatMap_def, List.sum_flatten, List.map_map]
  rfl

theorem sum_sizes_nonneg {us vs : List Usage} (nonneg : ∀ u ∈ us, 0 ≤ u.size) (sub : vs ⊆ us) :
    0 ≤ (vs.map Usage.size).sum := by
  apply List.sum_nonneg
  intro k hk
  obtain ⟨u, hu, rfl⟩ := List.mem_map.1 hk
  exact nonneg u (sub hu)

end UsageTree.Usage
