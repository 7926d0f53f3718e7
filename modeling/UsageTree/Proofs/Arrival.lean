import UsageTree.Proofs.Reordered

/-!
# Files in another order

The tables of a tally list the same paths for the same files in whatever order these arrive, with
the same paths below each of them, the same sizes and the same numbers of files. Times are the
exception. The latest of them should be the greatest text, but an empty text is given up when it is
all that is known and a file without a time arrives last. Only then does the order show.

## Main definitions

* `Tally.times` — the times of the files at or below a path.
* `Tally.Rearranged` — what is the same for two orders of arrival.

## Main statements

* `Tally.rearranged_of_perm` — the tallies of two orders of arrival.
-/

namespace UsageTree

open UsageTree.Path UsageTree.Usage

namespace Tally

/-- The times of the files at or below a path, in the order of arrival. -/
def times (us : List Usage) (q : Text) : List LastChange :=
  (reaching us (Path.segments q)).map Usage.lastChanged

/-- What the tallies of two lists of files have in common that differ in the order of arrival. -/
structure Rearranged (us vs : List Usage) : Prop where
  paths : (ofUsages us).summaries.keys.Perm (ofUsages vs).summaries.keys
  parents : (ofUsages us).children.keys.Perm (ofUsages vs).children.keys
  children : ∀ q, ((ofUsages us).childrenOf q).Perm ((ofUsages vs).childrenOf q)
  summary : ∀ q s, (ofUsages us).summary? q = some s → ∃ t, (ofUsages vs).summary? q = some t ∧
    s.size = t.size ∧ s.itemCount = t.itemCount ∧
    (s.lastChanged = t.lastChanged ↔
      (LastChange.Displaced (times us q) ↔ LastChange.Displaced (times vs q)))
  /-- The latest time is the greatest text, unless an empty one was given up. -/
  latest : ∀ q s, (ofUsages us).summary? q = some s →
    (LastChange.IsMaximum (times us q) s.lastChanged ↔ ¬ LastChange.Displaced (times us q))

variable {us vs : List Usage}

theorem perm_keys_summaries (perm : us.Perm vs) :
    (ofUsages us).summaries.keys.Perm (ofUsages vs).summaries.keys := by
  rw [keys_summaries, keys_summaries]
  exact (FirstSeen.perm_eraseDups (perm.flatMap_right _)).map _

/-- The paths directly below a path are those of the same segments, met in another order. -/
theorem perm_childrenOf (perm : us.Perm vs) (q : Text) :
    ((ofUsages us).childrenOf q).Perm ((ofUsages vs).childrenOf q) := by
  by_cases known : q ∈ (ofUsages us).children.keys
  · obtain ⟨p, rfl, u, -, hp, -⟩ := mem_keys_children.1 known
    have hp := isSegment_of_isPrefix hp
    rw [childrenOf_joined us hp, childrenOf_joined vs hp]
    exact (heads_perm perm p).map _
  · have unknown : q ∉ (ofUsages vs).children.keys :=
      fun h => known ((perm_keys_children perm).mem_iff.2 h)
    rw [← Table.find?_isSome, Option.not_isSome_iff_eq_none] at known unknown
    rw [childrenOf, childrenOf, known, unknown]

/-- A summary that is found is that of the files at or below the path. -/
theorem summary?_eq_some {q : Text} {s : Summary} (h : (ofUsages us).summary? q = some s) :
    ∃ p, (∀ s ∈ p, IsSegment s) ∧ q = joined p ∧ reaching us p ≠ [] ∧
      s = Summary.of (reaching us p) := by
  have known : q ∈ (ofUsages us).summaries.keys :=
    (Table.find?_isSome _ q).1 (Option.isSome_of_eq_some h)
  obtain ⟨u, hu, p, hp, rfl⟩ := mem_keys_summaries.1 known
  have some_file : reaching us p ≠ [] := List.ne_nil_of_mem (mem_reaching.2 ⟨hu, hp⟩)
  have hp := isSegment_of_isPrefix hp
  rw [summary?_joined us hp, if_neg some_file] at h
  exact ⟨p, hp, rfl, some_file, (Option.some.inj h).symm⟩

/-- What is the latest time of a path is so for the times of its files. -/
theorem isLatest_times {q : Text} {s : Summary} (h : (ofUsages us).summary? q = some s) :
    LastChange.IsLatest (times us q) s.lastChanged := by
  obtain ⟨p, hp, rfl, some_file, rfl⟩ := summary?_eq_some h
  rw [times, segments_joined hp]
  exact LastChange.isLatest_foldl (by simpa using some_file)

/-- Files that arrive in another order are tallied in the same way, but for empty texts that are
given up. -/
theorem rearranged_of_perm (perm : us.Perm vs) : Rearranged us vs where
  paths := perm_keys_summaries perm
  parents := perm_keys_children perm
  children := perm_childrenOf perm
  summary q s h := by
    obtain ⟨p, hp, rfl, some_file, rfl⟩ := summary?_eq_some h
    have moved : (reaching us p).Perm (reaching vs p) := perm.filter _
    have some_file : reaching vs p ≠ [] := fun none => some_file (List.perm_nil.1 (none ▸ moved))
    have found : (ofUsages vs).summary? (joined p) = some (Summary.of (reaching vs p)) := by
      rw [summary?_joined vs hp, if_neg some_file]
    refine ⟨_, found, (moved.map _).sum_eq, moved.length_eq, ?_⟩
    exact (isLatest_times h).eq_iff_of_perm (isLatest_times found) ((perm.filter _).map _)
  latest q s h := (isLatest_times h).isMaximum_iff

/-- Files of which one has no time, one an empty time and one a time that says something. -/
def timed : List Usage := [⟨"a/b", 3, some "2024-01-02"⟩, ⟨"a\\c", -1, some ""⟩, ⟨"/", 2, none⟩]

theorem rearranged_timed : timed.Perm timed.reverse ∧ Rearranged timed timed.reverse := by
  have perm : timed.Perm timed.reverse := (List.reverse_perm timed).symm
  exact ⟨perm, rearranged_of_perm perm⟩

/-- One file with an empty time, followed by one without a time. -/
def overridden : List Usage := [⟨"a", 1, some ""⟩, ⟨"a", 1, none⟩]

/-- An empty text is the greatest of the times in both orders, and is left only if it comes last. -/
theorem latest_of_overridden : overridden.Perm overridden.reverse ∧
    (ofUsages overridden).summary? "a" = some ⟨2, 2, none⟩ ∧
    (ofUsages overridden.reverse).summary? "a" = some ⟨2, 2, some ""⟩ :=
  ⟨(List.reverse_perm overridden).symm, by decide, by decide⟩

end Tally

end UsageTree
