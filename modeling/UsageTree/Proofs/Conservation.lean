import UsageTree.Proofs.Grown
import UsageTree.Proofs.NodeRecords

/-!
# Totals at every level

No total is ever made of the totals below it: every path takes in its files on its own. All the same
a path has what the paths directly below it have together with the files at the path itself, since
these are the parts into which its files are divided.

## Main definitions

* `Entry.Balanced` — what is summed up at a path is the sum of its parts.
* `Node.Conserves` — this holds at every level of a node.

## Main statements

* `Node.conserves_of_report` — it holds in every report.
-/

namespace UsageTree

open UsageTree.Path UsageTree.Usage

namespace Entry

/-- What is summed up at the path `p` consists of what its children sum up, and of the files at `p`
itself. Where no time says anything, nothing is said of the latest. -/
structure Balanced (us : List Usage) (p : List Text) (sum : Summary) (children : List Entry) :
    Prop where
  size : sum.size = (children.map Entry.size).sum + ((exactly us p).map Usage.size).sum
  itemCount : sum.itemCount = (children.map Entry.itemCount).sum + (exactly us p).length
  lastChanged : ∀ s, s ≠ [] →
    some s ∈ (reaching us p).map Usage.lastChanged ++ children.map Entry.lastChanged →
      ∃ t, sum.lastChanged = some t ∧ LastChange.IsGreatest
        (children.map Entry.lastChanged ++ (exactly us p).map Usage.lastChanged) t

variable {us : List Usage} {p : List Text} {es : List Entry}

/-- What the entries of a level say is what the files say below the segments that follow, in some
order. -/
theorem Grown.perm_summaries (h : Grown us p es) :
    (es.map summary).Perm ((heads us p).map fun s => Usage.below us p s) := by
  cases h with
  | level names stands deeper =>
    have said : es.map summary = (es.map Entry.name).map fun s => Usage.below us p s := by
      rw [List.map_map]
      exact List.map_congr_left fun e he => (stands e he).summary_eq
    rw [said, names]
    exact (perm_arranged us p).map _

/-- What is added up over the entries of a level is added up over the segments that follow. -/
theorem Grown.sum_map {M : Type} [AddCommMonoid M] (h : Grown us p es) (f : Summary → M) :
    (es.map fun e => f e.summary).sum = ((heads us p).map fun s => f (Usage.below us p s)).sum := by
  have sums := (h.perm_summaries.map f).sum_eq
  rwa [List.map_map, List.map_map] at sums

/-! ## Times -/

/-- The time that an entry shows is that of a file below it, and as late as any of them. -/
theorem Stands.isLatest {e : Entry} (h : Stands us p e) :
    LastChange.IsLatest ((reaching us (p ++ [e.name])).map Usage.lastChanged) e.lastChanged := by
  have shown : e.lastChanged = (Usage.below us p e.name).lastChanged := by
    rw [← h.summary_eq]
    rfl
  rw [shown]
  exact LastChange.isLatest_foldl (by simpa using reaching_ne_nil h.head)

/-- The entries of a level show only times of files. -/
theorem Grown.mem_times (h : Grown us p es) {l : LastChange} (hl : l ∈ es.map Entry.lastChanged) :
    l ∈ (reaching us p).map Usage.lastChanged := by
  obtain ⟨e, he, rfl⟩ := List.mem_map.1 hl
  obtain ⟨u, hu, same⟩ := List.mem_map.1 (h.stands he).isLatest.mem
  rw [reaching_concat] at hu
  rw [← same]
  exact List.mem_map_of_mem (List.mem_of_mem_filter hu)

/-- Every time of a file is shown by an entry of the level or overtaken there, unless the file is
at the path itself. -/
theorem Grown.exists_time_ge (h : Grown us p es) {s : Text} (hs : s ≠ [])
    (mem : some s ∈ (reaching us p).map Usage.lastChanged) :
    ∃ t, some t ∈ es.map Entry.lastChanged ++ (exactly us p).map Usage.lastChanged ∧
      Text.le s t := by
  obtain ⟨u, hu, time⟩ := List.mem_map.1 mem
  rcases List.mem_append.1 ((perm_reaching us p).mem_iff.1 hu) with hu | hu
  · obtain ⟨name, hname, hu⟩ := List.mem_flatMap.1 hu
    obtain ⟨e, he, rfl⟩ := h.exists_of_mem_heads hname
    have known : some s ∈ (reaching us (p ++ [e.name])).map Usage.lastChanged :=
      time ▸ List.mem_map_of_mem hu
    obtain ⟨t, shown, greatest⟩ := (h.stands he).isLatest.exists_greatest hs known
    have listed : some t ∈ es.map Entry.lastChanged := shown ▸ List.mem_map_of_mem he
    exact ⟨t, List.mem_append_left _ listed, greatest.le s known⟩
  · have listed : some s ∈ (exactly us p).map Usage.lastChanged := time ▸ List.mem_map_of_mem hu
    exact ⟨s, List.mem_append_right _ listed, Text.le_refl s⟩

/-! ## Balance -/

/-- The files below a path are balanced with the entries of the level and the files at the path. -/
theorem Grown.balanced (h : Grown us p es) : Balanced us p (Summary.of (reaching us p)) es where
  size := by
    have children : (es.map Entry.size).sum = _ := h.sum_map Summary.size
    rw [children]
    exact sum_reaching Usage.size us p
  itemCount := by
    have children : (es.map Entry.itemCount).sum = _ := h.sum_map Summary.itemCount
    have divided := (perm_reaching us p).length_eq
    rw [List.length_append, List.length_flatMap] at divided
    rw [children]
    exact divided
  lastChanged s hs mem := by
    have mem : some s ∈ (reaching us p).map Usage.lastChanged := by
      rcases List.mem_append.1 mem with mem | mem
      · exact mem
      · exact h.mem_times mem
    have latest := LastChange.isLatest_foldl (List.ne_nil_of_mem mem)
    obtain ⟨t, shown, greatest⟩ := latest.exists_greatest hs mem
    refine ⟨t, shown, greatest.of_dominates (fun r hr => ?_) fun r hr => h.exists_time_ge hr⟩
    rcases List.mem_append.1 hr with hr | hr
    · exact h.mem_times hr
    · obtain ⟨u, hu, time⟩ := List.mem_map.1 hr
      obtain ⟨hu, here⟩ := mem_exactly.1 hu
      have hu : u ∈ reaching us p := mem_reaching.2 ⟨hu, here ▸ List.prefix_rfl⟩
      exact time ▸ List.mem_map_of_mem hu

/-- Where no size is negative, no child is larger than its parent. -/
theorem Balanced.size_le {sum : Summary} (h : Balanced us p sum es) (grown : Grown us p es)
    (nonneg : ∀ u ∈ us, 0 ≤ u.size) {e : Entry} (he : e ∈ es) : e.size ≤ sum.size := by
  have child_nonneg : ∀ k ∈ es.map Entry.size, 0 ≤ k := by
    intro k hk
    obtain ⟨c, hc, rfl⟩ := List.mem_map.1 hk
    exact (grown.stands hc).size_nonneg nonneg
  have among := List.single_le_sum child_nonneg e.size (List.mem_map_of_mem he)
  have rest : 0 ≤ ((exactly us p).map Usage.size).sum :=
    sum_sizes_nonneg nonneg (List.filter_subset_self us)
  have := h.size
  omega

end Entry

namespace Node

/-- The totals of a node that is made of the files `us` hold together at every level. -/
structure Conserves (us : List Usage) (n : Node) : Prop where
  totalSize : n.totalSize = (us.map Usage.size).sum
  root : Entry.Balanced us []
    ⟨n.totalSize, us.length, (Tally.ofUsages us).root.lastChanged⟩ n.entries
  entry : ∀ e ∈ Entry.preorder n.entries,
    Entry.Balanced us (Path.segments e.path) e.summary e.children
  size_le_totalSize : (∀ u ∈ us, 0 ≤ u.size) → ∀ e ∈ n.entries, e.size ≤ n.totalSize
  size_le : (∀ u ∈ us, 0 ≤ u.size) →
    ∀ e ∈ Entry.preorder n.entries, ∀ c ∈ e.children, c.size ≤ e.size

/-- The totals of every node of a report hold together at every level. -/
theorem conserves_of_report {records : List RawRecord} {nodes : List Node}
    (h : report records = .ok nodes) {n : Node} (hn : n ∈ nodes) :
    ∃ us, (recordsOf records n).mapM RawRecord.usage = .ok us ∧ Conserves us n := by
  obtain ⟨us, hus, hsize, hentries⟩ := exists_usages h hn
  have grown := Entry.grown_of_under hentries
  rw [Tally.root_ofUsages] at hsize
  have root : Entry.Balanced us []
      ⟨n.totalSize, us.length, (Tally.ofUsages us).root.lastChanged⟩ n.entries := by
    have balanced := grown.balanced
    rw [reaching_nil] at balanced
    rw [hsize, Tally.root_ofUsages]
    exact balanced
  have entry : ∀ e ∈ Entry.preorder n.entries, ∃ p, Path.segments e.path = p ∧
      Entry.Grown us p e.children ∧ Entry.Balanced us p e.summary e.children := by
    intro e he
    obtain ⟨p, placed, below⟩ := grown.exists_place he
    refine ⟨p ++ [e.name], ?_, below, ?_⟩
    · rw [placed.path_eq]
      exact segments_joined placed.isSegment
    · rw [placed.summary_eq]
      exact below.balanced
  refine ⟨us, hus, hsize, root, fun e he => ?_, fun nonneg e he => ?_, fun nonneg e he c hc => ?_⟩
  · obtain ⟨p, hp, -, balanced⟩ := entry e he
    rw [hp]
    exact balanced
  · exact root.size_le grown nonneg he
  · obtain ⟨p, -, below, balanced⟩ := entry e he
    exact balanced.size_le below nonneg hc

/-- A file that is also a folder counts beside what is in the folder. -/
theorem conserves_spellings : ∃ n, report spellings = .ok [n] ∧ n ∈ [n] ∧
    ∃ us, (recordsOf spellings n).mapM RawRecord.usage = .ok us ∧ Conserves us n ∧
      (∀ u ∈ us, 0 ≤ u.size) ∧ ∀ e ∈ n.entries, e.size ≤ n.totalSize := by
  obtain ⟨n, h⟩ := exists_report_spellings
  have hn : n ∈ [n] := List.mem_singleton_self n
  obtain ⟨us, hus, conserves⟩ := conserves_of_report h hn
  have sizes : ∀ r ∈ spellings, ∀ u, r.usage = .ok u → 0 ≤ u.size := by
    intro r hr u hu
    simp only [spellings, List.mem_cons, List.not_mem_nil, or_false] at hr
    rcases hr with rfl | rfl | rfl <;> cases hu <;> decide
  have nonneg : ∀ u ∈ us, 0 ≤ u.size := by
    intro u hu
    obtain ⟨r, hr, read⟩ := Attempt.exists_of_mem_mapM hus hu
    exact sizes r (List.mem_of_mem_filter hr) u read
  exact ⟨n, h, hn, us, hus, conserves, nonneg, conserves.size_le_totalSize nonneg⟩

end Node

end UsageTree
