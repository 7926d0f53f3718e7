import UsageTree.Proofs.Grown
import UsageTree.Proofs.NodeRecords

/-!
# Every path once, at its place

The tree of a node holds the paths on the way to its files and no others, each of them once, and
every path stands below the path one segment shorter.

## Main definitions

* `Entry.Covers` — a tree holds the paths of some files in this way.

## Main statements

* `Node.covers_of_report` — the trees of a report do.
-/

namespace UsageTree

open UsageTree.Path UsageTree.Usage

namespace Entry

/-- The entries `es` are the tree of the paths on the way to the files `us`. -/
structure Covers (us : List Usage) (es : List Entry) : Prop where
  nodup : ((preorder es).map Entry.path).Nodup
  /-- The paths are those of the beginnings of the files' segments, without the root. -/
  mem_iff : ∀ q, q ∈ (preorder es).map Entry.path ↔
    ∃ u ∈ us, ∃ p, p ≠ [] ∧ p <+: u.segments ∧ q = joined p
  root_notMem : [] ∉ (preorder es).map Entry.path
  name : ∀ e ∈ preorder es, e.name ≠ [] ∧ slash ∉ e.name ∧ ('\\' : CodePoint) ∉ e.name
  path_top : ∀ e ∈ es, e.path = e.name
  path_child : ∀ e ∈ preorder es, ∀ c ∈ e.children, c.path = e.path ++ slash :: c.name

variable {us : List Usage} {p : List Text} {es : List Entry}

/-- The paths of a tree are the paths on the way to the files, as far as they go on below the root
of the tree. -/
theorem Grown.mem_paths (h : Grown us p es) {q : Text} :
    q ∈ (preorder es).map Entry.path ↔
      ∃ u ∈ us, ∃ r, r ≠ [] ∧ p ++ r <+: u.segments ∧ q = joined (p ++ r) := by
  constructor
  · intro hq
    obtain ⟨e, he, rfl⟩ := List.mem_map.1 hq
    obtain ⟨r, placed, -⟩ := h.exists_place he
    obtain ⟨u, hu, beginning⟩ := mem_heads.1 placed.head
    refine ⟨u, hu, r ++ [e.name], by simp, ?_, ?_⟩
    · rwa [← List.append_assoc]
    · rw [placed.path_eq, List.append_assoc]
  · rintro ⟨u, hu, r, hr, beginning, rfl⟩
    induction h generalizing r with
    | @level p es names stands deeper ih =>
      obtain ⟨s, r, rfl⟩ := List.exists_cons_of_ne_nil hr
      have split : p ++ s :: r = p ++ [s] ++ r := by simp
      rw [split] at beginning ⊢
      have head : s ∈ heads us p := mem_heads.2 ⟨u, hu, (List.prefix_append _ r).trans beginning⟩
      obtain ⟨e, he, rfl⟩ := (Grown.level names stands deeper).exists_of_mem_heads head
      by_cases hr : r = []
      · refine List.mem_map.2 ⟨e, mem_preorder_of_mem he, ?_⟩
        rw [hr, List.append_nil]
        exact (stands e he).path_eq
      · obtain ⟨d, hd, hpath⟩ := List.mem_map.1 (ih e he r hr beginning)
        exact List.mem_map.2 ⟨d, mem_preorder.2 ⟨e, he, .inr hd⟩, hpath⟩

/-- The paths of an entry and of all below it begin with the path of the entry. -/
theorem Grown.exists_of_mem_subtree (h : Grown us p es) {e : Entry} (he : e ∈ es) {q : Text}
    (hq : q ∈ (subtree e).map Entry.path) :
    ∃ r, (∀ s ∈ p ++ e.name :: r, IsSegment s) ∧ q = joined (p ++ e.name :: r) := by
  have stands := h.stands he
  rw [subtree_eq, List.map_cons] at hq
  rcases List.mem_cons.1 hq with rfl | hq
  · exact ⟨[], stands.isSegment, stands.path_eq⟩
  · obtain ⟨u, -, r, -, beginning, rfl⟩ := (h.deeper he).mem_paths.1 hq
    rw [List.append_assoc] at beginning
    exact ⟨r, isSegment_of_isPrefix beginning, by simp⟩

/-- No path occurs twice in a tree: the paths below an entry are longer than its own, and two
entries of one level have different names. -/
theorem Grown.nodup_paths (h : Grown us p es) : ((preorder es).map Entry.path).Nodup := by
  induction h with
  | @level p es names stands deeper ih =>
    have grown := Grown.level names stands deeper
    rw [preorder_eq_flatMap, List.map_flatMap, List.nodup_flatMap]
    constructor
    · intro e he
      rw [subtree_eq, List.map_cons, List.nodup_cons]
      refine ⟨fun again => ?_, ih e he⟩
      obtain ⟨u, -, r, hr, beginning, same⟩ := (deeper e he).mem_paths.1 again
      rw [(stands e he).path_eq] at same
      have same := joined_injective (stands e he).isSegment (isSegment_of_isPrefix beginning) same
      exact hr (List.self_eq_append_right.1 same)
    · have apart : es.Pairwise fun d e => d.name ≠ e.name := List.pairwise_map.1 grown.nodup_names
      refine apart.imp_of_mem fun {d e} hd he different q hqd hqe => ?_
      obtain ⟨r, hr, rfl⟩ := grown.exists_of_mem_subtree hd hqd
      obtain ⟨r', hr', same⟩ := grown.exists_of_mem_subtree he hqe
      have same := List.append_cancel_left (joined_injective hr hr' same)
      exact different (List.cons.inj same).1

/-- A tree below the root holds every path once, at its place. -/
theorem Grown.covers (h : Grown us [] es) : Covers us es where
  nodup := h.nodup_paths
  mem_iff q := by simpa using h.mem_paths
  root_notMem root := by
    obtain ⟨u, -, r, hr, beginning, empty⟩ := h.mem_paths.1 root
    have nonempty : ∀ s ∈ [] ++ r, s ≠ [] := fun s hs => (isSegment_of_isPrefix beginning s hs).1
    exact hr ((joined_eq_nil nonempty).1 empty.symm)
  name e he := by
    obtain ⟨r, placed, -⟩ := h.exists_place he
    have segment := placed.isSegment e.name (by simp)
    exact ⟨segment.1, segment.slash_notMem, segment.backslash_notMem⟩
  path_top e he := by
    rw [(h.stands he).path_eq]
    simp
  path_child e he c hc := by
    obtain ⟨r, placed, grown⟩ := h.exists_place he
    have below := (grown.stands hc).path_eq
    have nonempty : ∀ s ∈ [] ++ r ++ [e.name], s ≠ [] := fun s hs => (placed.isSegment s hs).1
    have notRoot : e.path ≠ [] := by
      rw [placed.path_eq, ne_eq, joined_eq_nil nonempty]
      simp
    rw [below, joined_concat nonempty, ← placed.path_eq, extend, if_neg notRoot]

end Entry

namespace Node

/-- The tree of every node of a report holds every path of the node's records once, at its
place. -/
theorem covers_of_report {records : List RawRecord} {nodes : List Node}
    (h : report records = .ok nodes) {n : Node} (hn : n ∈ nodes) :
    ∃ us, (recordsOf records n).mapM RawRecord.usage = .ok us ∧ Entry.Covers us n.entries := by
  obtain ⟨us, hus, -, hentries⟩ := exists_usages h hn
  exact ⟨us, hus, (Entry.grown_of_under hentries).covers⟩

/-- The spelling of a path does not matter. -/
theorem covers_spellings : ∃ n, report spellings = .ok [n] ∧ n ∈ [n] ∧
    ∃ us, (recordsOf spellings n).mapM RawRecord.usage = .ok us ∧ Entry.Covers us n.entries := by
  obtain ⟨n, h⟩ := exists_report_spellings
  have hn : n ∈ [n] := List.mem_singleton_self n
  exact ⟨n, h, hn, covers_of_report h hn⟩

end Node

end UsageTree
