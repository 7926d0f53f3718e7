import UsageTree.Proofs.Grown
import UsageTree.Proofs.NodeRecords

/-!
# The order of siblings

Entries with one parent are sorted by size, the largest first, after they were met in the order of
the files. Sorting keeps the order of what it finds equal, so that siblings of one size stand in the
order in which files lead to them, however deep below a sibling the first of these files lies.

## Main definitions

* `Entry.InOrder` — siblings in the order of their sizes, and of their first files.

## Main statements

* `Usage.pairwise_arranged` — the segments that follow a path, by size and by their first files.
* `Node.inOrder_of_report` — siblings of every report are in order, at every level.
-/

namespace UsageTree

open UsageTree.Path UsageTree.Usage

/-! ## Siblings -/

/-- The segments that follow a path are arranged by their totals, and those with one total by the
first file to which they lead. -/
theorem Usage.pairwise_arranged (us : List Usage) (p : List Text) :
    (arranged us p).Pairwise fun s t => (below us p t).size ≤ (below us p s).size ∧
      ((below us p s).size ≤ (below us p t).size →
        firstAt us (p ++ [s]) < firstAt us (p ++ [t])) := by
  rw [arranged, ← Sorting.sort_eq_insertionSort]
  refine (Sorting.pairwise_sort _ ?_ ?_ (Tally.pairwise_heads us p)).imp fun {s t} h => ?_
  · simpa using fun s t => Int.le_total _ _
  · simpa using fun s t v hst htv => Int.le_trans htv hst
  · simpa [Sorting.Precedes] using h

namespace Entry

/-- Siblings of a tree of the files `us`: some file leads to each of them, and of two of them the
first is the larger one, or is as large as the second and comes earlier by its first file. -/
structure InOrder (us : List Usage) (es : List Entry) : Prop where
  met : ∀ e ∈ es, firstAt us (Path.segments e.path) < us.length
  order : es.Pairwise fun e f => f.size < e.size ∨
    e.size = f.size ∧ firstAt us (Path.segments e.path) < firstAt us (Path.segments f.path)

variable {us : List Usage} {p : List Text} {es : List Entry}

/-- The entries of one level are in order. -/
theorem Grown.inOrder (h : Grown us p es) : InOrder us es where
  met e he := by
    have placed := h.stands he
    obtain ⟨u, hu, leads⟩ := mem_heads.1 placed.head
    rw [placed.segments_path, firstAt, List.findIdx_lt_length]
    exact ⟨u, hu, by simpa using leads⟩
  order := by
    cases h with
    | level names stands deeper =>
      have arranged := pairwise_arranged us p
      rw [← names, List.pairwise_map] at arranged
      refine arranged.imp_of_mem fun {e f} he hf h => ?_
      obtain ⟨smaller, tie⟩ := h
      rw [(stands e he).segments_path, (stands f hf).segments_path]
      rw [← (stands e he).size_eq, ← (stands f hf).size_eq] at smaller tie
      rcases Int.lt_or_eq_of_le smaller with smaller | same
      · exact .inl smaller
      · exact .inr ⟨same.symm, tie (Int.le_of_eq same.symm)⟩

end Entry

namespace Node

/-- Siblings of every node of a report are in order: the top entries, and those below every entry. -/
theorem inOrder_of_report {records : List RawRecord} {nodes : List Node}
    (h : report records = .ok nodes) {n : Node} (hn : n ∈ nodes) :
    ∃ us, (recordsOf records n).mapM RawRecord.usage = .ok us ∧ Entry.InOrder us n.entries ∧
      ∀ e ∈ Entry.preorder n.entries, Entry.InOrder us e.children := by
  obtain ⟨us, hus, -, hentries⟩ := exists_usages h hn
  have grown := Entry.grown_of_under hentries
  refine ⟨us, hus, grown.inOrder, fun e he => ?_⟩
  obtain ⟨p, -, below⟩ := grown.exists_place he
  exact below.inOrder

/-- Files of one node that leave ties: a folder that is met by way of a file far below it, a file of
negative size, and a file that is met again later. -/
def tied : List RawRecord :=
  [⟨some [7], some "disk", some "b/c/d", some 5, none⟩,
    ⟨some [7], none, some "a", some 9, none⟩,
    ⟨some [7], none, some "b/e", some (-1), none⟩,
    ⟨some [7], none, some "z", some 20, none⟩,
    ⟨some [7], none, some "b/c", some 5, none⟩]

/-- A folder and a file of one size stand in the order in which they are met. -/
theorem inOrder_tied : ∃ n us, report tied = .ok [n] ∧
    n.entries.map Entry.path = (["z", "b", "a"] : List Text) ∧
    (recordsOf tied n).mapM RawRecord.usage = .ok us ∧ Entry.InOrder us n.entries ∧
    ∀ e ∈ Entry.preorder n.entries, Entry.InOrder us e.children := by
  have made : (report tied).toOption.map (List.map fun n => n.entries.map Entry.path) =
      some [(["z", "b", "a"] : List Text)] := by
    decide +kernel
  obtain ⟨nodes, h, paths⟩ := Attempt.exists_of_map_toOption made
  obtain ⟨n, rfl, path⟩ := List.map_eq_singleton_iff.1 paths
  obtain ⟨us, hus, ordered⟩ := inOrder_of_report h (List.mem_singleton_self n)
  exact ⟨n, us, h, path, hus, ordered⟩

end Node

end UsageTree
