import Mathlib.Algebra.BigOperators.Ring.List
import UsageTree.Proofs.Grown
import UsageTree.Proofs.NodeRecords
import UsageTree.Proofs.Rounding

/-!
# Sizes on another scale

A report of the same records with all sizes multiplied by one factor has the same nodes and entries
in the same places, with their sizes multiplied. Nothing but sizes and shares is made of sizes.
Which of two totals is the larger does not change, and a share is made of the exact ratio of two
totals, so that it does not change in its last digit.

## Main definitions

* `RawRecord.scale`, `Node.scale` — a record and a node with all sizes multiplied.

## Main statements

* `Usage.arranged_map_scale` — siblings keep their places.
* `Entry.share_mul_left` — shares do not change.
* `Node.report_map_scale` — the report of multiplied records.
-/

namespace UsageTree

open UsageTree.Path UsageTree.Usage

/-! ## What sizes occur in -/

/-- The record with its size multiplied, if it has one. -/
def RawRecord.scale (k : Int) (r : RawRecord) : RawRecord := { r with size := r.size.map (k * ·) }

def Usage.scale (k : Int) (u : Usage) : Usage := { u with size := k * u.size }

def Summary.scale (k : Int) (s : Summary) : Summary := { s with size := k * s.size }

namespace Entry

mutual

/-- The entry with its size and those of all entries below it multiplied. -/
def scale (k : Int) : Entry → Entry
  | ⟨path, name, size, itemCount, lastChanged, percent, children⟩ =>
    ⟨path, name, k * size, itemCount, lastChanged, percent, scaleAll k children⟩

/-- The entries of one level with all sizes multiplied. -/
def scaleAll (k : Int) : List Entry → List Entry
  | [] => []
  | e :: es => scale k e :: scaleAll k es

end

theorem scaleAll_eq_map (k : Int) (es : List Entry) : scaleAll k es = es.map (scale k) := by
  induction es with
  | nil => rw [scaleAll, List.map_nil]
  | cons e es ih => rw [scaleAll, ih, List.map_cons]

end Entry

/-- The node with its total size and the sizes of all its entries multiplied. -/
def Node.scale (k : Int) (n : Node) : Node :=
  { n with totalSize := k * n.totalSize, entries := n.entries.map (Entry.scale k) }

variable {k : Int}

theorem RawRecord.usage_scale (r : RawRecord) :
    (r.scale k).usage = r.usage.map (Usage.scale k) := by
  obtain ⟨id, name, path, size, time⟩ := r
  cases path <;> cases size <;> rfl

/-! ## Files below a path -/

namespace Usage

theorem reaching_map_scale (us : List Usage) (p : List Text) :
    reaching (us.map (scale k)) p = (reaching us p).map (scale k) := by
  rw [reaching, List.filter_map]
  rfl

theorem heads_map_scale (us : List Usage) (p : List Text) :
    heads (us.map (scale k)) p = heads us p := by
  rw [heads, List.filterMap_map]
  rfl

theorem below_map_scale (us : List Usage) (p : List Text) (s : Text) :
    below (us.map (scale k)) p s = (below us p s).scale k := by
  rw [below, reaching_map_scale, below]
  generalize reaching us (p ++ [s]) = vs
  simp only [Summary.of, Summary.scale, List.map_map, List.length_map, ← List.sum_map_mul_left]
  rfl

/-- Siblings keep their places: a factor does not change which total is the larger. -/
theorem arranged_map_scale (hk : 0 < k) (us : List Usage) (p : List Text) :
    arranged (us.map (scale k)) p = arranged us p := by
  simp only [arranged, heads_map_scale, below_map_scale, Summary.scale,
    mul_le_mul_iff_right₀ hk]

end Usage

namespace Tally

/-- What lies below a path is a matter of paths alone. -/
theorem children_map_scale (us : List Usage) :
    (ofUsages (us.map (Usage.scale k))).children = (ofUsages us).children := by
  rw [children_eq_fill, children_eq_fill, List.flatMap_map]
  rfl

theorem root_map_scale (us : List Usage) :
    (ofUsages (us.map (Usage.scale k))).root.size = k * (ofUsages us).root.size := by
  simp only [root_ofUsages, Summary.of, List.map_map, ← List.sum_map_mul_left]
  rfl

end Tally

/-! ## Entries -/

namespace Entry

/-- A share is made of the exact ratio of two sizes, to which a common factor makes no difference. -/
theorem share_mul_left (hk : 0 < k) (size total : Int) :
    share (k * size) (k * total) = share size total := by
  simp only [share, Int.mul_eq_zero, hk.ne', false_or, Binary64.quotient_mul_left hk]

theorem assemble_scale (hk : 0 < k) (path name : Text) (sum : Summary) (total : Int)
    (below : Except Fault (List Entry)) :
    assemble path name (sum.scale k) (k * total) (below.map (List.map (scale k))) =
      (assemble path name sum total below).map (scale k) := by
  simp only [assemble, Summary.scale, share_mul_left hk]
  cases share sum.size total with
  | error f => rfl
  | ok percent =>
    cases below with
    | error f => rfl
    | ok children =>
      simp only [Except.map, Attempt.ok_bind, pure, Except.pure, scale, scaleAll_eq_map]

/-- The entries below a path on the other scale. The induction is on the levels: each entry of a
level is put together from a multiplied summary and from what lies below it. -/
theorem levels_map_scale (hk : 0 < k) (us : List Usage) {p : List Text}
    (hp : ∀ s ∈ p, IsSegment s) (fuel : Nat) (total : Int) :
    levels (Tally.ofUsages (us.map (Usage.scale k))) fuel (joined p) (k * total) =
      (levels (Tally.ofUsages us) fuel (joined p) total).map (List.map (scale k)) := by
  induction fuel generalizing p total with
  | zero => rfl
  | succ fuel ih =>
    rw [levels_succ _ hp, levels_succ _ hp, arranged_map_scale hk]
    refine Attempt.mapM_of_map fun s hs => ?_
    have hs := isSegment_of_mem_heads (mem_arranged.1 hs)
    rw [grow, grow, below_map_scale, ← assemble_scale hk, ← ih hs]
    rfl

theorem under_map_scale (hk : 0 < k) (us : List Usage) (total : Int) :
    under (Tally.ofUsages (us.map (Usage.scale k))) [] (k * total) =
      (under (Tally.ofUsages us) [] total).map (List.map (scale k)) := by
  rw [under, under, Tally.children_map_scale]
  exact levels_map_scale hk us (p := []) (by simp) _ total

end Entry

/-! ## Reports -/

namespace Node

theorem ofGroup_map_scale (hk : 0 < k) (id : NodeId) (records : List RawRecord) :
    ofGroup ⟨id, records.map (RawRecord.scale k)⟩ = (ofGroup ⟨id, records⟩).map (scale k) := by
  have name : Group.name ⟨id, records.map (RawRecord.scale k)⟩ = Group.name ⟨id, records⟩ := by
    simp only [Group.name, List.findSome?_map]
    rfl
  rw [ofGroup, ofGroup, name, Attempt.mapM_map_of_map RawRecord.usage_scale]
  cases records.mapM RawRecord.usage with
  | error f => rfl
  | ok us =>
    simp only [Except.map, Attempt.ok_bind, Tally.root_map_scale, Entry.under_map_scale hk]
    cases Entry.under (Tally.ofUsages us) [] (Tally.ofUsages us).root.size <;> rfl

/-- Multiplying all sizes of records multiplies all sizes of the report, and changes nothing else:
not the places of nodes and entries, not their shares, and not the fault of a report that fails. -/
theorem report_map_scale (hk : 1 ≤ k) (records : List RawRecord) :
    report (records.map (RawRecord.scale k)) = (report records).map (List.map (scale k)) :=
  report_map (c := RawRecord.scale k) (g := scale k) (fun _ => rfl) (fun _ => rfl)
    (ofGroup_map_scale hk) records

/-- Files of one node that add up to less than nothing in one place and to nothing in another. -/
def debts : List RawRecord :=
  [⟨some [7], some "disk", some "a/b", some (-3), none⟩,
    ⟨some [7], none, some "a/c", some 2, some "2024-01-02"⟩,
    ⟨some [7], none, some "d", some 5, none⟩,
    ⟨some [7], none, some "e/f", some 4, none⟩,
    ⟨some [7], none, some "e/g", some (-4), none⟩]

/-- A factor past every finite number makes no difference to the shares, nor to what is wrong with
a record that has no path. -/
theorem report_map_scale_debts : ∃ nodes, report debts = .ok nodes ∧
    nodes.map (fun n => n.entries.map Entry.percent) =
      [[.finite false 0x1f400000000000 1028, 0, .finite true 0x19000000000000 1026]] ∧
    report (debts.map (RawRecord.scale (1 <<< 1025))) =
      .ok (nodes.map (scale (1 <<< 1025))) ∧
    report (([⟨some [7], none, none, some 1, none⟩] : List RawRecord).map (RawRecord.scale 2)) =
      .error (.missingField .path) := by
  have made : (report debts).toOption.map (List.map fun n => n.entries.map Entry.percent) =
      some [[.finite false 0x1f400000000000 1028, 0, .finite true 0x19000000000000 1026]] := by
    decide +kernel
  obtain ⟨nodes, h, percents⟩ := Attempt.exists_of_map_toOption made
  refine ⟨nodes, h, percents, ?_, ?_⟩
  · rw [report_map_scale (by decide +kernel), h]
    rfl
  · rw [report_map_scale (by decide)]
    rfl

end Node

end UsageTree
