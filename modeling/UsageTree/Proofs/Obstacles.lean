import UsageTree.Proofs.Failure
import UsageTree.Proofs.LocalTime
import UsageTree.Proofs.Visible

/-!
# Why tables fail

The row of a node or an entry cannot be made if its size has too many digits to be written in bytes
or is too large to be written in kilobytes, or if its time cannot be moved within the calendar; the
size is tried first. A table fails for the first of its rows that cannot be made. What stands inside
a closed row is not tried.

## Main definitions

* `Row.Subject.size` — the size of a node or an entry.
* `Row.Subject.Offends` — a size that is too large, or a time that cannot be moved.
* `Row.Obstacle` — why a node or an entry has no row.

## Main statements

* `Row.ofNodes_fails_iff` — when and why there are no rows for a report.
-/

namespace UsageTree.Row

variable {zone : Int} {x : Expansion}

/-- The size that the row shows. -/
def Subject.size (s : Subject) : Int :=
  match s.entry with
  | none => s.node.totalSize
  | some e => e.size

/-- The size is so large that its number of kilobytes is rounded past every finite one, or there is
a time that cannot be moved within the calendar. -/
def Subject.Offends (zone : Int) (s : Subject) : Prop :=
  1024 ≤ s.size ∧ (Binary64.quotient s.size 1024).isFinite = false ∨
    ∃ e, s.entry = some e ∧ e.lastChanged.Stranded zone

/-- Why a node or an entry has no row: its size has too many digits or is too large, or it is an
entry with a size that can be shown and a time that cannot. -/
inductive Obstacle (zone : Int) (s : Subject) : Fault → Prop where
  | digits (long : s.size ≤ -Text.digitBound) : Obstacle zone s .digitLimit
  | size (large : ByteSize.bound ≤ s.size) : Obstacle zone s .ratioOverflow
  | time (inRange : ByteSize.InRange s.size) {e : Entry} (entry : s.entry = some e)
    (stranded : e.lastChanged.Stranded zone) : Obstacle zone s .dateRange

theorem nodeRow_eq_error {n : Node} {f : Fault} :
    nodeRow x n = .error f ↔ ByteSize.text n.totalSize = .error f := by
  unfold nodeRow
  cases ByteSize.text n.totalSize <;> simp

theorem entryRow_eq_error {top : Text} {depth : Nat} {e : Entry} {f : Fault} :
    entryRow zone x top depth e = .error f ↔ ByteSize.text e.size = .error f ∨
      ByteSize.InRange e.size ∧ e.lastChanged.display zone = .error f := by
  unfold entryRow
  rw [← ByteSize.exists_text_iff]
  cases ByteSize.text e.size <;> cases e.lastChanged.display zone <;> simp

theorem atSpot_eq_error {spot : Spot} {f : Fault} :
    atSpot zone x spot = .error f ↔ Obstacle zone spot.2 f := by
  obtain ⟨place, n, entry⟩ := spot
  cases entry with
  | none =>
    simp only [atSpot, nodeRow_eq_error, ByteSize.text_eq_error]
    constructor
    · rintro (⟨rfl, long⟩ | ⟨rfl, large⟩)
      · exact .digits long
      · exact .size large
    · rintro (long | large | ⟨-, ⟨⟩, -⟩)
      · exact .inl ⟨rfl, long⟩
      · exact .inr ⟨rfl, large⟩
  | some e =>
    simp only [atSpot, entryRow_eq_error, ByteSize.text_eq_error, LastChange.display_eq_error]
    constructor
    · rintro ((⟨rfl, long⟩ | ⟨rfl, large⟩) | ⟨inRange, rfl, stranded⟩)
      · exact .digits long
      · exact .size large
      · exact .time inRange rfl stranded
    · rintro (long | large | ⟨inRange, ⟨⟩, stranded⟩)
      · exact .inl (.inl ⟨rfl, long⟩)
      · exact .inl (.inr ⟨rfl, large⟩)
      · exact .inr ⟨inRange, rfl, stranded⟩

/-- The sizes with too many kilobytes are those from the bound on. -/
theorem overflows_iff {size : Int} :
    1024 ≤ size ∧ (Binary64.quotient size 1024).isFinite = false ↔ ByteSize.bound ≤ size := by
  rw [← Int.not_lt, ← Int.not_lt, ByteSize.lt_bound_iff, not_or, Bool.not_eq_true]

theorem exists_obstacle_iff {s : Subject} :
    (∃ f, Obstacle zone s f) ↔ s.size ≤ -Text.digitBound ∨ s.Offends zone := by
  rw [Subject.Offends, overflows_iff]
  constructor
  · rintro ⟨f, long | large | ⟨-, entry, stranded⟩⟩
    · exact .inl long
    · exact .inr (.inl large)
    · exact .inr (.inr ⟨_, entry, stranded⟩)
  · rintro (long | large | ⟨e, entry, stranded⟩)
    · exact ⟨_, .digits long⟩
    · exact ⟨_, .size large⟩
    -- The time counts only if the size can be shown.
    · rcases Int.lt_or_le (-Text.digitBound) s.size with short | long
      · rcases Int.lt_or_le s.size ByteSize.bound with small | large
        · exact ⟨_, .time ⟨short, small⟩ entry stranded⟩
        · exact ⟨_, .size large⟩
      · exact ⟨_, .digits long⟩

/-- What is shown of records without negative sizes has no negative size. -/
theorem size_nonneg {records : List RawRecord} {nodes : List Node}
    (nonneg : ∀ r ∈ records, r.Nonneg) (h : Node.report records = .ok nodes) {spot : Spot}
    (hspot : spot ∈ shown x nodes) : 0 ≤ spot.2.size := by
  obtain ⟨hn, he⟩ := mem_subjects.1 (List.of_mem_zip (List.mem_of_mem_filter hspot)).2
  obtain ⟨whole, parts⟩ := Node.entry_bounds nonneg h hn
  unfold Subject.size
  split
  · exact whole
  · rename_i e entry
    exact (parts e (he e entry)).1

/-- The rows of a report cannot be made if the size of one of those to be shown has too many digits
or so many kilobytes that they are rounded past every finite number, or if its time cannot be moved
within the calendar; and then they fail as the first of these does. Without negative sizes there are
never too many digits. -/
theorem ofNodes_fails_iff (zone : Int) (x : Expansion) (nodes : List Node) :
    ((∃ f, ofNodes zone x nodes = .error f) ↔ ∃ spot ∈ shown x nodes,
        spot.2.size ≤ -Text.digitBound ∨ spot.2.Offends zone) ∧
      (∀ records, (∀ r ∈ records, r.Nonneg) → Node.report records = .ok nodes →
        ((∃ f, ofNodes zone x nodes = .error f) ↔ ∃ spot ∈ shown x nodes, spot.2.Offends zone)) ∧
      (∀ size : Int, 1024 ≤ size ∧ (Binary64.quotient size 1024).isFinite = false ↔
        (1024 * (2 ^ 1024 - 2 ^ 970) : Nat) ≤ size) ∧
      ∀ f, ofNodes zone x nodes = .error f ↔
        Attempt.First (fun spot => Obstacle zone spot.2) (shown x nodes) f := by
  have fails (f : Fault) : ofNodes zone x nodes = .error f ↔
      Attempt.First (fun spot => Obstacle zone spot.2) (shown x nodes) f := by
    rw [ofNodes_eq_mapM, Attempt.mapM_eq_error]
    exact Attempt.first_congr fun spot _ f => atSpot_eq_error
  have general : (∃ f, ofNodes zone x nodes = .error f) ↔ ∃ spot ∈ shown x nodes,
      spot.2.size ≤ -Text.digitBound ∨ spot.2.Offends zone := by
    simp only [fails, Attempt.exists_first_iff, exists_obstacle_iff]
  refine ⟨general, fun records nonneg h => ?_, fun size => ?_, fails⟩
  · rw [general]
    refine exists_congr fun spot => and_congr_right fun hspot => or_iff_right ?_
    have := size_nonneg nonneg h hspot
    have := ByteSize.le_digitBound
    omega
  · rw [overflows_iff, ByteSize.bound_eq]

/-- A file last changed as the calendar begins, in a zone in which it had begun before. -/
def earliest : List RawRecord :=
  [⟨some [7], none, some "a", some 1, some "0001-01-01T00:00:00+01:00"⟩]

/-- A time that cannot be moved is in the way of rows only where it is to be shown. -/
theorem ofNodes_fails_earliest : ∃ nodes, Node.report earliest = .ok nodes ∧
    (∃ f, ofNodes 0 .everything nodes = .error f) ∧
      (∃ spot ∈ shown .everything nodes, spot.2.Offends 0) ∧
    (¬ ∃ f, ofNodes 0 (.only []) nodes = .error f) ∧
      ¬ ∃ spot ∈ shown (.only []) nodes, spot.2.Offends 0 := by
  have nonneg : ∀ r ∈ earliest, r.Nonneg := by simp [earliest, RawRecord.Nonneg]
  have made : (Node.report earliest).toOption.map (fun nodes =>
      ((ofNodes 0 .everything nodes).toOption.isSome,
        (ofNodes 0 (.only []) nodes).toOption.isSome)) = some (false, true) := by
    decide +kernel
  obtain ⟨nodes, h, outcomes⟩ := Attempt.exists_of_map_toOption made
  have failed : ∃ f, ofNodes 0 .everything nodes = .error f := by
    cases hrows : ofNodes 0 .everything nodes <;> simp [hrows, Except.toOption] at outcomes ⊢
  have closed : ¬ ∃ f, ofNodes 0 (.only []) nodes = .error f := by
    cases hrows : ofNodes 0 (.only []) nodes <;> simp [hrows, Except.toOption] at outcomes ⊢
  have opened := (ofNodes_fails_iff 0 .everything nodes).2.1 earliest nonneg h
  have hidden := (ofNodes_fails_iff 0 (.only []) nodes).2.1 earliest nonneg h
  exact ⟨nodes, h, failed, opened.1 failed, closed, hidden.not.1 closed⟩

end UsageTree.Row
