import UsageTree.Proofs.Failure
import UsageTree.Proofs.Rounding
import UsageTree.Proofs.RowIds
import UsageTree.Proofs.Siblings

/-!
# Shares are percentages

Where no size is negative, no entry is larger than its parent. Its share is rounded twice on the
way, when the ratio is made and when it is multiplied, but rounding keeps the order and meets one
and a hundred exactly, so that a share neither leaves the range from zero to a hundred nor goes past
the share of a larger sibling.

## Main definitions

* `Binary64.IsPercentage` — a number from zero to a hundred.
* `Entry.Divided` — the shares of the entries of one level.
* `Node.Divided` — the shares at every level of a node.

## Main statements

* `Entry.exists_share_of_le` — the share of a part in closed form.
* `Node.divided_of_nonneg` — reports without negative sizes have percentages, and show them.
-/

namespace UsageTree

open UsageTree.Path UsageTree.Usage

namespace Binary64

/-! ## Percentages -/

/-- A finite number from zero to a hundred, zero only without a sign. -/
structure IsPercentage (x : Binary64) : Prop where
  canonical : Canonical x
  isFinite : x.isFinite
  zero_le : 0 ≤ x
  le_hundred : x ≤ hundred
  ne_negative_zero : ∀ p, x ≠ finite true 0 p

theorem nearest_one_hundred : nearest false (one * 100) 1 = hundred := by decide +kernel

theorem rounded_self {n : Nat} (hn : 0 < n) : rounded (n * one) n = one := by
  have same := rounded_whole (n := 1) hn (by decide)
  rwa [Nat.one_mul, Nat.mul_comm] at same

/-- What a ratio up to one rounds to is a percentage once it is multiplied by a hundred. -/
theorem isPercentage_nearest {a : Nat} (ha : a ≤ one) : IsPercentage (nearest false (a * 100) 1) := by
  have le : nearest false (a * 100) 1 ≤ hundred := by
    rw [← nearest_one_hundred]
    exact nearest_le_nearest Nat.one_pos Nat.one_pos
      (Nat.mul_le_mul_right 1 (Nat.mul_le_mul_right 100 ha))
  have finite : (nearest false (a * 100) 1).isFinite := by
    by_contra infinite
    rw [nearest_eq_infinite infinite] at le
    cases le
  obtain ⟨m, p, eq, -, canonical⟩ := exists_nearest_eq Nat.one_pos finite
  rw [eq] at le finite ⊢
  exact ⟨canonical, finite, zero_le_finite m p, le, fun _ => by simp⟩

theorem isPercentage_zero : IsPercentage 0 where
  canonical := ⟨by decide, .inr rfl, by decide⟩
  isFinite := rfl
  zero_le := zero_le_finite 0 0
  le_hundred := finite_le_finite.2 (by simp)
  ne_negative_zero _ := nofun

/-- A percentage is shown with one decimal, from `0.0` to `100.0`. -/
theorem IsPercentage.exists_oneDecimal {x : Binary64} (h : IsPercentage x) :
    ∃ k ≤ 1000, x.oneDecimal = tenthsText k := by
  obtain ⟨-, finite, nonneg, le, unsigned⟩ := h
  cases x with
  | infinite negative => cases finite
  | nan => cases finite
  | finite negative m p =>
    cases negative with
    | true =>
      have worth : (0 : Int) ≤ -((m <<< p : Nat) : Int) := nonneg
      have vanishes : m = 0 := by
        rw [Nat.shiftLeft_eq] at worth
        have := Nat.le_mul_of_pos_right m (Nat.two_pow_pos p)
        omega
      exact absurd (vanishes ▸ rfl) (unsigned p)
    | false =>
      refine ⟨halfEven ((m <<< p) * 10) one, halfEven_le one_pos ?_, by simp [oneDecimal]⟩
      have hundred_tenths : (0x19000000000000 <<< 1028) * 10 = 1000 * one := by decide +kernel
      rw [← hundred_tenths]
      exact Nat.mul_le_mul_right 10 (finite_le_finite.1 le)

end Binary64

namespace Entry

open UsageTree.Binary64

/-! ## Shares of parts -/

/-- The ratio of a part to its total is rounded, and the rounded one is multiplied. -/
theorem share_of_le {s t : Nat} (hst : s ≤ t) (ht : 0 < t) :
    share s t = .ok (nearest false (rounded (s * one) t * 100) 1) := by
  have finite : (quotient s t).isFinite :=
    isFinite_quotient_of_le (Int.natCast_nonneg s) (Int.ofNat_le.2 hst) (by omega)
  rw [quotient_natCast] at finite
  obtain ⟨m, p, eq, worth, -⟩ := exists_nearest_eq ht finite
  rw [share, if_neg (by omega), quotient_natCast, eq]
  simp only [Binary64.isFinite, if_true, times, worth]

theorem rounded_part_le {s t : Nat} (hst : s ≤ t) (ht : 0 < t) : rounded (s * one) t ≤ one := by
  calc rounded (s * one) t ≤ rounded (t * one) t :=
        rounded_le_rounded ht ht (Nat.mul_le_mul_right t (Nat.mul_le_mul_right one hst))
    _ = one := rounded_self ht

variable {s s' t : Int} {x y : Binary64}

theorem share_eq_ok_of_zero (h : share s 0 = .ok x) : x = 0 := by
  cases h
  rfl

/-- The share of a part is a percentage. -/
theorem isPercentage_of_share (hs : 0 ≤ s) (hst : s ≤ t) (h : share s t = .ok x) :
    IsPercentage x := by
  lift s to Nat using hs
  lift t to Nat using by omega
  rcases Nat.eq_zero_or_pos t with rfl | ht
  · rw [share_eq_ok_of_zero h]
    exact isPercentage_zero
  · have hst : s ≤ t := Int.ofNat_le.1 hst
    cases (share_of_le hst ht).symm.trans h
    exact isPercentage_nearest (rounded_part_le hst ht)

/-- The larger of two parts has no smaller share. -/
theorem share_le_share (hs : 0 ≤ s) (hss : s ≤ s') (hst : s' ≤ t) (h : share s t = .ok x)
    (h' : share s' t = .ok y) : x ≤ y := by
  lift s to Nat using hs
  lift s' to Nat using by omega
  lift t to Nat using by omega
  rcases Nat.eq_zero_or_pos t with rfl | ht
  · rw [share_eq_ok_of_zero h, share_eq_ok_of_zero h']
    exact zero_le_finite 0 0
  · have hss : s ≤ s' := Int.ofNat_le.1 hss
    have hst : s' ≤ t := Int.ofNat_le.1 hst
    cases (share_of_le (hss.trans hst) ht).symm.trans h
    cases (share_of_le hst ht).symm.trans h'
    have ratios : rounded (s * one) t ≤ rounded (s' * one) t :=
      rounded_le_rounded ht ht (Nat.mul_le_mul_right t (Nat.mul_le_mul_right one hss))
    exact nearest_le_nearest Nat.one_pos Nat.one_pos
      (Nat.mul_le_mul_right 1 (Nat.mul_le_mul_right 100 ratios))

/-- The whole is a hundred percent of itself. -/
theorem share_self (ht : 0 < t) : share t t = .ok hundred := by
  lift t to Nat using ht.le
  have ht : 0 < t := Int.ofNat_lt.1 ht
  rw [share_of_le (Nat.le_refl t) ht, rounded_self ht, nearest_one_hundred]

/-! ## Shares at every level -/

/-- The entries of one level show what they are of `total`. -/
def Shared (total : Int) (es : List Entry) : Prop := ∀ e ∈ es, share e.size total = .ok e.percent

/-- Entries that could be made show their shares of what is above them. The induction is on the
levels, and the entries of one level are made one by one. -/
theorem shared_of_levels {t : Tally} {fuel : Nat} {path : Text} {total : Int} {es : List Entry}
    (h : levels t fuel path total = .ok es) :
    Shared total es ∧ ∀ e ∈ preorder es, Shared e.size e.children := by
  induction fuel generalizing path total es with
  | zero => cases h
  | succ fuel ih =>
    rw [levels] at h
    obtain ⟨paths, -, h⟩ := Attempt.bind_eq_ok.1 h
    have made : ∀ e ∈ es, share e.size total = .ok e.percent ∧
        Shared e.size e.children ∧ ∀ d ∈ preorder e.children, Shared d.size d.children := by
      intro e he
      obtain ⟨⟨path, sum⟩, -, h⟩ := Attempt.exists_of_mem_mapM h he
      obtain ⟨percent, hpercent, h⟩ := Attempt.bind_eq_ok.1 h
      obtain ⟨children, hchildren, h⟩ := Attempt.bind_eq_ok.1 h
      cases h
      exact ⟨hpercent, ih hchildren⟩
    refine ⟨fun e he => (made e he).1, fun e he => ?_⟩
    obtain ⟨top, htop, rfl | below⟩ := mem_preorder.1 he
    · exact (made e htop).2.1
    · exact (made top htop).2.2 e below

/-- The shares of the entries of one level below `p`, where there is `total` to be divided. -/
structure Divided (us : List Usage) (p : List Text) (total : Int) (es : List Entry) : Prop where
  isPercentage : ∀ e ∈ es, IsPercentage e.percent
  of_nothing : total = 0 → ∀ e ∈ es, e.percent = 0
  of_all : total ≠ 0 → ∀ e ∈ es, e.size = total → e.percent = hundred
  /-- What is alone below a path at which there is no file takes up all. -/
  of_only : exactly us p = [] → ∀ e, es = [e] → e.size ≠ 0 → e.percent = hundred
  descending : es.Pairwise fun e f => f.percent ≤ e.percent

variable {us : List Usage} {p : List Text} {es : List Entry}

/-- Where no size is negative, the files of a path are divided among the entries below it. -/
theorem Grown.divided (grown : Grown us p es) (nonneg : ∀ u ∈ us, 0 ≤ u.size)
    (shared : Shared (total us p) es) : Divided us p (total us p) es := by
  have lower : ∀ e ∈ es, 0 ≤ e.size := fun e he => (grown.stands he).size_nonneg nonneg
  have upper : ∀ e ∈ es, e.size ≤ total us p := fun e he =>
    grown.balanced.size_le grown nonneg he
  have whole : total us p ≠ 0 → ∀ e ∈ es, e.size = total us p → e.percent = hundred := by
    intro some e he all
    have positive : 0 < total us p := by
      have := lower e he
      omega
    have known := shared e he
    rw [all, share_self positive] at known
    exact (Except.ok.inj known).symm
  refine ⟨fun e he => ?_, fun none e he => ?_, whole, fun empty e alone some => ?_, ?_⟩
  · exact isPercentage_of_share (lower e he) (upper e he) (shared e he)
  · exact share_eq_ok_of_zero (none ▸ shared e he)
  · have all : e.size = total us p := by
      have balance := grown.balanced.size
      rw [empty, alone] at balance
      simpa [total, Summary.of] using balance.symm
    exact whole (all ▸ some) e (by simp [alone]) all
  · refine grown.inOrder.order.imp_of_mem fun {e f} he hf order => ?_
    have smaller : f.size ≤ e.size := by omega
    exact share_le_share (lower f hf) smaller (upper e he) (shared f hf) (shared e he)

end Entry

namespace Node

/-- What there is in a node of the files `us` is divided at every level. -/
structure Divided (us : List Usage) (n : Node) : Prop where
  top : Entry.Divided us [] n.totalSize n.entries
  below : ∀ e ∈ Entry.preorder n.entries,
    Entry.Divided us (Path.segments e.path) e.size e.children

theorem Divided.isPercentage {us : List Usage} {n : Node} (h : Divided us n) {e : Entry}
    (he : e ∈ Entry.preorder n.entries) : e.percent.IsPercentage := by
  rcases Entry.mem_or_exists_parent he with top | ⟨parent, among, child⟩
  · exact h.top.isPercentage e top
  · exact (h.below parent among).isPercentage e child

theorem divided_of_under {us : List Usage} (nonneg : ∀ u ∈ us, 0 ≤ u.size) {n : Node}
    (size : n.totalSize = (Tally.ofUsages us).root.size)
    (made : Entry.under (Tally.ofUsages us) [] n.totalSize = .ok n.entries) : Divided us n := by
  have grown := Entry.grown_of_under made
  obtain ⟨top, below⟩ := Entry.shared_of_levels made
  rw [Usage.total_nil] at size
  refine ⟨?_, fun e he => ?_⟩
  · rw [size] at top ⊢
    exact grown.divided nonneg top
  · obtain ⟨r, placed, deeper⟩ := grown.exists_place he
    have shared := below e he
    rw [placed.size_eq] at shared ⊢
    rw [placed.segments_path]
    exact deeper.divided nonneg shared

variable {records : List RawRecord}

/-- Reading a record is all that can go wrong with a node. -/
theorem no_ratioOverflow (nonneg : ∀ r ∈ records, r.Nonneg) (id : NodeId) :
    ¬ MakingFault (Group.gather records id).records .ratioOverflow := by
  rintro (first | ⟨read, overflows⟩)
  · obtain ⟨r, -, fault⟩ := first.exists_mem
    cases fault
  · exact not_overflows (RawRecord.usages_nonneg nonneg (List.filter_subset_self _) read) overflows

theorem exists_divided (nonneg : ∀ r ∈ records, r.Nonneg) {id : NodeId} {us : List Usage}
    (read : (Group.gather records id).records.mapM RawRecord.usage = .ok us) :
    ∃ n, ofId records id = .ok n ∧ Divided us n := by
  have makeable : ∀ f, ¬ MakingFault (Group.gather records id).records f := by
    rintro f fault
    cases fault with
    | record first =>
      cases read.symm.trans (Attempt.mapM_eq_error.2
        ((Attempt.first_congr fun r _ f => RawRecord.usage_eq_error (f := f)).2 first))
    | ratio read overflows => exact no_ratioOverflow nonneg id (.ratio read overflows)
  obtain ⟨n, made⟩ := exists_ofId_iff.2 makeable
  obtain ⟨-, vs, read', size, entries⟩ := ofGroup_eq_ok made
  cases read.symm.trans read'
  have nonneg := RawRecord.usages_nonneg nonneg (List.filter_subset_self _) read
  exact ⟨n, made, divided_of_under nonneg size entries⟩

/-- Where no size is negative, no ratio overflows, the node of all records that can be read is
divided, and rows show percentages with one decimal. -/
theorem divided_of_nonneg (nonneg : ∀ r ∈ records, r.Nonneg) :
    report records ≠ .error .ratioOverflow ∧
    (∀ id us, (Group.gather records id).records.mapM RawRecord.usage = .ok us →
      ∃ n, ofId records id = .ok n ∧ Divided us n) ∧
    ∀ nodes, report records = .ok nodes →
      (∀ n ∈ nodes, ∃ us, (recordsOf records n).mapM RawRecord.usage = .ok us ∧ Divided us n) ∧
      ∀ zone x rows, Row.ofNodes zone x nodes = .ok rows → ∀ row ∈ rows, row.depth ≠ 0 →
        ∃ k ≤ 1000, row.percent = Binary64.tenthsText k ++ "%" := by
  refine ⟨fun failed => ?_, fun id us => exists_divided nonneg, fun nodes h => ?_⟩
  · rcases report_eq_error.1 failed with first | ⟨-, first⟩
    · obtain ⟨r, -, fault⟩ := first.exists_mem
      cases fault
    · obtain ⟨id, -, fault⟩ := first.exists_mem
      exact no_ratioOverflow nonneg id fault
  · have divided : ∀ n ∈ nodes,
        ∃ us, (recordsOf records n).mapM RawRecord.usage = .ok us ∧ Divided us n := by
      intro n hn
      obtain ⟨us, read, size, entries⟩ := exists_usages h hn
      have nonneg := RawRecord.usages_nonneg nonneg (List.filter_subset_self _) read
      exact ⟨us, read, divided_of_under nonneg size entries⟩
    refine ⟨divided, fun zone x rows made row hrow inner => ?_⟩
    obtain ⟨shown, about, within⟩ := List.sublistForall₂_iff.1 (Row.shows_nodes made)
    obtain ⟨⟨n, entry⟩, hs, shows⟩ := Attempt.exists_right_of_mem about hrow
    obtain ⟨hn, among⟩ := Row.mem_subjects.1 (within.subset hs)
    cases entry with
    | none =>
      obtain ⟨size, -, rfl⟩ := Row.nodeRow_eq_ok.1 shows
      exact absurd rfl inner
    | some e =>
      obtain ⟨depth, shows⟩ := shows
      obtain ⟨size, lastChanged, -, -, rfl⟩ := Row.entryRow_eq_ok.1 shows
      obtain ⟨us, -, divided⟩ := divided n hn
      obtain ⟨k, hk, text⟩ := (divided.isPercentage (among e rfl)).exists_oneDecimal
      exact ⟨k, hk, congrArg (· ++ "%") text⟩

/-- A folder with nothing but another one in it, a file that is next to nothing beside them, and a
folder of size zero. -/
def lopsided : List RawRecord :=
  [⟨some [7], some "disk", some "a/b/c", some 300000000000000000000000000000, none⟩,
    ⟨some [7], none, some "d", some 1, none⟩,
    ⟨some [7], none, some "e/f", some 0, none⟩]

theorem nonneg_lopsided : ∀ r ∈ lopsided, r.Nonneg := by
  intro r hr k hk
  have known : ∀ r ∈ lopsided, ∀ k ∈ r.size.toList, 0 ≤ k := by decide
  exact known r hr k (by simp [hk])

/-- What is next to nothing shows as zero, and what is all but everything as a hundred. -/
theorem divided_lopsided : ∃ nodes rows, report lopsided = .ok nodes ∧
    Row.ofNodes 0 .everything nodes = .ok rows ∧
    rows.map Row.percent = ["100%", "100.0%", "100.0%", "100.0%", "0.0%", "0.0%", "0.0%"] ∧
    (∀ n ∈ nodes, ∃ us, (recordsOf lopsided n).mapM RawRecord.usage = .ok us ∧ Divided us n) ∧
    ∀ row ∈ rows, row.depth ≠ 0 → ∃ k ≤ 1000, row.percent = Binary64.tenthsText k ++ "%" := by
  have made : (report lopsided >>= Row.ofNodes 0 .everything).toOption.map (List.map Row.percent) =
      some ["100%", "100.0%", "100.0%", "100.0%", "0.0%", "0.0%", "0.0%"] := by
    decide +kernel
  obtain ⟨rows, h, percents⟩ := Attempt.exists_of_map_toOption made
  obtain ⟨nodes, h, hrows⟩ := Attempt.bind_eq_ok.1 h
  obtain ⟨divided, shown⟩ := (divided_of_nonneg nonneg_lopsided).2.2 nodes h
  exact ⟨nodes, rows, h, hrows, percents, divided, shown 0 .everything rows hrows⟩

end Node

end UsageTree
