import UsageTree.Proofs.Acceptance
import UsageTree.Proofs.Conservation
import UsageTree.Proofs.Overflow

/-!
# Why a report cannot be made

Records are asked for their ids before any node is made, nodes are made before any names are
compared. The first of these steps that goes wrong decides, and in it the first record or node. What
goes wrong with a node is a record that lacks a field, or else a total that has no finite ratio to
the total above it.

## Main definitions

* `RawRecord.IdFault`, `RawRecord.UsageFault` — what is wrong with a record.
* `Usage.Overflows` — some total has no finite ratio to the total above it.
* `Node.MakingFault`, `Node.ReportFault` — what keeps a node and a report from being made.

## Main statements

* `Entry.under_eq_error` — entries fail for ratios alone.
* `Node.report_eq_error` — reports fail for these faults alone.
* `Node.report_toRaw_eq_error` — of accepted records only names can be wrong.
-/

namespace UsageTree

open UsageTree.Path UsageTree.Usage

/-! ## Records -/

theorem NodeId.ofInts?_eq_none {ns : List Int} :
    ofInts? ns = none ↔ ∃ n ∈ ns, n < 0 ∨ 255 < n := by
  have byte (n : Int) : byte? n = none ↔ n < 0 ∨ 255 < n := by
    rw [← Option.not_isSome_iff_eq_none, byte?_isSome]
    omega
  rw [ofInts?, Option.map_eq_none_iff]
  induction ns with
  | nil => simp
  | cons n ns ih =>
    rw [List.mapM_cons, List.exists_mem_cons_iff, ← byte n]
    cases byte? n with
    | none => simp
    | some b => cases h : ns.mapM byte? <;> simpa [h] using ih

namespace RawRecord

/-- What keeps the id of a record from being read. -/
inductive IdFault (r : RawRecord) : Fault → Prop where
  | missing (none : r.nodeId = none) : IdFault r (.missingField .nodeId)
  | range {ns : List Int} (some : r.nodeId = some ns) {n : Int} (mem : n ∈ ns)
    (out : n < 0 ∨ 255 < n) : IdFault r .byteRange

/-- What keeps the usage of a record from being read. -/
inductive UsageFault (r : RawRecord) : Fault → Prop where
  | path (none : r.path = none) : UsageFault r (.missingField .path)
  | size {path : Text} (some : r.path = some path) (none : r.size = none) :
    UsageFault r (.missingField .size)

variable {r : RawRecord} {f : Fault}

theorem id_eq_error : r.id = .error f ↔ IdFault r f := by
  unfold RawRecord.id
  constructor
  · intro h
    split at h
    · rename_i ns some
      rw [NodeId.ofInts] at h
      split at h
      · cases h
      · rename_i unread
        cases h
        obtain ⟨n, mem, out⟩ := NodeId.ofInts?_eq_none.1 unread
        exact .range some mem out
    · rename_i none
      cases h
      exact .missing none
  · rintro (none | ⟨some, mem, out⟩)
    · rw [none]
    · rw [some]
      dsimp only
      rw [NodeId.ofInts, NodeId.ofInts?_eq_none.2 ⟨_, mem, out⟩]

theorem usage_eq_error : r.usage = .error f ↔ UsageFault r f := by
  unfold RawRecord.usage
  constructor
  · intro h
    split at h
    · cases h
    · rename_i some none
      cases h
      exact .size some none
    · rename_i none
      cases h
      exact .path none
  · rintro (none | ⟨some, none⟩)
    · rw [none]
    · rw [some, none]

/-- The record gives no negative size. -/
def Nonneg (r : RawRecord) : Prop := ∀ k, r.size = some k → 0 ≤ k

/-- Where no record gives a negative size, the usage of none of them has one. -/
theorem usages_nonneg {records part : List RawRecord} (nonneg : ∀ r ∈ records, r.Nonneg)
    (sub : part ⊆ records) {us : List Usage} (read : part.mapM usage = .ok us) :
    ∀ u ∈ us, 0 ≤ u.size := by
  intro u hu
  obtain ⟨r, hr, found⟩ := Attempt.exists_of_mem_mapM read hu
  refine nonneg r (sub hr) u.size ?_
  unfold usage at found
  split at found <;> cases found
  assumption

end RawRecord

theorem FileRecord.nonneg_toRaw {files : List FileRecord} (nonneg : ∀ r ∈ files, 0 ≤ r.size) :
    ∀ r ∈ files.map toRaw, r.Nonneg := by
  intro raw hraw k hk
  obtain ⟨r, hr, rfl⟩ := List.mem_map.1 hraw
  cases hk
  exact nonneg r hr

/-! ## Ratios -/

namespace Usage

/-- What the files at or below a path take up together. -/
def total (us : List Usage) (p : List Text) : Int := ((reaching us p).map Usage.size).sum

theorem total_nil (us : List Usage) : (Tally.ofUsages us).root.size = total us [] := by
  rw [Tally.root_ofUsages, total, reaching_nil, Summary.of]

/-- The total of a path has a finite ratio to the total of the path one segment shorter, if that is
not zero. -/
def Finite (us : List Usage) (p : List Text) (s : Text) : Prop :=
  total us p ≠ 0 → (Binary64.quotient (total us (p ++ [s])) (total us p)).isFinite

/-- Some path of a file has a total without a finite ratio to the total above it. -/
def Overflows (us : List Usage) : Prop :=
  ∃ p, ∃ s ∈ heads us p, ¬ Finite us p s

theorem total_le {us : List Usage} (nonneg : ∀ u ∈ us, 0 ≤ u.size) (p q : List Text) :
    total us (p ++ q) ≤ total us p := by
  have part : (reaching us (p ++ q)).Sublist (reaching us p) :=
    List.monotone_filter_right us fun u h => by
      simpa using (List.prefix_append p q).trans (of_decide_eq_true h)
  refine (part.map Usage.size).sum_le_sum fun k hk => ?_
  obtain ⟨u, hu, rfl⟩ := List.mem_map.1 hk
  exact nonneg u (mem_reaching.1 hu).1

/-- Where no size is negative, all ratios are finite. -/
theorem not_overflows {us : List Usage} (nonneg : ∀ u ∈ us, 0 ≤ u.size) : ¬ Overflows us := by
  rintro ⟨p, s, -, overflow⟩
  refine overflow fun some => Binary64.isFinite_quotient_of_le ?_ (total_le nonneg p [s]) some
  exact sum_sizes_nonneg nonneg (List.filter_subset_self us)

end Usage

/-- Where no size is negative, an entry is no larger than its node, and has no more files than there
are records. -/
theorem Node.entry_bounds {records : List RawRecord} {nodes : List Node}
    (nonneg : ∀ r ∈ records, r.Nonneg) (h : report records = .ok nodes) {n : Node}
    (hn : n ∈ nodes) :
    0 ≤ n.totalSize ∧ ∀ e ∈ Entry.preorder n.entries,
      0 ≤ e.size ∧ e.size ≤ n.totalSize ∧ e.itemCount ≤ records.length := by
  obtain ⟨us, hus, hsize, hentries⟩ := exists_usages h hn
  have sizes : ∀ u ∈ us, 0 ≤ u.size :=
    RawRecord.usages_nonneg nonneg (List.filter_subset_self _) hus
  have nonneg (p : List Text) : 0 ≤ total us p :=
    sum_sizes_nonneg sizes (List.filter_subset_self us)
  have whole : n.totalSize = total us [] := hsize.trans (total_nil us)
  refine ⟨whole ▸ nonneg [], fun e he => ?_⟩
  obtain ⟨p, placed, -⟩ := (Entry.grown_of_under hentries).exists_place he
  have size : e.size = total us (p ++ [e.name]) := placed.size_eq
  have count : e.itemCount = (reaching us (p ++ [e.name])).length :=
    congrArg Summary.itemCount placed.summary_eq
  refine ⟨size ▸ nonneg _, ?_, ?_⟩
  · rw [size, whole]
    exact total_le sizes [] (p ++ [e.name])
  · calc e.itemCount ≤ us.length := count ▸ List.length_filter_le ..
      _ = (recordsOf records n).length := (Attempt.mapM_eq_ok.1 hus).length_eq.symm
      _ ≤ records.length := List.length_filter_le ..

namespace Entry

theorem exists_share {size total : Int} :
    (∃ x, share size total = .ok x) ↔ (total ≠ 0 → (Binary64.quotient size total).isFinite) := by
  unfold share
  by_cases zero : total = 0
  · simp [zero]
  · simp [zero, Attempt.ite_eq_ok]

theorem exists_assemble_iff {path name : Text} {sum : Summary} {total : Int}
    {below : Except Fault (List Entry)} :
    (∃ e, assemble path name sum total below = .ok e) ↔
      (∃ x, share sum.size total = .ok x) ∧ ∃ es, below = .ok es := by
  unfold assemble
  cases share sum.size total <;> cases below <;> simp [pure, Except.pure]

/-- Where the levels suffice, the entries below a path can be made if all ratios there are finite. -/
theorem exists_levels_iff {us : List Usage} {p : List Text} (hp : ∀ s ∈ p, IsSegment s) {fuel : Nat}
    (enough : Within us p fuel) :
    (∃ es, levels (Tally.ofUsages us) fuel (joined p) (total us p) = .ok es) ↔
      ∀ q, p <+: q → ∀ s ∈ heads us q, Finite us q s := by
  induction fuel generalizing p with
  | zero => exact absurd enough.pos (Nat.lt_irrefl 0)
  | succ fuel ih =>
    have step : ∀ s ∈ heads us p, (∃ e, grow us p fuel (total us p) s = .ok e) ↔
        Finite us p s ∧ ∀ q, p ++ [s] <+: q → ∀ t ∈ heads us q, Finite us q t := by
      intro s hs
      rw [← ih (isSegment_of_mem_heads hs) (enough.step hs), grow, exists_assemble_iff,
        exists_share]
      rfl
    rw [levels_succ us hp, Attempt.exists_mapM_iff]
    constructor
    · intro made q hq t ht
      obtain ⟨rest, rfl⟩ := hq
      cases rest with
      | nil =>
        rw [List.append_nil] at ht ⊢
        exact ((step t ht).1 (made t (mem_arranged.2 ht))).1
      | cons s rest =>
        have along : p ++ s :: rest = p ++ [s] ++ rest := by simp
        have hs : s ∈ heads us p := by
          obtain ⟨u, hu, beginning⟩ := mem_heads.1 ht
          rw [along, List.append_assoc] at beginning
          exact mem_heads.2 ⟨u, hu, (List.prefix_append _ _).trans beginning⟩
        exact ((step s hs).1 (made s (mem_arranged.2 hs))).2 _ ⟨rest, along.symm⟩ t ht
    · intro finite s hs
      have hs := mem_arranged.1 hs
      exact (step s hs).2 ⟨finite p List.prefix_rfl s hs, fun q hq =>
        finite q ((List.prefix_append p [s]).trans hq)⟩

/-- Entries cannot be made if some ratio is not finite, and for no other reason. -/
theorem under_eq_error {us : List Usage} {f : Fault} :
    under (Tally.ofUsages us) [] (Tally.ofUsages us).root.size = .error f ↔
      f = .ratioOverflow ∧ Overflows us := by
  have made := exists_levels_iff (p := []) (by simp) (within_root us)
  rw [total_nil]
  constructor
  · intro h
    refine ⟨levels_eq_error (p := []) (by simp) (within_root us) h, ?_⟩
    by_contra finite
    obtain ⟨es, hes⟩ := made.2 fun q _ s hs => by_contra fun h => finite ⟨q, s, hs, h⟩
    cases hes.symm.trans h
  · rintro ⟨rfl, q, s, hs, overflow⟩
    cases h : under (Tally.ofUsages us) [] (total us []) with
    | ok es => exact absurd (made.1 ⟨es, h⟩ q List.nil_prefix s hs) overflow
    | error f => rw [levels_eq_error (p := []) (by simp) (within_root us) h]

end Entry

/-! ## Nodes -/

namespace Node

/-- What keeps a node from being made of its records. -/
inductive MakingFault (records : List RawRecord) : Fault → Prop where
  | record {f : Fault} (first : Attempt.First RawRecord.UsageFault records f) :
    MakingFault records f
  | ratio {us : List Usage} (read : records.mapM RawRecord.usage = .ok us)
    (overflows : Overflows us) : MakingFault records .ratioOverflow

theorem ofGroup_eq_error {g : Group} {f : Fault} :
    ofGroup g = .error f ↔ MakingFault g.records f := by
  have asked : g.records.mapM RawRecord.usage = .error f ↔
      Attempt.First RawRecord.UsageFault g.records f :=
    Attempt.mapM_eq_error.trans (Attempt.first_congr fun r _ _ => RawRecord.usage_eq_error)
  have made {us : List Usage} : (do
      let entries ← Entry.under (Tally.ofUsages us) [] (Tally.ofUsages us).root.size
      return (⟨g.name, g.id.display, (Tally.ofUsages us).root.size, entries⟩ : Node)) =
        .error f ↔ f = .ratioOverflow ∧ Overflows us := by
    rw [← Entry.under_eq_error, Attempt.bind_eq_error]
    simp [pure, Except.pure]
  rw [ofGroup, Attempt.bind_eq_error, asked]
  simp only [made]
  constructor
  · rintro (first | ⟨us, read, rfl, overflows⟩)
    · exact .record first
    · exact .ratio read overflows
  · rintro (first | ⟨read, overflows⟩)
    · exact .inl first
    · exact .inr ⟨_, read, rfl, overflows⟩

/-! ## Reports -/

/-- What keeps a report from being made: an id, if there is one that cannot be read, else a node, if
there is one that cannot be made, else a name. -/
inductive ReportFault (records : List RawRecord) : Fault → Prop where
  | id {f : Fault} (first : Attempt.First RawRecord.IdFault records f) : ReportFault records f
  | node (read : ∀ r ∈ records, ∀ f, ¬ r.IdFault f) {f : Fault}
    (first : Attempt.First (fun id => MakingFault (Group.gather records id).records)
      (Group.ids records) f) : ReportFault records f
  | name (read : ∀ r ∈ records, ∀ f, ¬ r.IdFault f)
    (made : ∀ id ∈ Group.ids records, ∀ f, ¬ MakingFault (Group.gather records id).records f)
    {id : NodeId} (mem : id ∈ Group.ids records)
    (nul : ('\x00' : CodePoint) ∈ (Group.gather records id).name) :
    ReportFault records .embeddedNul

section

variable {records : List RawRecord} {f : Fault}

theorem ofRecords_eq_error : Group.ofRecords records = .error f ↔
    Attempt.First RawRecord.IdFault records f := by
  have asked (r : RawRecord) (f : Fault) : Group.keyed r = .error f ↔ r.IdFault f := by
    rw [← RawRecord.id_eq_error, Group.keyed]
    cases r.id <;> simp [pure, Except.pure]
  rw [Group.ofRecords, Attempt.bind_eq_error, Attempt.mapM_eq_error,
    Attempt.first_congr fun r _ f => asked r f]
  simp [pure, Except.pure]

theorem exists_id_iff {r : RawRecord} : (∃ id, r.id = .ok id) ↔ ∀ f, ¬ r.IdFault f := by
  simp only [← RawRecord.id_eq_error, Attempt.exists_eq_ok_iff, ne_eq]

theorem exists_ofId_iff {id : NodeId} : (∃ n, ofId records id = .ok n) ↔
    ∀ f, ¬ MakingFault (Group.gather records id).records f := by
  simp only [← ofGroup_eq_error, ofId, Attempt.exists_eq_ok_iff, ne_eq]

/-- A report cannot be made for these faults, and for no other reason. -/
theorem report_eq_error : report records = .error f ↔ ReportFault records f := by
  have made : (Group.ids records).mapM (ofId records) = .error f ↔
      Attempt.First (fun id => MakingFault (Group.gather records id).records)
        (Group.ids records) f :=
    Attempt.mapM_eq_error.trans (Attempt.first_congr fun id _ _ => ofGroup_eq_error)
  constructor
  · intro h
    cases read : Group.ofRecords records with
    | error g =>
      rw [report, read] at h
      cases h
      exact .id (ofRecords_eq_error.1 read)
    | ok groups =>
      have read := (Group.ofRecords_eq_ok.1 read).1
      have clean : ∀ r ∈ records, ∀ f, ¬ r.IdFault f := fun r hr => exists_id_iff.1 (read r hr)
      rw [report_eq read] at h
      rcases Attempt.bind_eq_error.1 h with h | ⟨nodes, hnodes, h⟩
      · exact .node clean (made.1 h)
      · obtain ⟨rfl, n, hn, nul⟩ := Collation.sortBy_eq_error.1 h
        obtain ⟨id, hid, hn⟩ := Attempt.exists_of_mem_mapM hnodes hn
        rw [name_of_ofId hn] at nul
        refine .name clean (fun id hid => exists_ofId_iff.1 ?_) hid nul
        exact Attempt.exists_mapM_iff.1 ⟨nodes, hnodes⟩ id hid
  · rintro (first | ⟨clean, first⟩ | ⟨clean, makeable, hid, nul⟩)
    · rw [report, ofRecords_eq_error.2 first]
      rfl
    · rw [report_eq fun r hr => exists_id_iff.2 (clean r hr), made.2 first]
      rfl
    · rw [report_eq fun r hr => exists_id_iff.2 (clean r hr)]
      obtain ⟨nodes, hnodes⟩ :=
        Attempt.exists_mapM_iff.2 fun id hid => exists_ofId_iff.2 (makeable id hid)
      obtain ⟨n, hn, made⟩ := Attempt.exists_result_of_mem hnodes hid
      rw [hnodes]
      exact Collation.sortBy_eq_error.2 ⟨rfl, n, hn, name_of_ofId made ▸ nul⟩

/-- A report of complete records with sizes that are not negative fails for a name with a NUL, and
for no other reason. -/
theorem report_toRaw_eq_error {files : List FileRecord} (nonneg : ∀ r ∈ files, 0 ≤ r.size) :
    report (files.map FileRecord.toRaw) = .error f ↔ f = .embeddedNul ∧
      ∃ id ∈ Group.ids (files.map FileRecord.toRaw),
        ('\x00' : CodePoint) ∈ (Group.gather (files.map FileRecord.toRaw) id).name := by
  have read : ∀ r ∈ files.map FileRecord.toRaw, ∀ f, ¬ r.IdFault f := by
    intro r hr
    obtain ⟨r, -, rfl⟩ := List.mem_map.1 hr
    exact exists_id_iff.1 ⟨r.nodeId, r.id_toRaw⟩
  have made : ∀ id f, ¬ MakingFault (Group.gather (files.map FileRecord.toRaw) id).records f := by
    have own (id : NodeId) :
        (Group.gather (files.map FileRecord.toRaw) id).records ⊆ files.map FileRecord.toRaw :=
      List.filter_subset_self _
    rintro id f (first | ⟨usages, overflows⟩)
    · obtain ⟨raw, hraw, fault⟩ := first.exists_mem
      obtain ⟨r, -, rfl⟩ := List.mem_map.1 (own id hraw)
      cases r.usage_toRaw.symm.trans (RawRecord.usage_eq_error.2 fault)
    · have nonneg := FileRecord.nonneg_toRaw nonneg
      exact not_overflows (RawRecord.usages_nonneg nonneg (own id) usages) overflows
  rw [report_eq_error]
  constructor
  · rintro (first | ⟨-, first⟩ | ⟨-, -, hid, nul⟩)
    · obtain ⟨r, hr, fault⟩ := first.exists_mem
      exact absurd fault (read r hr f)
    · obtain ⟨id, -, fault⟩ := first.exists_mem
      exact absurd fault (made id f)
    · exact ⟨rfl, _, hid, nul⟩
  · rintro ⟨rfl, id, hid, nul⟩
    exact .name read (fun id _ => made id) hid nul

/-- Reports fail for the faults of records, of nodes and of names, in this order, and for accepted
records only for names. -/
theorem report_fails_iff :
    (∀ records f, report records = .error f ↔ ReportFault records f) ∧
    ∀ files : List FileRecord, (∀ r ∈ files, ∃ limit v, FileRecord.ofJson limit v = .ok r) →
      ∀ f, report (files.map FileRecord.toRaw) = .error f ↔ f = .embeddedNul ∧
        ∃ id ∈ Group.ids (files.map FileRecord.toRaw),
          ('\x00' : CodePoint) ∈ (Group.gather (files.map FileRecord.toRaw) id).name := by
  refine ⟨fun _ _ => report_eq_error, fun files accepted _ => report_toRaw_eq_error ?_⟩
  intro r hr
  obtain ⟨limit, v, accepted⟩ := accepted r hr
  exact FileRecord.size_nonneg accepted

/-- Three things are wrong here: a name, a record without a size, and one without a path. -/
def competing : List RawRecord :=
  [⟨some [7], some "a\x00b", some "/", some 1, none⟩,
    ⟨some [8], none, some "b", none, none⟩,
    ⟨some [8], none, none, some 1, none⟩]

/-- A record that is accepted, with a NUL in the name of its node. -/
def unnameable : FileRecord := ⟨⟨[7]⟩, some "a\x00b", "a", 1, none⟩

theorem report_fails_competing :
    ReportFault competing (.missingField .size) ∧
    report ([unnameable].map FileRecord.toRaw) = .error .embeddedNul := by
  have accepted : ∀ r ∈ [unnameable], ∃ limit v, FileRecord.ofJson limit v = .ok r := by
    intro r hr
    obtain rfl := List.mem_singleton.1 hr
    exact ⟨1, .object [("node_id", .text "07"), ("node_name", .text "a\x00b"),
      ("path", .text "a"), ("size", .int 1)], rfl⟩
  refine ⟨(report_fails_iff.1 competing _).1 rfl, ?_⟩
  exact (report_fails_iff.2 [unnameable] accepted .embeddedNul).2
    ⟨rfl, ⟨[7]⟩, by decide, by decide⟩

end

end Node

end UsageTree
