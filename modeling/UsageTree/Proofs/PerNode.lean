import UsageTree.Proofs.NodeRecords

/-!
# One node at a time

A node is made of the records with its id, and no other record has a part in it. A report is put
together from such nodes, so that records of other nodes can be taken away or moved without any
trace in a node, and where they stood shows at most in the order of nodes of one name.

## Main definitions

* `Node.Separate` — the nodes of a report do not see each other.

## Main statements

* `Node.report_related` — reports of the same records in another order.
* `Node.separate_of_report` — the nodes of every report are separate.
-/

namespace UsageTree.Node

/-! ## The ids of a report -/

theorem perm_ids {records : List RawRecord} {nodes : List Node}
    (h : report records = .ok nodes) :
    (nodes.map Node.id).Perm ((Group.ids records).map NodeId.display) := by
  obtain ⟨-, made, hmade, sorted⟩ := report_eq_ok.1 h
  rw [Attempt.map_eq_map_of_mapM hmade fun id n hn => (id_of_ofId hn).symm]
  exact (Collation.perm_sortBy sorted).map Node.id

/-- The nodes of a report show different ids. -/
theorem nodup_ids {records : List RawRecord} {nodes : List Node}
    (h : report records = .ok nodes) : (nodes.map Node.id).Nodup :=
  (perm_ids h).nodup_iff.2 ((Group.nodup_ids records).map NodeId.display_injective)

/-- The same records in another order, where each id still leads to a node that is related to the
one before. Names decide the order of nodes, so the reports are related place by place but for ties. -/
theorem report_related {records records' : List RawRecord} (perm : records.Perm records')
    {R : Node → Node → Prop} (named : ∀ n m, R n m → n.name = m.name)
    (related : ∀ id n, ofId records id = .ok n → ∃ m, ofId records' id = .ok m ∧ R n m)
    {nodes : List Node} (h : report records = .ok nodes) :
    ∃ nodes', report records' = .ok nodes' ∧
      ∃ mid, List.Forall₂ R nodes mid ∧ UpToTies Node.name mid nodes' := by
  obtain ⟨known, made, hmade, sorted⟩ := report_eq_ok.1 h
  have known' : ∀ r ∈ records', ∃ id, r.id = .ok id := fun r hr => known r (perm.mem_iff.2 hr)
  obtain ⟨made₁, hmade₁, alike⟩ :=
    Attempt.exists_mapM_of_related hmade fun id _ n hn => related id n hn
  obtain ⟨made₂, hmade₂, moved⟩ := Attempt.exists_mapM_of_perm hmade₁ (Group.perm_ids perm)
  obtain ⟨nodes', sorted', ties⟩ := Collation.sortBy_related named alike moved sorted
  exact ⟨nodes', report_eq_ok.2 ⟨known', made₂, hmade₂, sorted'⟩, ties⟩

/-! ## Separation -/

/-- The nodes of a report see nothing of each other. -/
structure Separate (records : List RawRecord) (nodes : List Node) : Prop where
  /-- There is one node for every id of a record. -/
  one : ∃ ids : List NodeId, ids.Nodup ∧ (∀ id, id ∈ ids ↔ ∃ r ∈ records, r.id = .ok id) ∧
    (nodes.map Node.id).Perm (ids.map NodeId.display)
  nodup_ids : (nodes.map Node.id).Nodup
  /-- A node is the whole report of the records with its id. -/
  alone : ∀ id, ∀ n ∈ nodes, n.id = id.display →
    report (records.filter fun r => r.id = .ok id) = .ok [n]
  /-- The same records, with those of each id in the same order, give the same nodes. -/
  interleaved : ∀ records', records.Perm records' →
    (∀ id, (records.filter fun r => r.id = .ok id) = records'.filter fun r => r.id = .ok id) →
      ∃ nodes', report records' = .ok nodes' ∧ UpToTies Node.name nodes nodes'

/-- The records with an id have a report if they have one among others: their node alone. -/
theorem report_filter {records : List RawRecord} {nodes : List Node}
    (h : report records = .ok nodes) {n : Node} (hn : n ∈ nodes) {id : NodeId}
    (shown : n.id = id.display) : report (records.filter fun r => r.id = .ok id) = .ok [n] := by
  obtain ⟨id', hid, made⟩ := exists_id_of_mem h hn
  obtain rfl : id' = id := NodeId.display_injective ((id_of_ofId made).symm.trans shown)
  obtain ⟨r, hr, hrid⟩ := Group.mem_ids.1 hid
  have only : Group.ids (records.filter fun r => r.id = .ok id') = [id'] := by
    refine (List.perm_singleton.1 ((List.perm_ext_iff_of_nodup (Group.nodup_ids _)
      (List.nodup_singleton id')).2 fun id => ?_))
    rw [Group.mem_ids, List.mem_singleton]
    constructor
    · rintro ⟨r, hr, hrid⟩
      have own : r.id = .ok id' := by simpa using (List.mem_filter.1 hr).2
      exact Except.ok.inj (hrid.symm.trans own)
    · rintro rfl
      exact ⟨r, List.mem_filter.2 ⟨hr, by simpa using hrid⟩, hrid⟩
  have gathered : Group.gather (records.filter fun r => r.id = .ok id') id' =
      Group.gather records id' := by
    simp [Group.gather]
  obtain ⟨-, all, hall, sorted⟩ := report_eq_ok.1 h
  have clean := (Collation.sortBy_eq_ok.1 sorted).1 n
    ((Collation.perm_sortBy sorted).mem_iff.1 hn)
  refine report_eq_ok.2 ⟨fun r hr => ?_, [n], ?_, ?_⟩
  · exact ⟨id', by simpa using (List.mem_filter.1 hr).2⟩
  · rw [only]
    exact Attempt.mapM_eq_ok.2 (.cons (by rw [ofId, gathered]; exact made) .nil)
  · exact Collation.sortBy_eq_ok.2 ⟨by simpa using clean, rfl⟩

/-- The nodes of a report see nothing of each other. -/
theorem separate_of_report {records : List RawRecord} {nodes : List Node}
    (h : report records = .ok nodes) : Separate records nodes where
  one := ⟨Group.ids records, Group.nodup_ids records, fun _ => Group.mem_ids, perm_ids h⟩
  nodup_ids := nodup_ids h
  alone _ _ hn shown := report_filter h hn shown
  interleaved records' perm same := by
    have unchanged : ∀ id n, ofId records id = .ok n → ∃ m, ofId records' id = .ok m ∧ n = m := by
      intro id n hn
      refine ⟨n, ?_, rfl⟩
      rw [← hn, ofId, ofId, Group.gather, Group.gather, same id]
    obtain ⟨nodes', h', mid, placed, ties⟩ :=
      report_related perm (fun _ _ => congrArg Node.name) unchanged h
    rw [List.forall₂_eq_eq_eq] at placed
    subst placed
    exact ⟨nodes', h', ties⟩

/-- Records of three nodes in turn; two nodes have one name, and one has the empty id. -/
def mingled : List RawRecord :=
  [⟨some [7], some "disk", some "a/b", some 3, none⟩,
    ⟨some [], some "disk", some "a", some 5, none⟩,
    ⟨some [7], none, some "a", some 2, some "2024-01-03"⟩,
    ⟨some [8, 9], none, some "c", some 1, none⟩,
    ⟨some [], some "", some "a/b", some 4, none⟩]

/-- Two nodes of one name stay apart. -/
theorem separate_mingled : ∃ nodes, report mingled = .ok nodes ∧ nodes.length = 3 ∧
    Separate mingled nodes := by
  have made : (report mingled).toOption.map List.length = some 3 := by decide +kernel
  obtain ⟨nodes, h, three⟩ := Attempt.exists_of_map_toOption made
  exact ⟨nodes, h, three, separate_of_report h⟩

end UsageTree.Node
