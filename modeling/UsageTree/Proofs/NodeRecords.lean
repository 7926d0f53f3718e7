import Mathlib.Data.List.Forall2
import UsageTree.Node
import UsageTree.Proofs.Attempt
import UsageTree.Proofs.Filling
import UsageTree.Proofs.NameOrder

/-!
# The records of a node

A report that succeeds has asked every record for its id, has gathered the records by these ids, and
has ordered the nodes that came of it. A node can be traced back to its records by the id that it
shows.

## Main definitions

* `Group.ids`, `Group.gather` — the ids of records, and the records with one id.
* `Node.ofId` — the node of the records with an id.
* `Node.recordsOf` — the records of a node, found by the id that it shows.

## Main statements

* `Group.ofRecords_eq_ok` — the groups in full.
* `Node.report_eq_ok` — a report in terms of its ids.
* `Node.report_map` — the report of changed records.
* `Node.exists_usages` — what a node of a report is made of.
-/

namespace UsageTree

theorem Hex.encode_injective : Function.Injective Hex.encode := by
  intro as bs h
  have read := congrArg Hex.decode? h
  rw [Hex.decode?_encode, Hex.decode?_encode] at read
  exact Option.some.inj read

/-! ## Ids as they are shown -/

namespace NodeId

/-- The word for the empty id is not read as digits. -/
theorem hex_ne_unknown (id : NodeId) : id.hex ≠ ("unknown" : Text) := by
  intro h
  have read := congrArg Hex.decode? h
  rw [hex, Hex.decode?_encode] at read
  have unread : Hex.decode? ("unknown" : Text) = none := by decide
  rw [unread] at read
  cases read

/-- Different ids are shown differently. -/
theorem display_injective : Function.Injective display := by
  intro ⟨as⟩ ⟨bs⟩ h
  unfold display at h
  dsimp only at h
  split at h
  · split at h
    · simp_all
    · exact absurd h.symm (hex_ne_unknown _)
  · split at h
    · exact absurd h (hex_ne_unknown _)
    · exact congrArg NodeId.mk (Hex.encode_injective h)

end NodeId

/-! ## Groups -/

namespace Group

/-- The ids of records, in the order in which they are met. -/
def ids (records : List RawRecord) : List NodeId :=
  (records.filterMap fun r => r.id.toOption).eraseDups

/-- The group of the records with an id. -/
def gather (records : List RawRecord) (id : NodeId) : Group :=
  ⟨id, records.filter fun r => r.id = .ok id⟩

theorem givenName?_eq_some {r : RawRecord} {s : Text} :
    givenName? r = some s ↔ r.nodeName = some s ∧ s ≠ [] := by
  simp [givenName?, Option.filter_eq_some_iff]

variable {records records' : List RawRecord}

theorem mem_ids {id : NodeId} : id ∈ ids records ↔ ∃ r ∈ records, r.id = .ok id := by
  simp only [ids, List.mem_eraseDups, List.mem_filterMap, Attempt.toOption_eq_some]

theorem nodup_ids (records : List RawRecord) : (ids records).Nodup := FirstSeen.nodup_eraseDups _

theorem perm_ids (perm : records.Perm records') : (ids records).Perm (ids records') :=
  FirstSeen.perm_eraseDups (perm.filterMap _)

theorem keyed_eq_ok {r : RawRecord} {p : NodeId × RawRecord} :
    keyed r = .ok p ↔ r.id = .ok p.1 ∧ r = p.2 := by
  obtain ⟨id, r'⟩ := p
  unfold keyed
  cases r.id <;> simp [pure, Except.pure]

/-- The ids under which records stand are those that they have. -/
theorem map_fst_keyed {pairs : List (NodeId × RawRecord)} (h : records.mapM keyed = .ok pairs) :
    pairs.map Prod.fst = records.filterMap fun r => r.id.toOption := by
  have idOf : ∀ r p, keyed r = .ok p → r.id.toOption = some p.1 := fun r p hp =>
    Attempt.toOption_eq_some.2 (keyed_eq_ok.1 hp).1
  have read := congrArg (List.filterMap fun o => o) (Attempt.map_eq_map_of_mapM h idOf)
  simpa [List.filterMap_map, Function.comp_def] using read.symm

/-- The records found under an id are those that have it. -/
theorem filter_keyed {pairs : List (NodeId × RawRecord)} (h : records.mapM keyed = .ok pairs)
    (id : NodeId) :
    (pairs.filter fun p => p.1 = id).map Prod.snd = records.filter fun r => r.id = .ok id := by
  have steps := Attempt.mapM_eq_ok.1 h
  clear h
  induction steps with
  | nil => rfl
  | @cons r p records pairs hp steps ih =>
    obtain ⟨hid, rfl⟩ := keyed_eq_ok.1 hp
    by_cases same : p.1 = id
    · subst same
      simp [hid, ih]
    · have other : p.2.id ≠ .ok id := fun e => same (Except.ok.inj (hid.symm.trans e))
      simp [same, other, ih]

theorem ofKeyed_eq {pairs : List (NodeId × RawRecord)} (h : records.mapM keyed = .ok pairs) :
    ofKeyed pairs = (ids records).map (gather records) := by
  have read := congrArg (List.map fun e => Group.mk e.1 e.2) (Table.entries_collect pairs)
  rw [List.map_map, List.map_map, map_fst_keyed h] at read
  simp only [Function.comp_def, filter_keyed h] at read
  exact read

/-- Records can be divided if each of them has an id, and are then gathered by it. -/
theorem ofRecords_eq_ok {groups : List Group} : ofRecords records = .ok groups ↔
    (∀ r ∈ records, ∃ id, r.id = .ok id) ∧ groups = (ids records).map (gather records) := by
  constructor
  · intro h
    obtain ⟨pairs, hpairs, h⟩ := Attempt.bind_eq_ok.1 h
    cases h
    refine ⟨fun r hr => ?_, ofKeyed_eq hpairs⟩
    obtain ⟨p, -, hp⟩ := Attempt.exists_result_of_mem hpairs hr
    exact ⟨p.1, (keyed_eq_ok.1 hp).1⟩
  · rintro ⟨known, rfl⟩
    have keys : ∀ r ∈ records, ∃ p, keyed r = .ok p := by
      intro r hr
      obtain ⟨id, hid⟩ := known r hr
      exact ⟨(id, r), keyed_eq_ok.2 ⟨hid, rfl⟩⟩
    obtain ⟨pairs, hpairs⟩ := Attempt.exists_mapM_iff.2 keys
    exact Attempt.bind_eq_ok.2 ⟨pairs, hpairs, congrArg Except.ok (ofKeyed_eq hpairs)⟩

end Group

/-! ## Nodes -/

namespace Node

/-- The records of a node: those whose id is shown as its own. -/
def recordsOf (records : List RawRecord) (n : Node) : List RawRecord :=
  records.filter fun r => r.id.map NodeId.display = .ok n.id

theorem ofGroup_eq_ok {g : Group} {n : Node} (h : ofGroup g = .ok n) :
    n.id = g.id.display ∧ ∃ us, g.records.mapM RawRecord.usage = .ok us ∧
      n.totalSize = (Tally.ofUsages us).root.size ∧
      Entry.under (Tally.ofUsages us) [] n.totalSize = .ok n.entries := by
  obtain ⟨us, hus, h⟩ := Attempt.bind_eq_ok.1 h
  obtain ⟨entries, hentries, h⟩ := Attempt.bind_eq_ok.1 h
  cases h
  exact ⟨rfl, us, hus, rfl, hentries⟩

/-- The node of the records with an id. -/
def ofId (records : List RawRecord) (id : NodeId) : Except Fault Node :=
  ofGroup (Group.gather records id)

theorem id_of_ofId {records : List RawRecord} {id : NodeId} {n : Node}
    (h : ofId records id = .ok n) : n.id = id.display := (ofGroup_eq_ok h).1

theorem name_of_ofId {records : List RawRecord} {id : NodeId} {n : Node}
    (h : ofId records id = .ok n) : n.name = (Group.gather records id).name := by
  obtain ⟨us, -, h⟩ := Attempt.bind_eq_ok.1 h
  obtain ⟨entries, -, h⟩ := Attempt.bind_eq_ok.1 h
  cases h
  rfl

/-- A report consists of one node for every id, in the order of names. -/
theorem report_eq_ok {records : List RawRecord} {nodes : List Node} :
    report records = .ok nodes ↔ (∀ r ∈ records, ∃ id, r.id = .ok id) ∧
      ∃ made, (Group.ids records).mapM (ofId records) = .ok made ∧
        Collation.sortBy Node.name made = .ok nodes := by
  have by_id : ((Group.ids records).map (Group.gather records)).mapM ofGroup =
      (Group.ids records).mapM (ofId records) := List.mapM_map
  constructor
  · intro h
    obtain ⟨groups, hgroups, h⟩ := Attempt.bind_eq_ok.1 h
    obtain ⟨made, hmade, sorted⟩ := Attempt.bind_eq_ok.1 h
    obtain ⟨known, rfl⟩ := Group.ofRecords_eq_ok.1 hgroups
    exact ⟨known, made, by_id ▸ hmade, sorted⟩
  · rintro ⟨known, made, hmade, sorted⟩
    refine Attempt.bind_eq_ok.2 ⟨_, Group.ofRecords_eq_ok.2 ⟨known, rfl⟩, ?_⟩
    exact Attempt.bind_eq_ok.2 ⟨made, by_id ▸ hmade, sorted⟩

/-- Where all ids can be read, a report is made of the nodes of the ids. -/
theorem report_eq {records : List RawRecord} (read : ∀ r ∈ records, ∃ id, r.id = .ok id) :
    report records = (Group.ids records).mapM (ofId records) >>= Collation.sortBy Node.name := by
  rw [report, Group.ofRecords_eq_ok.2 ⟨read, rfl⟩, Attempt.ok_bind, List.mapM_map]
  rfl

/-- A change of records that leaves their ids alone, and changes the node of a group but not its
name, changes the nodes of a report and nothing else. Ids are read before any node is made, so that
their failure is the failure of both reports. -/
theorem report_map {c : RawRecord → RawRecord} {g : Node → Node} (id_eq : ∀ r, (c r).id = r.id)
    (name_eq : ∀ n, (g n).name = n.name)
    (made : ∀ id records, ofGroup ⟨id, records.map c⟩ = (ofGroup ⟨id, records⟩).map g)
    (records : List RawRecord) : report (records.map c) = (report records).map (List.map g) := by
  have keyed (r : RawRecord) : Group.keyed (c r) = (Group.keyed r).map fun p => (p.1, c p.2) := by
    rw [Group.keyed, Group.keyed, id_eq]
    cases r.id <;> rfl
  cases h : records.mapM Group.keyed with
  | error f =>
    rw [report, report, Group.ofRecords, Group.ofRecords, Attempt.mapM_map_of_map keyed, h]
    rfl
  | ok pairs =>
    have read : ∀ r ∈ records, ∃ id, r.id = .ok id :=
      (Group.ofRecords_eq_ok.1 (Attempt.bind_eq_ok.2 ⟨pairs, h, rfl⟩)).1
    have ids : Group.ids (records.map c) = Group.ids records := by
      simp [Group.ids, List.filterMap_map, id_eq]
    have nodes (id : NodeId) : ofId (records.map c) id = (ofId records id).map g := by
      have gathered : Group.gather (records.map c) id =
          ⟨id, (Group.gather records id).records.map c⟩ := by
        rw [Group.gather, Group.gather, List.filter_map]
        simp only [Function.comp_def, id_eq]
      rw [ofId, gathered, made]
      rfl
    rw [report_eq read, report_eq (by simpa [id_eq] using read), ids,
      Attempt.mapM_of_map fun id _ => nodes id]
    cases (Group.ids records).mapM (ofId records) with
    | error f => rfl
    | ok made =>
      simp only [Except.map, Attempt.ok_bind, Collation.sortBy_map, name_eq]

/-- The nodes of a report are the nodes of the ids. -/
theorem exists_id_of_mem {records : List RawRecord} {nodes : List Node}
    (h : report records = .ok nodes) {n : Node} (hn : n ∈ nodes) :
    ∃ id ∈ Group.ids records, ofId records id = .ok n := by
  obtain ⟨-, made, hmade, sorted⟩ := report_eq_ok.1 h
  exact Attempt.exists_of_mem_mapM hmade ((Collation.perm_sortBy sorted).mem_iff.1 hn)

/-- A node of a report is made of the records that have its id. -/
theorem exists_usages {records : List RawRecord} {nodes : List Node}
    (h : report records = .ok nodes) {n : Node} (hn : n ∈ nodes) :
    ∃ us, (recordsOf records n).mapM RawRecord.usage = .ok us ∧
      n.totalSize = (Tally.ofUsages us).root.size ∧
      Entry.under (Tally.ofUsages us) [] n.totalSize = .ok n.entries := by
  obtain ⟨id, -, made⟩ := exists_id_of_mem h hn
  obtain ⟨shown, us, hus, hsize, hentries⟩ := ofGroup_eq_ok made
  have own : recordsOf records n = (Group.gather records id).records := by
    apply List.filter_congr
    intro r _
    rw [shown, decide_eq_decide]
    cases r.id with
    | error f => simp [Except.map]
    | ok id' => simp [Except.map, Group.gather, NodeId.display_injective.eq_iff]
  rw [own]
  exact ⟨us, hus, hsize, hentries⟩

/-! ## One node in several spellings -/

/-- Files of one node whose paths are written in different ways; one of them is also a folder. -/
def spellings : List RawRecord :=
  [⟨some [7], some "disk", some "/a//b", some 3, some "2024-01-02"⟩,
    ⟨some [7], none, some "a\\c\\", some 5, none⟩,
    ⟨some [7], none, some "a", some 2, some "2024-01-03"⟩]

theorem exists_report_spellings : ∃ n, report spellings = .ok [n] := by
  have made : (report spellings).toOption.map List.length = some 1 := by decide +kernel
  obtain ⟨nodes, h, single⟩ := Attempt.exists_of_map_toOption made
  obtain ⟨n, rfl⟩ := List.length_eq_one_iff.1 single
  exact ⟨n, h⟩

end Node

end UsageTree
