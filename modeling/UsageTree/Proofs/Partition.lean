import UsageTree.Proofs.HexForm
import UsageTree.Proofs.NodeRecords
import UsageTree.Proofs.Reach

/-!
# Records divided by node

Records with proper ids can always be divided. Every record comes into the group of its own id and
into no other, groups follow each other as their ids are met, and the records of a group as they are
among all records. The first name that is not empty counts, and a group that is given none goes by
its id.

## Main definitions

* `Group.firstOf` — where the first record with an id stands.
* `Group.Named` — the name that records give to the node of an id.
* `Group.Partition` — groups into which records are divided.

## Main statements

* `Group.pairwise_ids` — ids stand in the order of their first records.
* `Group.partition_of_valid` — records with proper ids are divided.
-/

namespace UsageTree

/-! ## Ids as they are shown -/

namespace NodeId

variable {id : NodeId}

theorem display_of_nil (h : id.bytes = []) : id.display = "unknown" := if_pos h

theorem writes_display (h : id.bytes ≠ []) : Hex.Writes id.display id.bytes := by
  rw [display, if_neg h]
  exact Hex.writes_encode id.bytes

theorem display_ne_nil (id : NodeId) : id.display ≠ [] := by
  by_cases h : id.bytes = []
  · rw [display_of_nil h]
    decide
  · have length := (writes_display h).length
    have bytes := List.length_pos_of_ne_nil h
    exact List.ne_nil_of_length_pos (by omega)

end NodeId

namespace Group

variable {records : List RawRecord}

/-! ## First records -/

/-- Where the first record with an id stands. -/
def firstOf (records : List RawRecord) (id : NodeId) : Nat :=
  records.findIdx fun r => decide (r.id = .ok id)

theorem firstOf_lt_length {id : NodeId} : firstOf records id < records.length ↔ id ∈ ids records := by
  simp [firstOf, List.findIdx_lt_length, mem_ids]

/-- Ids stand in the order of their first records. A record has one id at most, so that no two ids
have one first record. -/
theorem pairwise_ids (records : List RawRecord) :
    (ids records).Pairwise fun a b => firstOf records a < firstOf records b := by
  have single (r : RawRecord) : r.id.toOption.toList.Pairwise fun _ _ => False := by
    cases r.id.toOption <;> simp
  have same (id : NodeId) :
      FirstSeen.firstGroup (fun r : RawRecord => r.id.toOption.toList) records id =
        firstOf records id := by
    simp [FirstSeen.firstGroup, firstOf, Attempt.toOption_eq_some]
  have met := FirstSeen.pairwise_eraseDups_flatMap _ single records
  rw [← List.filterMap_eq_flatMap_toList] at met
  simpa [same, ids] using met

/-! ## Names -/

/-- The record gives its node no name. -/
def Nameless (r : RawRecord) : Prop := r.nodeName = none ∨ r.nodeName = some []

theorem givenName?_eq_none {r : RawRecord} : givenName? r = none ↔ Nameless r := by
  cases h : r.nodeName <;> simp [givenName?, Nameless, h]

/-- Records give this name to the node of an id: the first name that is not empty, or the id as it
is shown. -/
inductive Named (id : NodeId) : List RawRecord → Text → Prop
  | given {before after : List RawRecord} {r : RawRecord} {name : Text}
    (nameless : ∀ b ∈ before, Nameless b) (given : r.nodeName = some name) (filled : name ≠ []) :
    Named id (before ++ r :: after) name
  | unnamed {records : List RawRecord} (nameless : ∀ r ∈ records, Nameless r) :
    Named id records id.display

theorem named_name (g : Group) : Named g.id g.records g.name := by
  obtain ⟨id, records⟩ := g
  rw [name]
  cases h : records.findSome? givenName? with
  | none =>
    rw [List.findSome?_eq_none_iff] at h
    exact .unnamed fun r hr => givenName?_eq_none.1 (h r hr)
  | some name =>
    obtain ⟨before, r, after, rfl, given, none⟩ := List.findSome?_eq_some_iff.1 h
    obtain ⟨given, filled⟩ := givenName?_eq_some.1 given
    exact .given (fun b hb => givenName?_eq_none.1 (none b hb)) given filled

theorem Named.ne_nil {id : NodeId} {name : Text} (h : Named id records name) : name ≠ [] := by
  cases h with
  | given _ _ filled => exact filled
  | unnamed _ => exact id.display_ne_nil

/-! ## Division -/

/-- The groups into which records are divided. -/
structure Partition (records : List RawRecord) (groups : List Group) : Prop where
  nodup_ids : (groups.map Group.id).Nodup
  /-- Every group has a record. -/
  met : ∀ g ∈ groups, firstOf records g.id < records.length
  /-- Groups stand in the order of their first records. -/
  order : groups.Pairwise fun g h => firstOf records g.id < firstOf records h.id
  /-- The records of a group are those with its id, in their order. -/
  records_eq : ∀ g ∈ groups, g.records = records.filter fun r => r.nodeId = some g.id.toInts
  existsUnique : ∀ r ∈ records, ∃! g, g ∈ groups ∧ r ∈ g.records
  perm : (groups.flatMap Group.records).Perm records
  named : ∀ g ∈ groups, Named g.id g.records g.name
  name_ne_nil : ∀ g ∈ groups, g.name ≠ []
  /-- The empty id is shown as a word, and others in lower-case digits. -/
  shown : ∀ g ∈ groups, (g.id.bytes = [] → g.id.display = "unknown") ∧
    (g.id.bytes ≠ [] → Hex.Writes g.id.display g.id.bytes)
  nodup_displays : (groups.map fun g => g.id.display).Nodup

/-- The record has an id, and its numbers are bytes. -/
def ProperId (r : RawRecord) : Prop := ∃ ns, r.nodeId = some ns ∧ ∀ n ∈ ns, 0 ≤ n ∧ n < 256

theorem ProperId.exists_id {r : RawRecord} (h : ProperId r) : ∃ id, r.id = .ok id := by
  obtain ⟨ns, given, bytes⟩ := h
  refine ⟨⟨ns.map fun n => UInt8.ofNat n.toNat⟩, RawRecord.id_eq_ok.2 (given.trans ?_)⟩
  have same : ∀ n ∈ ns, ((UInt8.ofNat n.toNat).toNat : Int) = n := by
    intro n hn
    obtain ⟨low, high⟩ := bytes n hn
    rw [UInt8.toNat_ofNat_of_lt' (by omega : n.toNat < 256), Int.toNat_of_nonneg low]
  rw [NodeId.toInts, List.map_map, Option.some_inj]
  exact ((List.map_congr_left same).trans (List.map_id' ns)).symm

/-! ## Gathered groups -/

theorem mem_gathered {g : Group} : g ∈ (ids records).map (gather records) ↔
    g.id ∈ ids records ∧ g = gather records g.id := by
  rw [List.mem_map]
  constructor
  · rintro ⟨id, hid, rfl⟩
    exact ⟨hid, rfl⟩
  · rintro ⟨hid, own⟩
    exact ⟨g.id, hid, own.symm⟩

theorem existsUnique_gathered {r : RawRecord} (hr : r ∈ records) {id : NodeId} (hid : r.id = .ok id) :
    ∃! g, g ∈ (ids records).map (gather records) ∧ r ∈ g.records := by
  refine ⟨gather records id, ⟨mem_gathered.2 ⟨mem_ids.2 ⟨r, hr, hid⟩, rfl⟩, ?_⟩, ?_⟩
  · simp [gather, hr, hid]
  · rintro g ⟨hg, among⟩
    rw [(mem_gathered.1 hg).2] at among ⊢
    have own : r.id = .ok g.id := by simpa [gather, hr] using among
    rw [Except.ok.inj (own.symm.trans hid)]

/-- Where all records have an id, gathering neither loses nor adds records. -/
theorem perm_gathered (read : ∀ r ∈ records, ∃ id, r.id = .ok id) :
    (((ids records).map (gather records)).flatMap Group.records).Perm records := by
  have complete : ∀ r ∈ records, ∀ id, r.id.toOption = some id → id ∈ ids records :=
    fun r hr id hid => mem_ids.2 ⟨r, hr, Attempt.toOption_eq_some.1 hid⟩
  have none : (records.filter fun r => r.id.toOption = none) = [] := by
    refine List.filter_eq_nil_iff.2 fun r hr => ?_
    obtain ⟨id, hid⟩ := read r hr
    simp [Attempt.toOption_eq_some.2 hid]
  have all := Usage.perm_flatMap_filter (fun r : RawRecord => r.id.toOption) (nodup_ids records)
    complete
  simpa [none, List.flatMap_map, gather, Attempt.toOption_eq_some] using all.symm

/-- Records with proper ids are divided into groups. -/
theorem partition_of_valid (valid : ∀ r ∈ records, ProperId r) :
    ∃ groups, ofRecords records = .ok groups ∧ Partition records groups := by
  have read : ∀ r ∈ records, ∃ id, r.id = .ok id := fun r hr => (valid r hr).exists_id
  refine ⟨(ids records).map (gather records), ofRecords_eq_ok.2 ⟨read, rfl⟩, ?_⟩
  constructor
  case nodup_ids => simpa [gather, Function.comp_def] using nodup_ids records
  case met => exact fun g hg => firstOf_lt_length.2 (mem_gathered.1 hg).1
  case order => exact List.pairwise_map.2 (pairwise_ids records)
  case records_eq =>
    intro g hg
    rw [(mem_gathered.1 hg).2]
    simp [gather, RawRecord.id_eq_ok]
  case existsUnique =>
    intro r hr
    obtain ⟨id, hid⟩ := read r hr
    exact existsUnique_gathered hr hid
  case perm => exact perm_gathered read
  case named => exact fun g _ => named_name g
  case name_ne_nil => exact fun g _ => (named_name g).ne_nil
  case shown => exact fun g _ => ⟨NodeId.display_of_nil, NodeId.writes_display⟩
  case nodup_displays =>
    simpa [gather, Function.comp_def] using (nodup_ids records).map NodeId.display_injective

/-- Records of three nodes in turn: one is named late and then again, one has the empty id and only
an empty name, and one has no name. -/
def scattered : List RawRecord :=
  [⟨some [7], none, some "a", some 1, none⟩,
    ⟨some [], some "", some "b", some 2, none⟩,
    ⟨some [7], some "", some "c", some 3, none⟩,
    ⟨some [255, 0], none, some "d", some 4, none⟩,
    ⟨some [7], some "disk", some "e", some 5, none⟩,
    ⟨some [7], some "other", some "a", some 1, none⟩,
    ⟨some [], none, some "b", some 2, none⟩]

theorem partition_scattered : (∀ r ∈ scattered, ProperId r) ∧
    ∃ groups, ofRecords scattered = .ok groups ∧ Partition scattered groups ∧
      groups.map (fun g => (g.name, g.records.length)) =
        [(("disk" : Text), 4), (("unknown" : Text), 2), (("ff00" : Text), 1)] := by
  have valid : ∀ r ∈ scattered, ProperId r := by simp [scattered, ProperId]
  have made : (ofRecords scattered).toOption.map
      (List.map fun g => (g.name, g.records.length)) =
        some [(("disk" : Text), 4), (("unknown" : Text), 2), (("ff00" : Text), 1)] := by
    decide +kernel
  obtain ⟨groups, h, partition⟩ := partition_of_valid valid
  rw [h] at made
  exact ⟨valid, groups, h, partition, Option.some.inj made⟩

end Group

end UsageTree
