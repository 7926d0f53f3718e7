import UsageTree.Proofs.Violations

/-!
# Spellings of paths

Two paths with the same segments are two spellings of one path, whatever separators they have and
wherever these stand. Nothing tells two spellings apart: reports of the same records in other
spellings are the same, and so is what is wrong with a record.

One spelling is chosen for every path, the last path of its chain. It is enough to see that choosing
it changes nothing, since records that differ in spelling alone are then made equal.

## Main definitions

* `Path.canonical` — the spelling with one slash between two segments and no other separator.
* `RawRecord.Respelled`, `FileRecord.Respelled` — records that differ at most in spelling.

## Main statements

* `Node.report_map_canonical` — a report does not change with the spelling.
* `FileRecord.complaints_of_respelled` — nor does what is wrong with a record.
* `Node.report_of_respelled` — both for records that differ at most in spelling.
-/

namespace UsageTree

/-! ## Paths -/

namespace Path

/-- The last path of the chain of a path. -/
def canonical (path : Text) : Text := (chain (clean path)).getLast?.getD []

theorem canonical_eq_joined (path : Text) : canonical path = joined (segments path) := by
  rw [canonical, chain_clean, List.getLast?_map, Beginnings.getLast?_inits]
  rfl

@[simp] theorem segments_canonical (path : Text) : segments (canonical path) = segments path := by
  rw [canonical_eq_joined, segments_joined fun s => isSegment_of_mem]

/-- Two paths have one canonical spelling exactly if they have the same segments. -/
theorem canonical_inj {p q : Text} : canonical p = canonical q ↔ segments p = segments q := by
  constructor
  · intro h
    rw [← segments_canonical p, h, segments_canonical]
  · intro h
    rw [canonical_eq_joined, canonical_eq_joined, h]

end Path

/-! ## Tallies -/

/-- The file with the canonical spelling of its path. -/
def Usage.canonical (u : Usage) : Usage := { u with path := Path.canonical u.path }

namespace Tally

theorem add_canonical (t : Tally) (u : Usage) : t.add u.canonical = t.add u := by
  have chain : Path.chain (Path.clean u.canonical.path) = Path.chain (Path.clean u.path) := by
    rw [Path.chain_clean, Path.chain_clean, Usage.canonical, Path.segments_canonical]
  rw [add, add, chain]
  rfl

theorem ofUsages_map_canonical (us : List Usage) :
    ofUsages (us.map Usage.canonical) = ofUsages us := by
  simp only [ofUsages, List.foldl_map, add_canonical]

end Tally

/-! ## Reports -/

namespace RawRecord

/-- The record with the canonical spelling of its path. -/
def canonical (r : RawRecord) : RawRecord := { r with path := r.path.map Path.canonical }

@[simp] theorem id_canonical (r : RawRecord) : r.canonical.id = r.id := rfl

theorem usage_canonical (r : RawRecord) : r.canonical.usage = r.usage.map Usage.canonical := by
  obtain ⟨id, name, path, size, time⟩ := r
  cases path <;> cases size <;> rfl

/-- Two records that differ at most in the spelling of their paths. -/
structure Respelled (r s : RawRecord) : Prop where
  nodeId : r.nodeId = s.nodeId
  nodeName : r.nodeName = s.nodeName
  path : r.path.map Path.segments = s.path.map Path.segments
  size : r.size = s.size
  lastChanged : r.lastChanged = s.lastChanged

theorem Respelled.canonical_eq {r s : RawRecord} (h : Respelled r s) :
    r.canonical = s.canonical := by
  obtain ⟨id, name, path, size, time⟩ := r
  obtain ⟨id', name', path', size', time'⟩ := s
  obtain ⟨rfl, rfl, same, rfl, rfl⟩ := h
  have spelled : path.map Path.canonical = path'.map Path.canonical := by
    cases path <;> cases path' <;> simp_all [Path.canonical_inj]
  simp only [canonical, spelled]

end RawRecord

namespace Node

/-- A node is made of usages and of names, and neither depends on the spelling. -/
theorem ofGroup_map_canonical (id : NodeId) (records : List RawRecord) :
    ofGroup ⟨id, records.map RawRecord.canonical⟩ = ofGroup ⟨id, records⟩ := by
  have name : Group.name ⟨id, records.map RawRecord.canonical⟩ = Group.name ⟨id, records⟩ := by
    simp only [Group.name, List.findSome?_map]
    rfl
  rw [ofGroup, ofGroup, name, Attempt.mapM_map_of_map RawRecord.usage_canonical]
  cases records.mapM RawRecord.usage with
  | error f => rfl
  | ok us => simp only [Except.map, Attempt.ok_bind, Tally.ofUsages_map_canonical]

/-- A report does not change with the spelling of paths. -/
theorem report_map_canonical (records : List RawRecord) :
    report (records.map RawRecord.canonical) = report records := by
  have made (id : NodeId) (records : List RawRecord) :
      ofGroup ⟨id, records.map RawRecord.canonical⟩ = (ofGroup ⟨id, records⟩).map fun n => n := by
    rw [ofGroup_map_canonical]
    cases ofGroup ⟨id, records⟩ <;> rfl
  rw [report_map RawRecord.id_canonical (fun _ => rfl) made]
  cases report records <;> simp [Except.map]

end Node

/-! ## Checks of records -/

namespace FileRecord

variable {limit : Int} {fields fields' : List (Text × Json)}

/-- The record with the canonical spelling of its path. -/
def canonical (r : FileRecord) : FileRecord := { r with path := Path.canonical r.path }

/-- Two objects with the same fields of a record but for the spelling of the path. -/
structure Respelled (fields fields' : List (Text × Json)) : Prop where
  path : ∃ p q, value? fields .path = some (.text p) ∧ value? fields' .path = some (.text q) ∧
    Path.segments p = Path.segments q
  others : ∀ f, f ≠ .path → value? fields f = value? fields' f

/-- What is wrong with a path is a matter of its segments. -/
theorem complaint?_path_of_segments {p q : Text} (h : Path.segments p = Path.segments q) :
    complaint? limit .path (some (.text p)) = complaint? limit .path (some (.text q)) := by
  have read (s : Text) : required (readPath limit) (some (.text s)) = readPath limit (.text s) :=
    rfl
  simp only [complaint?, read, readPath_text, h]
  split <;> rfl

/-- What is wrong with a record does not change with the spelling. -/
theorem complaints_of_respelled (h : Respelled fields fields') :
    complaints limit fields = complaints limit fields' := by
  refine List.filterMap_congr fun f _ => ?_
  have same : complaint? limit f (value? fields f) = complaint? limit f (value? fields' f) := by
    by_cases path : f = .path
    · obtain ⟨p, q, hp, hq, spelled⟩ := h.path
      rw [path, hp, hq, complaint?_path_of_segments spelled]
    · rw [h.others f path]
  rw [same]

theorem Reads.canonical_eq {r r' : FileRecord} (h : Respelled fields fields')
    (reads : Reads fields r) (reads' : Reads fields' r') : r.canonical = r'.canonical := by
  obtain ⟨p, q, hp, hq, spelled⟩ := h.path
  have path : Path.canonical r.path = Path.canonical r'.path := by
    cases hp.symm.trans reads.path
    cases hq.symm.trans reads'.path
    exact Path.canonical_inj.2 spelled
  have nodeId := reads.nodeId
  have nodeName := reads.nodeName
  have size := reads.size
  have lastChanged := reads.lastChanged
  rw [h.others _ (by decide)] at nodeId nodeName size lastChanged
  obtain ⟨id, name, path, size, time⟩ := r
  obtain ⟨id', name', path', size', time'⟩ := r'
  cases nodeId.symm.trans reads'.nodeId
  cases nodeName.symm.trans reads'.nodeName
  cases size.symm.trans reads'.size
  cases lastChanged.symm.trans reads'.lastChanged
  simp_all [canonical]

/-- Objects that differ at most in the spelling of the path are refused for the same reasons or give
records that differ at most in it. -/
theorem ofJson_of_respelled (h : Respelled fields fields') :
    (ofJson limit (.object fields)).map canonical =
      (ofJson limit (.object fields')).map canonical := by
  cases first : ofJson limit (.object fields) with
  | error e =>
    obtain ⟨wrong, rfl⟩ := ofJson_eq_error.1 first
    rw [complaints_of_respelled h] at wrong ⊢
    rw [ofJson_eq_error.2 ⟨wrong, rfl⟩]
  | ok r =>
    cases second : ofJson limit (.object fields') with
    | error e =>
      obtain ⟨wrong, rfl⟩ := ofJson_eq_error.1 second
      rw [← complaints_of_respelled h] at wrong
      cases first.symm.trans (ofJson_eq_error.2 ⟨wrong, rfl⟩)
    | ok r' =>
      obtain ⟨_, same, reads, -⟩ := ofJson_eq_ok.1 first
      cases same
      obtain ⟨_, same, reads', -⟩ := ofJson_eq_ok.1 second
      cases same
      exact congrArg Except.ok (Reads.canonical_eq h reads reads')

end FileRecord

/-! ## Both -/

namespace Node

/-- Only the segments of paths matter: for reports, for what is wrong with a path, and for the record
that is read. In particular every path can be replaced by the last one of its chain. -/
theorem report_of_respelled :
    (∀ records records', List.Forall₂ RawRecord.Respelled records records' →
      report records = report records') ∧
    (∀ limit p q, Path.segments p = Path.segments q →
      FileRecord.complaint? limit .path (some (.text p)) =
        FileRecord.complaint? limit .path (some (.text q))) ∧
    (∀ limit fields fields', FileRecord.Respelled fields fields' →
      (FileRecord.ofJson limit (.object fields)).map FileRecord.canonical =
        (FileRecord.ofJson limit (.object fields')).map FileRecord.canonical) ∧
    (∀ records, report (records.map RawRecord.canonical) = report records) ∧
    ∀ limit p, FileRecord.complaint? limit .path (some (.text (Path.canonical p))) =
      FileRecord.complaint? limit .path (some (.text p)) := by
  refine ⟨fun records records' h => ?_, fun _ _ _ => FileRecord.complaint?_path_of_segments,
    fun _ _ _ => FileRecord.ofJson_of_respelled, report_map_canonical,
    fun _ p => FileRecord.complaint?_path_of_segments (Path.segments_canonical p)⟩
  have same : records.map RawRecord.canonical = records'.map RawRecord.canonical :=
    Attempt.map_eq_map_of_forall₂ h fun _ _ respelled => respelled.canonical_eq
  rw [← report_map_canonical records, same, report_map_canonical]

/-- The records of `spellings` with their paths spelled in yet other ways. -/
def otherSpellings : List RawRecord :=
  [⟨some [7], some "disk", some "a\\/b/", some 3, some "2024-01-02"⟩,
    ⟨some [7], none, some "//a/c", some 5, none⟩,
    ⟨some [7], none, some "\\a", some 2, some "2024-01-03"⟩]

theorem report_of_respelled_spellings :
    report spellings = report otherSpellings ∧
    FileRecord.complaint? 1 .path (some (.text "/a//b")) =
      FileRecord.complaint? 1 .path (some (.text "a\\b")) ∧
    (FileRecord.ofJson 2 (.object [("node_id", .text "07"), ("path", .text "/a//b"),
        ("size", .int 1)])).map FileRecord.canonical =
      (FileRecord.ofJson 2 (.object [("node_id", .text "07"), ("path", .text "a\\b"),
        ("size", .int 1)])).map FileRecord.canonical := by
  obtain ⟨reports, check, record, -, -⟩ := report_of_respelled
  refine ⟨reports _ _ ?_, check 1 _ _ (by decide), record 2 _ _ ⟨⟨_, _, rfl, rfl, by decide⟩, ?_⟩⟩
  · exact .cons ⟨rfl, rfl, by decide, rfl, rfl⟩ (.cons ⟨rfl, rfl, by decide, rfl, rfl⟩
      (.cons ⟨rfl, rfl, by decide, rfl, rfl⟩ .nil))
  · intro f other
    cases f
    case path => exact absurd rfl other
    all_goals rfl

end Node

end UsageTree
