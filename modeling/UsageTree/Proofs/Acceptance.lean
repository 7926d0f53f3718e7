import Mathlib.Data.Set.List
import UsageTree.Proofs.Attempt
import UsageTree.Proofs.Segments
import UsageTree.Service

/-!
# Records and requests that are accepted

A record is accepted if each of its fields can be read, and a request if each of its records is.
What is accepted is known to keep the limits: no list of records is too long, no path too deep, and
no size negative.

## Main definitions

* `FileRecord.Reads` — the fields of a record can be read, whatever the depth of its path.

## Main statements

* `FileRecord.ofJson_of_reads` — of such a record only the depth of its path is still in question.
* `FileRecord.ofJson_eq_ok` — which records are accepted.
* `Request.ofJson_eq_ok` — which requests are accepted.
* `Service.exists_items_of_requested` — the records of an accepted request.
-/

namespace UsageTree

/-! ## Lists -/

section

variable {ε α : Type}

/-- Results are collected if there is no error among them. -/
theorem collect_eq_ok {results : List (Except ε α)} {as : List α} :
    collect results = .ok as ↔ results = as.map .ok := by
  have kept {f : Except ε α → Option α} (keeps : ∀ a, f (.ok a) = some a) (bs : List α) :
      (bs.map Except.ok).filterMap f = bs := by
    have all : f ∘ Except.ok = some := funext keeps
    rw [List.filterMap_map, all, List.filterMap_some]
  unfold collect
  dsimp only
  split
  · rename_i clean
    rw [List.isEmpty_iff, List.filterMap_eq_nil_iff] at clean
    have all : results ∈ Set.range (List.map Except.ok) := by
      rw [Set.range_list_map]
      intro r hr
      obtain ⟨i, hi⟩ := List.mem_iff_getElem?.1 hr
      have error := clean (r, i) (List.mk_mem_zipIdx_iff_getElem?.2 hi)
      cases r with
      | ok a => exact ⟨a, rfl⟩
      | error e => cases error
    obtain ⟨bs, rfl⟩ := all
    rw [kept fun _ => rfl, Except.ok.injEq, List.map_inj_right fun a b h => Except.ok.inj h]
  · rename_i faulty
    refine iff_of_false (by simp) ?_
    rintro rfl
    refine faulty (List.isEmpty_iff.2 (List.filterMap_eq_nil_iff.2 fun p hp => ?_))
    obtain ⟨a, -, ha⟩ := List.mem_map.1 (List.fst_mem_of_mem_zipIdx hp)
    obtain ⟨r, i⟩ := p
    cases ha
    rfl

/-- A list is read if it is one and each of its items is read. -/
theorem readList_eq_ok {read : Json → Except ε α} {v : Json} {as : List α} :
    readList read v = .ok as ↔
      ∃ items, v = .list items ∧ List.Forall₂ (fun item a => read item = .ok a) items as := by
  cases v <;> simp only [readList, reduceCtorEq, Json.list.injEq, false_and, exists_false,
    exists_eq_left']
  rw [Attempt.mapError_eq_ok, collect_eq_ok, ← List.forall₂_eq_eq_eq, List.forall₂_map_left_iff,
    List.forall₂_map_right_iff]

end

/-! ## Records -/

namespace FileRecord

/-- The value under a field of a record. -/
def value? (fields : List (Text × Json)) (field : RecordField) : Option Json :=
  Table.findEntry (Text.ofString field.key) fields

/-- The fields of a record can be read; whether the path is too deep is not asked. -/
structure Reads (fields : List (Text × Json)) (r : FileRecord) : Prop where
  nodeId : required readNodeId (value? fields .nodeId) = .ok r.nodeId
  nodeName : optional readText (value? fields .nodeName) = .ok r.nodeName
  path : value? fields .path = some (.text r.path)
  size : required readSize (value? fields .size) = .ok r.size
  lastChanged : optional readText (value? fields .lastChanged) = .ok r.lastChanged

variable {limit : Int} {fields : List (Text × Json)} {r : FileRecord}

/-- The depth that counts is the number of segments. -/
theorem readPath_text (limit : Int) (path : Text) : readPath limit (.text path) =
    if limit < (Path.segments path).length then
      .error (.tooDeep (Path.segments path).length limit)
    else .ok path := by
  rw [readPath, Path.depth, Path.pieces_clean]

theorem required_readPath_eq_ok {value : Option Json} {path : Text} :
    required (readPath limit) value = .ok path ↔
      value = some (.text path) ∧ (Path.segments path).length ≤ limit := by
  constructor
  · intro h
    cases value with
    | none => cases h
    | some v =>
      cases v with
      | text text =>
        have h : readPath limit (.text text) = .ok path := h
        rw [readPath_text] at h
        split at h
        · cases h
        · cases h
          exact ⟨rfl, by omega⟩
      | _ => cases h
  · rintro ⟨rfl, shallow⟩
    exact (readPath_text limit path).trans (if_neg (by omega))

/-- A record of which the fields can be read is refused for its path, if that has too many segments,
and for nothing else. -/
theorem ofJson_of_reads (h : Reads fields r) (limit : Int) : ofJson limit (.object fields) =
    if limit < (Path.segments r.path).length then
      .error (.fields [(.path, .tooDeep (Path.segments r.path).length limit)])
    else .ok r := by
  have path : required (readPath limit) (value? fields .path) =
      readPath limit (.text r.path) := by
    rw [h.path]
    rfl
  rw [readPath_text] at path
  have read := h.nodeId
  have name := h.nodeName
  have size := h.size
  have time := h.lastChanged
  unfold value? at *
  simp only [ofJson, read, name, path, size, time]
  by_cases deep : limit < (Path.segments r.path).length
  · simp only [if_pos deep]
    rfl
  · simp only [if_neg deep]

/-- A record is accepted if its fields can be read and its path keeps the limit. -/
theorem ofJson_eq_ok {v : Json} : ofJson limit v = .ok r ↔
    ∃ fields, v = .object fields ∧ Reads fields r ∧ (Path.segments r.path).length ≤ limit := by
  constructor
  · intro h
    unfold ofJson at h
    split at h
    · rename_i fields
      dsimp only at h
      split at h
      · rename_i nodeId nodeName path size lastChanged hid hname hpath hsize htime
        cases h
        obtain ⟨found, shallow⟩ := required_readPath_eq_ok.1 hpath
        exact ⟨fields, rfl, ⟨hid, hname, found, hsize, htime⟩, shallow⟩
      · cases h
    · cases h
  · rintro ⟨fields, rfl, reads, shallow⟩
    rw [ofJson_of_reads reads, if_neg (by omega)]

theorem Reads.size_nonneg (h : Reads fields r) : 0 ≤ r.size := by
  have size := h.size
  generalize value? fields .size = value at size
  cases value with
  | none => cases size
  | some v =>
    cases v with
    | int n =>
      have size : readSize (.int n) = .ok r.size := size
      rw [readSize] at size
      split at size
      · cases size
      · cases size
        omega
    | _ => cases size

/-- The sizes of accepted records are not negative. -/
theorem size_nonneg {v : Json} (h : ofJson limit v = .ok r) : 0 ≤ r.size := by
  obtain ⟨fields, -, reads, -⟩ := ofJson_eq_ok.1 h
  exact reads.size_nonneg

end FileRecord

/-! ## Requests -/

namespace Request

variable {limit : Int} {value : Option Json}

theorem readItem_eq_ok {v : Json} {r : FileRecord} :
    readItem limit v = .ok r ↔ FileRecord.ofJson limit v = .ok r := by
  cases v <;> simp [readItem, FileRecord.ofJson, Attempt.mapError_eq_ok]

/-- The records of a request are read one by one from a list. -/
theorem readFiles_eq_ok {files : List FileRecord} : readFiles limit value = .ok files ↔
    ∃ items, value = some (.list items) ∧
      List.Forall₂ (fun item r => FileRecord.ofJson limit item = .ok r) items files := by
  cases value with
  | none => simp [readFiles]
  | some v => cases v <;> simp [readFiles, readList_eq_ok, readItem_eq_ok]

/-- An object is a request if its records and its ids can be read. -/
theorem ofJson_eq_ok {fields : List (Text × Json)} {request : Request} :
    ofJson limit (.object fields) = .ok request ↔
      readFiles limit (Table.findEntry filesKey fields) = .ok request.files ∧
      readExpanded (Table.findEntry expandedKey fields) = .ok request.expanded := by
  obtain ⟨files, expanded⟩ := request
  unfold ofJson
  dsimp only
  split
  · rename_i hfiles hexpanded
    simp [hfiles, hexpanded]
  · rename_i faulty
    refine iff_of_false (by simp) ?_
    rintro ⟨hfiles, hexpanded⟩
    exact faulty files expanded hfiles hexpanded

end Request

namespace Service

/-- The records of an accepted request are read one by one from a list that is not too long. -/
theorem exists_items_of_requested {config : Config} {call : Call} {request : Request}
    (h : requested config call = .ok request) :
    ∃ items : List Json, (items.length : Int) ≤ config.maxRecords ∧
      List.Forall₂ (fun item r => FileRecord.ofJson config.maxPathDepth item = .ok r) items
        request.files := by
  obtain ⟨v, -, h⟩ := Attempt.bind_eq_ok.1 h
  unfold accept at h
  split at h
  · rename_i fields
    split at h
    · cases h
    · rename_i short
      obtain ⟨hfiles, -⟩ := Request.ofJson_eq_ok.1 (Attempt.mapError_eq_ok.1 h)
      obtain ⟨items, found, read⟩ := Request.readFiles_eq_ok.1 hfiles
      refine ⟨items, ?_, read⟩
      rw [found] at short
      simpa [exceeds] using short
  · cases h

theorem exists_accepted_of_requested {config : Config} {call : Call} {request : Request}
    (h : requested config call = .ok request) :
    ∀ r ∈ request.files, ∃ v, FileRecord.ofJson config.maxPathDepth v = .ok r := by
  obtain ⟨items, -, read⟩ := exists_items_of_requested h
  intro r hr
  obtain ⟨item, -, accepted⟩ := Attempt.exists_left_of_mem read hr
  exact ⟨item, accepted⟩

end Service

end UsageTree
