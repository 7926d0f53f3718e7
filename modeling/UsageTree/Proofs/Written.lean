import UsageTree.Proofs.Acceptance

/-!
# Records that are written and read again

A value may give a record in many ways: the id in either notation, names and times missing or null,
fields that do not count. A record is written in one way, and what is written is read as the record
it was written for, so that reading and writing once more changes nothing.

## Main statements

* `FileRecord.ofJson_toJson_eq_ok` — which written records are accepted, and what is read from them.
* `FileRecord.ofJson_toJson_of_accepted` — an accepted record is read again from what is written.
* `FileRecord.rewritten_of_accepted` — accepted records are written, accepted again and written the
  same, and different ones are written differently.
-/

namespace UsageTree.FileRecord

variable {limit : Int}

/-! ## Fields -/

/-- An id is written in digits, which are read as the id. -/
theorem required_readNodeId_hex (id : NodeId) :
    required readNodeId (some (.text id.hex)) = .ok id := by
  have read : Hex.decode? id.hex = some id.bytes := Hex.decode?_encode id.bytes
  simp [required, readNodeId, read]

/-- A text that is not there is written as null, which is read as no text. -/
theorem optional_readText_ofText? (s : Option Text) :
    optional readText (some (.ofText? s)) = .ok s := by
  cases s <;> rfl

theorem required_readSize_int {n : Int} (h : 0 ≤ n) :
    required readSize (some (.int n)) = .ok n := by
  simp [required, readSize, Int.not_lt.2 h]

/-! ## Records -/

/-- What is written of a record has the fields of the record, and they are read as they were. -/
theorem exists_reads_toJson {r : FileRecord} (nonneg : 0 ≤ r.size) :
    ∃ fields, r.toJson = .object fields ∧ Reads fields r :=
  ⟨_, rfl, {
    nodeId := required_readNodeId_hex r.nodeId
    nodeName := optional_readText_ofText? r.nodeName
    path := rfl
    size := required_readSize_int nonneg
    lastChanged := optional_readText_ofText? r.lastChanged }⟩

/-- A written record is accepted if it has no negative size and its path keeps the limit, and it is
then the record that is read. -/
theorem ofJson_toJson_eq_ok {r r' : FileRecord} : ofJson limit r.toJson = .ok r' ↔
    r' = r ∧ 0 ≤ r.size ∧ (Path.segments r.path).length ≤ limit := by
  constructor
  · intro h
    have nonneg : 0 ≤ r.size := by
      obtain ⟨_, same, reads, -⟩ := ofJson_eq_ok.1 h
      cases same
      have size : readSize (.int r.size) = .ok r'.size := reads.size
      rw [readSize] at size
      split at size
      · cases size
      · omega
    obtain ⟨fields, written, reads⟩ := exists_reads_toJson nonneg
    rw [written, ofJson_of_reads reads] at h
    split at h
    · cases h
    · cases h
      exact ⟨rfl, nonneg, by omega⟩
  · rintro ⟨rfl, nonneg, shallow⟩
    obtain ⟨fields, written, reads⟩ := exists_reads_toJson nonneg
    exact ofJson_eq_ok.2 ⟨fields, written, reads, shallow⟩

/-- An accepted record is read again from what is written of it. -/
theorem ofJson_toJson_of_accepted {v : Json} {r : FileRecord} (h : ofJson limit v = .ok r) :
    ofJson limit r.toJson = .ok r := by
  obtain ⟨-, -, -, shallow⟩ := ofJson_eq_ok.1 h
  exact ofJson_toJson_eq_ok.2 ⟨rfl, size_nonneg h, shallow⟩

/-- An accepted record is written; what is written is accepted under the same limit, read as the
record, and written the same once more. Two accepted records are written the same only if they are
the same, in whatever way the values gave them. -/
theorem rewritten_of_accepted :
    (∀ limit v r, ofJson limit v = .ok r → ∃ w, r.toPartial.toJson = .ok w ∧
      ofJson limit w = .ok r ∧ ∀ r', ofJson limit w = .ok r' → r'.toPartial.toJson = .ok w) ∧
    ∀ limit v r limit' v' r', ofJson limit v = .ok r → ofJson limit' v' = .ok r' →
      (r.toPartial.toJson = r'.toPartial.toJson ↔ r = r') := by
  constructor
  · intro limit v r h
    have again := ofJson_toJson_of_accepted h
    refine ⟨r.toJson, r.toJson_toPartial, again, fun r' h' => ?_⟩
    cases again.symm.trans h'
    exact r.toJson_toPartial
  · intro limit v r limit' v' r' h h'
    constructor
    · intro same
      rw [toJson_toPartial, toJson_toPartial, Except.ok.injEq] at same
      have again := ofJson_toJson_of_accepted h
      rw [same] at again
      exact (ofJson_toJson_eq_ok.1 again).1
    · rintro rfl
      rfl

/-- A record without a name and without a time. -/
def bare : FileRecord := ⟨⟨[10, 255]⟩, none, "/a//b", 3, none⟩

/-- The record with its id in capital digits and blanks, and with a field that does not count. -/
def inDigits : Json := .object [("size", .int 3), ("node_id", .text " 0A fF\n"),
  ("path", .text "/a//b"), ("owner", .null)]

/-- The record with its id in bytes and with a name that is null. -/
def inBytes : Json := .object [("node_id", .list [.int 10, .int 255]), ("node_name", .null),
  ("path", .text "/a//b"), ("size", .int 3)]

/-- The record with a name. -/
def named : FileRecord := { bare with nodeName := some "n" }

theorem rewritten_of_accepted_bare : ofJson 2 inDigits = .ok bare ∧ ofJson 2 inBytes = .ok bare ∧
    (∃ w, bare.toPartial.toJson = .ok w ∧ ofJson 2 w = .ok bare) ∧
    bare.toPartial.toJson ≠ named.toPartial.toJson := by
  have digits : ofJson 2 inDigits = .ok bare := rfl
  have bytes : ofJson 2 inBytes = .ok bare := rfl
  have written_named : ofJson 2 named.toJson = .ok named := rfl
  obtain ⟨stable, apart⟩ := rewritten_of_accepted
  obtain ⟨w, written, again, -⟩ := stable 2 inDigits bare digits
  refine ⟨digits, bytes, ⟨w, written, again⟩, fun same => ?_⟩
  have equal := (apart 2 inBytes bare 2 named.toJson named bytes written_named).1 same
  exact absurd equal (by decide)

end UsageTree.FileRecord
