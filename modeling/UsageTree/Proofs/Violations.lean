import UsageTree.Proofs.Failure
import UsageTree.Proofs.HexForm

/-!
# What is wrong with a record

Every field of a record has a rule of its own, which asks about the value of that field and of no
other. A record is accepted if all fields keep their rules. Otherwise every field that breaks its
rule is reported with one message, and no field is reported that keeps it.

## Main definitions

* `FileRecord.Allowed` — the rules of the fields.
* `FileRecord.complaint?` — what is wrong with the value of a field.
* `FileRecord.reported?` — what is reported under a field.

## Main statements

* `FileRecord.complaint?_eq_none` — nothing is wrong with a field that keeps its rule.
* `FileRecord.ofJson_eq_error` — how a record is refused.
* `FileRecord.ofJson_allowed` — acceptance and refusal in terms of the rules.
-/

namespace UsageTree

/-! ## Readers of values -/

section

variable {ε α : Type} {read : Json → Except Violation α} {value : Option Json}

theorem Request.error?_eq_none {x : Except ε α} : error? x = none ↔ ∃ a, x = .ok a := by
  cases x <;> simp [error?]

theorem Request.error?_eq_some {x : Except ε α} {e : ε} : error? x = some e ↔ x = .error e := by
  cases x <;> simp [error?]

/-- A value that must be there is read if it is there and can be read. -/
theorem exists_required_iff (strict : ∀ a, read .null ≠ .ok a) :
    (∃ a, required read value = .ok a) ↔ ∃ v, value = some v ∧ ∃ a, read v = .ok a := by
  cases value with
  | none => simp [required]
  | some v => cases v <;> simp [required, strict]

/-- A value that may be missing is read unless it is there and cannot be read. -/
theorem exists_optional_iff : (∃ a, optional read value = .ok a) ↔
    value = none ∨ value = some .null ∨ ∃ v, value = some v ∧ ∃ a, read v = .ok a := by
  cases value with
  | none => simp [optional]
  | some v => cases v <;> simp [optional, Attempt.map_eq_ok]

theorem exists_readText_iff {v : Json} : (∃ s, readText v = .ok s) ↔ ∃ s, v = .text s := by
  cases v <;> simp [readText]

end

namespace RecordField

/-- The fields, in the order in which they are reported. -/
def all : List RecordField := [nodeId, nodeName, path, size, lastChanged]

theorem mem_all (f : RecordField) : f ∈ all := by cases f <;> decide

/-- The names of fields differ. -/
theorem key_injective : Function.Injective fun f : RecordField => Text.ofString f.key := by
  intro f g
  cases f <;> cases g <;> decide

end RecordField

namespace FileRecord

variable {limit : Int} {fields : List (Text × Json)}

/-! ## Rules -/

/-- What the value of a field must be; `none` stands for a field that is missing. -/
def Allowed (limit : Int) : RecordField → Option Json → Prop
  | .nodeId, value =>
    (∃ s, value = some (.text s) ∧ Hex.Paired s) ∨
      ∃ items, value = some (.list items) ∧ ∀ item ∈ items, ∃ n, item = .int n ∧ 0 ≤ n ∧ n ≤ 255
  | .path, value => ∃ s, value = some (.text s) ∧ (Path.segments s).length ≤ limit
  | .size, value => ∃ n, value = some (.int n) ∧ 0 ≤ n
  | .nodeName, value | .lastChanged, value =>
    value = none ∨ value = some .null ∨ ∃ s, value = some (.text s)

theorem readInts?_cons_int (n : Int) (items : List Json) :
    readInts? (.int n :: items) = (readInts? items).map (n :: ·) := by
  rw [readInts?, List.mapM_cons]
  change ((readInts? items).bind fun ns => some (n :: ns)) = _
  cases readInts? items <;> rfl

/-- Integers are read from a list of nothing but integers. -/
theorem readInts?_eq_some {items : List Json} {ns : List Int} :
    readInts? items = some ns ↔ items = ns.map .int := by
  induction items generalizing ns with
  | nil => cases ns <;> simp [readInts?]
  | cons item items ih =>
    cases item with
    | int n => cases ns <;> simp [readInts?_cons_int, ih, and_comm]
    | _ => cases ns <;> simp [readInts?]

theorem readNodeId_list {items : List Json} {id : NodeId} :
    readNodeId (.list items) = .ok id ↔ items = id.toInts.map .int := by
  have read : readNodeId (.list items) = .ok id ↔
      (readInts? items).bind NodeId.ofInts? = some id := by
    rw [readNodeId]
    cases (readInts? items).bind NodeId.ofInts? <;> simp
  simp [read, Option.bind_eq_some_iff, readInts?_eq_some, NodeId.ofInts?_eq_some]

/-- The integers from `0` to `255` are the bytes. -/
theorem exists_byte_iff {n : Int} : (∃ b : UInt8, n = b.toNat) ↔ 0 ≤ n ∧ n ≤ 255 := by
  simp only [← NodeId.byte?_eq_some, ← Option.isSome_iff_exists, NodeId.byte?_isSome]
  omega

/-- A node id is read from pairs of digits and from lists of bytes. -/
theorem exists_readNodeId_iff {v : Json} : (∃ id, readNodeId v = .ok id) ↔
    (∃ s, v = .text s ∧ Hex.Paired s) ∨
      ∃ items, v = .list items ∧ ∀ item ∈ items, ∃ n, item = .int n ∧ 0 ≤ n ∧ n ≤ 255 := by
  cases v with
  | text s =>
    simp only [readNodeId, Json.text.injEq, exists_eq_left', reduceCtorEq, false_and, exists_false,
      or_false]
    rw [← Hex.exists_decode?_iff]
    cases Hex.decode? s <;> simp
  | list items =>
    simp only [Json.list.injEq, exists_eq_left', reduceCtorEq, false_and, exists_false, false_or]
    calc (∃ id, readNodeId (.list items) = .ok id)
      _ ↔ ∃ bytes : List UInt8, bytes.map (fun b => Json.int b.toNat) = items := by
        simp only [readNodeId_list, NodeId.toInts, List.map_map, eq_comm (a := items)]
        constructor
        · rintro ⟨id, h⟩
          exact ⟨id.bytes, h⟩
        · rintro ⟨bytes, h⟩
          exact ⟨⟨bytes⟩, h⟩
      _ ↔ ∀ item ∈ items, ∃ b : UInt8, Json.int b.toNat = item := by
        exact Set.ext_iff.1 (Set.range_list_map _) items
      _ ↔ ∀ item ∈ items, ∃ n, item = .int n ∧ 0 ≤ n ∧ n ≤ 255 := by
        simp only [← exists_byte_iff]
        grind
  | _ => simp [readNodeId]

theorem exists_readPath_iff {v : Json} : (∃ s, readPath limit v = .ok s) ↔
    ∃ s, v = .text s ∧ (Path.segments s).length ≤ limit := by
  cases v with
  | text s =>
    rw [readPath_text]
    by_cases deep : limit < (Path.segments s).length
    · simp [deep]
    · simp [deep, Int.not_lt.1 deep]
  | _ => simp [readPath]

theorem exists_readSize_iff {v : Json} : (∃ n, readSize v = .ok n) ↔ ∃ n, v = .int n ∧ 0 ≤ n := by
  cases v with
  | int n =>
    by_cases negative : n < 0
    · simp [readSize, negative]
    · simp [readSize, negative, Int.not_lt.1 negative]
  | _ => simp [readSize]

/-! ## Complaints -/

/-- What is wrong with the value of a field, if anything is. -/
def complaint? (limit : Int) : RecordField → Option Json → Option Violation
  | .nodeId, value => Request.error? (required readNodeId value)
  | .path, value => Request.error? (required (readPath limit) value)
  | .size, value => Request.error? (required readSize value)
  | .nodeName, value | .lastChanged, value => Request.error? (optional readText value)

/-- Nothing is wrong with a field exactly if it keeps its rule. -/
theorem complaint?_eq_none {field : RecordField} {value : Option Json} :
    complaint? limit field value = none ↔ Allowed limit field value := by
  cases field <;> simp only [complaint?, Allowed, Request.error?_eq_none]
  case nodeId =>
    rw [exists_required_iff (by simp [readNodeId])]
    simp only [exists_readNodeId_iff]
    grind
  case path =>
    rw [exists_required_iff (by simp [readPath])]
    simp only [exists_readPath_iff]
    grind
  case size =>
    rw [exists_required_iff (by simp [readSize])]
    simp only [exists_readSize_iff]
    grind
  all_goals
    rw [exists_optional_iff]
    simp only [exists_readText_iff]
    grind

/-- All that is wrong with the fields of an object. -/
def complaints (limit : Int) (fields : List (Text × Json)) : List (RecordField × Violation) :=
  RecordField.all.filterMap fun f => (complaint? limit f (value? fields f)).map (f, ·)

theorem mem_complaints {f : RecordField} {v : Violation} :
    (f, v) ∈ complaints limit fields ↔ complaint? limit f (value? fields f) = some v := by
  simp [complaints, RecordField.mem_all]

theorem complaints_eq_nil : complaints limit fields = [] ↔
    ∀ f, complaint? limit f (value? fields f) = none := by
  simp [complaints, RecordField.mem_all]

/-- An object is refused for all that is wrong with its fields, and only if something is. -/
theorem ofJson_eq_error {e : RecordErrors} : ofJson limit (.object fields) = .error e ↔
    complaints limit fields ≠ [] ∧ e = .fields (complaints limit fields) := by
  have each {α : Type} (f : RecordField) (x : Except Violation α) :
      violation? f x = (Request.error? x).map (f, ·) := by
    cases x <;> rfl
  unfold ofJson
  dsimp only
  split
  · rename_i hid hname hpath hsize htime
    have clean : complaints limit fields = [] := by
      refine complaints_eq_nil.2 fun f => ?_
      cases f <;> exact Request.error?_eq_none.2 ⟨_, by assumption⟩
    simp [clean]
  · -- Not all five readings succeeded, for otherwise the first case would have matched.
    rename_i faulty
    have some_wrong : complaints limit fields ≠ [] := by
      intro clean
      have clean := complaints_eq_nil.1 clean
      obtain ⟨id, hid⟩ := Request.error?_eq_none.1 (clean .nodeId)
      obtain ⟨name, hname⟩ := Request.error?_eq_none.1 (clean .nodeName)
      obtain ⟨path, hpath⟩ := Request.error?_eq_none.1 (clean .path)
      obtain ⟨size, hsize⟩ := Request.error?_eq_none.1 (clean .size)
      obtain ⟨time, htime⟩ := Request.error?_eq_none.1 (clean .lastChanged)
      exact faulty id name path size time hid hname hpath hsize htime
    simp only [each, some_wrong, ne_eq, not_false_eq_true, true_and, Except.error.injEq]
    exact eq_comm

/-! ## Messages -/

/-- What is reported of an object that is refused, under the names of its fields. -/
def messages (limit : Int) (fields : List (Text × Json)) : List (Text × Json) :=
  (complaints limit fields).map fun p => (Text.ofString p.1.key, p.2.toJson)

/-- What is reported under a field when a value is read. -/
def reported? (limit : Int) (v : Json) (field : RecordField) : Option Json :=
  match ofJson limit v with
  | .ok _ => none
  | .error e => e.toJson.field? field.key

theorem map_fst_messages : (messages limit fields).map Prod.fst =
    RecordField.all.filterMap fun f =>
      (complaint? limit f (value? fields f)).map fun _ => Text.ofString f.key := by
  simp [messages, complaints, List.map_filterMap, Function.comp_def]

theorem nodup_keys_messages : ((messages limit fields).map Prod.fst).Nodup := by
  rw [map_fst_messages]
  refine List.Nodup.filterMap (fun f g key hf hg => ?_) (by decide)
  obtain ⟨v, -, rfl⟩ := Option.map_eq_some_iff.1 hf
  obtain ⟨w, -, same⟩ := Option.map_eq_some_iff.1 hg
  exact RecordField.key_injective same.symm

/-- The fields that are reported are those that break their rules. -/
theorem mem_keys_messages {key : Text} : key ∈ (messages limit fields).map Prod.fst ↔
    ∃ f : RecordField, key = f.key ∧ ¬ Allowed limit f (value? fields f) := by
  rw [map_fst_messages, List.mem_filterMap]
  simp only [RecordField.mem_all, true_and, Option.map_eq_some_iff, exists_and_right]
  refine exists_congr fun f => ?_
  rw [← complaint?_eq_none, ← ne_eq, Option.ne_none_iff_exists', eq_comm, and_comm]

theorem mem_messages {f : RecordField} {message : Json} :
    (Text.ofString f.key, message) ∈ messages limit fields ↔
      (complaint? limit f (value? fields f)).map Violation.toJson = some message := by
  simp only [messages, List.mem_map, Option.map_eq_some_iff, Prod.exists, Prod.mk.injEq,
    mem_complaints]
  constructor
  · rintro ⟨g, v, hv, same, rfl⟩
    obtain rfl := RecordField.key_injective same
    exact ⟨v, hv, rfl⟩
  · rintro ⟨v, hv, rfl⟩
    exact ⟨f, v, hv, rfl, rfl⟩

/-- What is reported under a field is what is wrong with its value. -/
theorem reported?_object (limit : Int) (fields : List (Text × Json)) (f : RecordField) :
    reported? limit (.object fields) f =
      (complaint? limit f (value? fields f)).map Violation.toJson := by
  cases h : ofJson limit (.object fields) with
  | ok r =>
    have clean : complaints limit fields = [] := by
      by_contra wrong
      cases h.symm.trans (ofJson_eq_error.2 ⟨wrong, rfl⟩)
    simp only [reported?, h, complaints_eq_nil.1 clean f, Option.map_none]
  | error e =>
    obtain ⟨-, rfl⟩ := ofJson_eq_error.1 h
    have found : reported? limit (.object fields) f =
        Table.findEntry (Text.ofString f.key) (messages limit fields) := by
      simp only [reported?, h]
      rfl
    refine Option.ext fun message => ?_
    rw [found, Table.findEntry_eq_some nodup_keys_messages, mem_messages]

/-- A report of an object: every field that breaks its rule with one message, and nothing else. -/
structure Itemised (limit : Int) (fields messages : List (Text × Json)) : Prop where
  nodup_keys : (messages.map Prod.fst).Nodup
  mem_keys : ∀ key, key ∈ messages.map Prod.fst ↔
    ∃ f : RecordField, key = f.key ∧ ¬ Allowed limit f (value? fields f)
  single : ∀ p ∈ messages, ∃ text, p.2 = .list [.text text]

theorem itemised_messages (limit : Int) (fields : List (Text × Json)) :
    Itemised limit fields (messages limit fields) where
  nodup_keys := nodup_keys_messages
  mem_keys _ := mem_keys_messages
  single p hp := by
    obtain ⟨⟨f, v⟩, -, rfl⟩ := List.mem_map.1 hp
    exact ⟨v.message, rfl⟩

/-- A value is accepted if it is an object of which all fields keep their rules. What is no object is
reported as such, and an object by the fields that break their rules. What is reported under a field
is a matter of that field alone. -/
theorem ofJson_allowed (limit : Int) :
    (∀ v, (∃ r, ofJson limit v = .ok r) ↔
      ∃ fields, v = .object fields ∧ ∀ f, Allowed limit f (value? fields f)) ∧
    (∀ v e, ofJson limit v = .error e → (∀ fields, v ≠ .object fields) →
      e.toJson = .object [("_schema", .list [.text "Invalid input type."])]) ∧
    (∀ fields e, ofJson limit (.object fields) = .error e →
      ∃ messages, e.toJson = .object messages ∧ Itemised limit fields messages) ∧
    ∀ fields fields' f, value? fields f = value? fields' f →
      reported? limit (.object fields) f = reported? limit (.object fields') f := by
  refine ⟨fun v => ?_, fun v e h other => ?_, fun fields e h => ?_, fun fields fields' f same => ?_⟩
  · cases v with
    | object fields =>
      simp only [Json.object.injEq, exists_eq_left', ← complaint?_eq_none, ← complaints_eq_nil]
      rw [Attempt.exists_eq_ok_iff]
      simp [ofJson_eq_error]
    | _ => simp [ofJson]
  · cases v with
    | object fields => exact absurd rfl (other fields)
    | _ =>
      cases h
      rfl
  · obtain ⟨-, rfl⟩ := ofJson_eq_error.1 h
    exact ⟨messages limit fields, rfl, itemised_messages limit fields⟩
  · rw [reported?_object, reported?_object, same]

/-- An object of which all fields but the last break their rules. -/
def faulty : List (Text × Json) :=
  [("node_id", .list [.int 256]), ("node_name", .int 5), ("size", .bool true),
    ("last_changed", .null)]

theorem ofJson_allowed_faulty :
    (ofJson 3 (.int 1)).mapError RecordErrors.toJson =
      .error (.object [("_schema", .list [.text "Invalid input type."])]) ∧
    (∃ e messages, ofJson 3 (.object faulty) = .error e ∧ e.toJson = .object messages ∧
      Itemised 3 faulty messages) ∧
    reported? 3 (.object faulty) .path = reported? 3 (.object []) .path := by
  obtain ⟨-, other, object, alone⟩ := ofJson_allowed 3
  refine ⟨?_, ?_, alone _ _ _ rfl⟩
  · exact congrArg Except.error (other (.int 1) _ rfl (by simp))
  · obtain ⟨messages, written, itemised⟩ := object faulty _ rfl
    exact ⟨_, messages, rfl, written, itemised⟩

end FileRecord

end UsageTree
