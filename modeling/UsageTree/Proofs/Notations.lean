import UsageTree.Proofs.Limits
import UsageTree.Proofs.Violations

/-!
# Notations of node ids

An id may come as a list of bytes or as a text with two hexadecimal digits for each of them, in
letters of either case and with blanks around the pairs. Whatever the notation, the id is the same,
and nothing of the notation is left once a record was read. So requests that differ in notation alone
are one request, and get one response.

## Main definitions

* `Hex.plain` — a text without blanks and capital letters.
* `NodeId.Notates` — a value is a notation of an id.
* `FileRecord.Renoted`, `Request.Renoted`, `Call.Renoted` — records, requests and calls that differ at
  most in the notation of ids.

## Main statements

* `FileRecord.readNodeId_eq_ok` — an id is read from its notations.
* `Hex.Spells.plain_eq` — all that spells some bytes is alike without blanks and in lower case.
* `Service.accept_of_renoted` — the notation of ids does not matter to a request.
* `Service.renoted_alike` — nor to groups and responses, and all notations are written alike.
-/

namespace UsageTree

open Service (toLower)

/-! ## Texts of digits -/

namespace Hex

/-- The text without its blanks, in lower-case letters. -/
def plain (s : Text) : Text := (s.filter fun c => !isBlank c).map toLower

/-- Without blanks and in lower case, a spelling is the text that is written for the bytes. -/
theorem Spells.plain_eq {s : Text} {bytes : List UInt8} (h : Spells s bytes) :
    plain s = encode bytes := by
  induction h with
  | nil => rfl
  | blank hc rest ih => simpa [plain, hc] using ih
  | @pair c d s b bytes hc hd rest ih =>
    have high := isBlank_of_value? (value?_of_high hc)
    have low := isBlank_of_value? (value?_of_low hd)
    have written : encode (b :: bytes) = encodeByte b ++ encode bytes := rfl
    rw [written, ← ih, encodeByte, ← hc, ← hd]
    simp [plain, high, low]

theorem spells_encode (bytes : List UInt8) : Spells (encode bytes) bytes :=
  decode?_eq_some.1 (decode?_encode bytes)

end Hex

/-! ## Ids -/

/-- A value notes an id: the list of its bytes, and a text that spells them. -/
inductive NodeId.Notates : Json → NodeId → Prop where
  | bytes (id : NodeId) : Notates (.list (id.toInts.map .int)) id
  | digits {s : Text} {id : NodeId} (spelled : Hex.Spells s id.bytes) : Notates (.text s) id

namespace FileRecord

open NodeId (Notates)

theorem readNodeId_text {s : Text} {id : NodeId} :
    readNodeId (.text s) = .ok id ↔ Hex.Spells s id.bytes := by
  rw [← Hex.decode?_eq_some, readNodeId]
  obtain ⟨bytes⟩ := id
  cases Hex.decode? s <;> simp

/-- An id is read from its notations, and from nothing else. -/
theorem readNodeId_eq_ok {v : Json} {id : NodeId} : readNodeId v = .ok id ↔ Notates v id := by
  constructor
  · intro h
    cases v with
    | text s => exact .digits (readNodeId_text.1 h)
    | list items =>
      rw [readNodeId_list.1 h]
      exact .bytes id
    | _ => cases h
  · intro h
    cases h with
    | bytes => exact readNodeId_list.2 rfl
    | digits spelled => exact readNodeId_text.2 spelled

theorem required_readNodeId {v : Json} {id : NodeId} (h : Notates v id) :
    required readNodeId (some v) = .ok id := by
  have read := readNodeId_eq_ok.2 h
  cases h <;> exact read

/-! ## Records -/

/-- The same values, or records with two notations of one id and the same values in the other
fields. -/
inductive Renoted : Json → Json → Prop where
  | refl (v : Json) : Renoted v v
  | object {fields fields' : List (Text × Json)} {v v' : Json} {id : NodeId}
    (first : value? fields .nodeId = some v) (second : value? fields' .nodeId = some v')
    (notes : Notates v id) (notes' : Notates v' id)
    (others : ∀ f ≠ RecordField.nodeId, value? fields f = value? fields' f) :
    Renoted (.object fields) (.object fields')

theorem ofJson_of_renoted {v v' : Json} (h : Renoted v v') (limit : Int) :
    ofJson limit v = ofJson limit v' := by
  cases h with
  | refl => rfl
  | @object fields fields' v v' id first second notes notes' others =>
    have same : required readNodeId (value? fields .nodeId) =
        required readNodeId (value? fields' .nodeId) := by
      rw [first, second, required_readNodeId notes, required_readNodeId notes']
    have name := others .nodeName (by decide)
    have path := others .path (by decide)
    have size := others .size (by decide)
    have time := others .lastChanged (by decide)
    unfold value? at *
    simp only [ofJson, same, name, path, size, time]

end FileRecord

/-- Whatever else a record holds, its id is written in digits. -/
theorem PartialRecord.exists_toJson {r : PartialRecord} {id : NodeId}
    (h : r.nodeId = some (some id.toInts)) :
    ∃ w, r.toJson = .ok w ∧ w.field? RecordField.nodeId.key = some (.text id.hex) := by
  simp only [toJson, h, NodeId.ofInts_toInts]
  exact ⟨_, rfl, rfl⟩

/-! ## Requests -/

namespace Request

/-- Requests with the same list of open rows, and with lists of records that differ at most in
notation. -/
inductive Renoted : Json → Json → Prop where
  | object {fields fields' : List (Text × Json)} {items items' : List Json}
    (files : Table.findEntry filesKey fields = some (.list items))
    (files' : Table.findEntry filesKey fields' = some (.list items'))
    (each : List.Forall₂ FileRecord.Renoted items items')
    (expanded : Table.findEntry expandedKey fields = Table.findEntry expandedKey fields') :
    Renoted (.object fields) (.object fields')

theorem readItem_of_renoted {v v' : Json} (h : FileRecord.Renoted v v') (limit : Int) :
    readItem limit v = readItem limit v' := by
  cases h with
  | refl => rfl
  | object first second notes notes' others =>
    have same := FileRecord.ofJson_of_renoted (.object first second notes notes' others) limit
    exact congrArg (Except.mapError ItemErrors.record) same

theorem readFiles_of_renoted {items items' : List Json}
    (each : List.Forall₂ FileRecord.Renoted items items') (limit : Int) :
    readFiles limit (some (.list items)) = readFiles limit (some (.list items')) := by
  have read : items.map (readItem limit) = items'.map (readItem limit) :=
    Attempt.map_eq_map_of_forall₂ each fun _ _ renoted => readItem_of_renoted renoted limit
  simp only [readFiles, readList, read]

theorem ofJson_of_renoted {v v' : Json} (h : Renoted v v') (limit : Int) :
    ofJson limit v = ofJson limit v' := by
  cases h with
  | object files files' each expanded =>
    simp only [ofJson, files, files', expanded, readFiles_of_renoted each limit]

end Request

/-! ## Calls -/

/-- Calls of one place by one method, with requests that differ at most in notation. -/
structure Call.Renoted (call call' : Call) : Prop where
  method : call.method = call'.method
  target : call.target = call'.target
  content : ∃ v v', Service.content call = .ok v ∧ Service.content call' = .ok v' ∧
    Request.Renoted v v'

namespace Service

/-- The groups of a request. -/
def groupsOf (request : Request) : Except Fault (List Group) :=
  Group.ofRecords (request.files.map FileRecord.toRaw)

/-- Whether a request is accepted, and what is read from it, is not a matter of notation. -/
theorem accept_of_renoted {v v' : Json} (h : Request.Renoted v v') (config : Config) :
    accept config v = accept config v' := by
  have read := Request.ofJson_of_renoted h config.maxPathDepth
  cases h with
  | object files files' each expanded =>
    simp only [accept, files, files', exceeds, each.length_eq, read]

theorem requested_of_renoted {call call' : Call} (h : call.Renoted call') (config : Config) :
    requested config call = requested config call' := by
  obtain ⟨v, v', hv, hv', renoted⟩ := h.content
  simp only [requested, hv, hv', Attempt.ok_bind]
  exact accept_of_renoted renoted config

/-- The body of a call counts for the response by the request that is read from it. -/
theorem answer_congr {config : Config} {zone : Int} {call call' : Call}
    (method : call.method = call'.method) (target : call.target = call'.target)
    (same : requested config call = requested config call') :
    answer config zone call = answer config zone call' := by
  have served (route : Route) : serve config zone route call = serve config zone route call' := by
    cases route <;> simp only [serve, same]
  simp only [answer, dispatch, method, target, served]

/-- An id is read from its notations and from nothing else, and the text that is written for it is
one of them. All texts from which it is read are that text once blanks are left out and capital
letters made small. Calls that differ at most in the notation of ids lead to the same groups and get
the same response. -/
theorem renoted_alike :
    (∀ v id, FileRecord.readNodeId v = .ok id ↔ NodeId.Notates v id) ∧
    (∀ id : NodeId, NodeId.Notates (.text id.hex) id) ∧
    (∀ s id, FileRecord.readNodeId (.text s) = .ok id →
      ∀ r : PartialRecord, r.nodeId = some (some id.toInts) →
        ∃ w, r.toJson = .ok w ∧ w.field? RecordField.nodeId.key = some (.text (Hex.plain s))) ∧
    ∀ config zone call call', Call.Renoted call call' →
      (requested config call).map groupsOf = (requested config call').map groupsOf ∧
      answer config zone call = answer config zone call' := by
  refine ⟨fun _ _ => FileRecord.readNodeId_eq_ok, fun id => .digits (Hex.spells_encode id.bytes),
    fun s id h r hr => ?_, fun config zone call call' h => ?_⟩
  · have plain : Hex.plain s = id.hex := (FileRecord.readNodeId_text.1 h).plain_eq
    rw [plain]
    exact PartialRecord.exists_toJson hr
  · have same := requested_of_renoted h config
    exact ⟨congrArg (Except.map groupsOf) same, answer_congr h.method h.target same⟩

/-- A record of which the id is noted as given, as it is posted. -/
def noted (id : String) : Call := posted "/api/v0/storage_usage/rows"
  ("\x7b\"files\":[\x7b\"node_id\":" ++ id ++ ",\"path\":\"a\",\"size\":1\x7d]\x7d")

theorem renoted_alike_noted :
    FileRecord.readNodeId (.text " 0A fF\n") = .ok ⟨[10, 255]⟩ ∧
    (∃ w, (⟨some (some [10, 255]), none, none, none, none⟩ : PartialRecord).toJson = .ok w ∧
      w.field? RecordField.nodeId.key = some (.text (Hex.plain " 0A fF\n"))) ∧
    answer Config.default 0 (noted "\" 0A fF\\n\"") =
      answer Config.default 0 (noted "[10, 255]") := by
  have spelled : Hex.Spells " 0A fF\n" [10, 255] := Hex.decode?_eq_some.1 (by decide)
  have digits : (content (noted "\" 0A fF\\n\"")).toOption = some (.object [("files",
      .list [.object [("node_id", .text " 0A fF\n"), ("path", .text "a"), ("size", .int 1)]])]) := by
    decide +kernel
  have bytes : (content (noted "[10, 255]")).toOption = some (.object [("files", .list [.object
      [("node_id", .list [.int 10, .int 255]), ("path", .text "a"), ("size", .int 1)]])]) := by
    decide +kernel
  have alike : Call.Renoted (noted "\" 0A fF\\n\"") (noted "[10, 255]") := by
    refine ⟨rfl, rfl, _, _, Attempt.toOption_eq_some.1 digits, Attempt.toOption_eq_some.1 bytes,
      .object rfl rfl (.cons ?_ .nil) rfl⟩
    refine .object rfl rfl (.digits spelled) (.bytes ⟨[10, 255]⟩) fun f other => ?_
    cases f <;> first | rfl | exact absurd rfl other
  obtain ⟨reads, -, written, served⟩ := renoted_alike
  have read := (reads (.text " 0A fF\n") ⟨[10, 255]⟩).2 (.digits spelled)
  exact ⟨read, written _ _ read _ rfl, (served _ 0 _ _ alike).2⟩

end Service

end UsageTree
