import UsageTree.Proofs.Violations

/-!
# What is wrong with a request

A request is accepted if each of its records is, and its ids are texts. Otherwise every record that
is refused is reported under its position, with what is reported of it on its own, and every id that
is no text under its own position. The records and the ids are reported together, and none of them
has any influence on what is reported of another.

## Main definitions

* `Listed` — what is reported of a list, by the positions of its items.
* `Request.Itemised` — what is reported of a request.
* `Request.itemReported?` — what is reported under a position in the list of records.

## Main statements

* `readList_listed` — a list of which items are refused is reported item by item.
* `Listed.field?_eq` — what is reported under a position is a matter of the item that stands there.
* `Request.ofJson_itemised` — acceptance and refusal of requests, record by record.
-/

namespace UsageTree

/-! ## Lists -/

section

variable {ε α : Type}

/-- The errors among results, with their positions. -/
def failures (results : List (Except ε α)) : List (Nat × ε) :=
  results.zipIdx.filterMap fun p => (Request.error? p.1).map (p.2, ·)

theorem mem_failures {results : List (Except ε α)} {i : Nat} {e : ε} :
    (i, e) ∈ failures results ↔ results[i]? = some (.error e) := by
  simp only [failures, List.mem_filterMap, Option.map_eq_some_iff, Request.error?_eq_some]
  constructor
  · rintro ⟨⟨_, _⟩, hp, _, rfl, ⟨⟩⟩
    exact List.mk_mem_zipIdx_iff_getElem?.1 hp
  · intro found
    exact ⟨(.error e, i), List.mk_mem_zipIdx_iff_getElem?.2 found, e, rfl, rfl⟩

/-- No position has two errors. -/
theorem nodup_fst_failures (results : List (Except ε α)) :
    ((failures results).map Prod.fst).Nodup := by
  have apart : results.zipIdx.Pairwise fun p q => p.2 ≠ q.2 := by
    rw [← List.pairwise_map, List.zipIdx_map_snd]
    exact List.nodup_range'
  rw [failures, List.Nodup, List.pairwise_map, List.pairwise_filterMap]
  refine apart.imp fun {p q} apart a ha b hb => ?_
  obtain ⟨_, -, rfl⟩ := Option.map_eq_some_iff.1 ha
  obtain ⟨_, -, rfl⟩ := Option.map_eq_some_iff.1 hb
  exact apart

/-- Results with errors among them are refused for all of these. -/
theorem collect_eq_error {results : List (Except ε α)} {errors : List (Nat × ε)} :
    collect results = .error errors ↔ failures results ≠ [] ∧ errors = failures results := by
  -- The match in `collect` is a function of its own, known here by its values alone.
  have same {f : Except ε α × Nat → Option (Nat × ε)} (error : ∀ e i, f (.error e, i) = some (i, e))
      (ok : ∀ a i, f (.ok a, i) = none) : results.zipIdx.filterMap f = failures results := by
    refine congrArg (List.filterMap · _) (funext ?_)
    rintro ⟨a | e, i⟩ <;> simp [error, ok, Request.error?]
  unfold collect
  dsimp only
  rw [same (fun _ _ => rfl) (fun _ _ => rfl)]
  split
  · rename_i clean
    simp [List.isEmpty_iff.1 clean]
  · rename_i faulty
    simp [mt List.isEmpty_iff.2 faulty, eq_comm]

end

/-! ## Reports by position -/

/-- Messages by position: each item about which there is a message has it under its position, and
there are no others. -/
structure Positioned (message? : Json → Option Json) (items : List Json)
    (messages : List (Text × Json)) : Prop where
  ne_nil : messages ≠ []
  nodup_keys : (messages.map Prod.fst).Nodup
  mem_iff : ∀ key message, (key, message) ∈ messages ↔
    ∃ (i : Nat) (item : Json),
      items[i]? = some item ∧ key = toString i ∧ message? item = some message

/-- A report of a list: there is none if there is no message about any item, and otherwise it has
all messages by position. -/
def Listed (message? : Json → Option Json) (items : List Json) : Option Json → Prop
  | none => ∀ item ∈ items, message? item = none
  | some report => ∃ messages, report = .object messages ∧ Positioned message? items messages

/-- Positions are written differently. -/
theorem ofString_toString_inj {i j : Nat} :
    Text.ofString (toString i) = Text.ofString (toString j) ↔ i = j :=
  Text.ofString_inj.trans Text.toString_inj

/-- What is reported under a position is the message about the item that stands there. -/
theorem Listed.field?_eq {message? : Json → Option Json} {items : List Json} {report? : Option Json}
    (h : Listed message? items report?) (i : Nat) :
    (report?.bind fun report => report.field? (toString i)) = items[i]?.bind message? := by
  cases report? with
  | none =>
    cases hi : items[i]? with
    | none => rfl
    | some item => exact (h item (List.mem_of_getElem? hi)).symm
  | some report =>
    obtain ⟨messages, rfl, positioned⟩ := h
    refine Option.ext fun message => ?_
    change Table.findEntry _ messages = some message ↔ _
    rw [Table.findEntry_eq_some positioned.nodup_keys, positioned.mem_iff, Option.bind_eq_some_iff]
    constructor
    · rintro ⟨j, item, hj, same, said⟩
      obtain rfl := ofString_toString_inj.1 same
      exact ⟨item, hj, said⟩
    · rintro ⟨item, hi, said⟩
      exact ⟨i, item, hi, rfl, said⟩

/-- A list of which items are refused is reported item by item, with what is wrong with each. -/
theorem readList_listed {ε α : Type} (read : Json → Except ε α) (write : ε → Json)
    (items : List Json) :
    Listed (fun item => (Request.error? (read item)).map write) items
      ((Request.error? (readList read (.list items))).map (·.toJson write)) := by
  have said {item : Json} {message : Json} :
      (Request.error? (read item)).map write = some message ↔
        ∃ e, read item = .error e ∧ write e = message := by
    rw [Option.map_eq_some_iff]
    simp only [Request.error?_eq_some]
  rw [readList]
  cases hcollect : collect (items.map read) with
  | ok as =>
    intro item hitem
    have read_ok : read item ∈ as.map Except.ok :=
      collect_eq_ok.1 hcollect ▸ List.mem_map_of_mem hitem
    obtain ⟨a, -, ha⟩ := List.mem_map.1 read_ok
    simp [← ha, Request.error?]
  | error errors =>
    obtain ⟨wrong, rfl⟩ := collect_eq_error.1 hcollect
    refine ⟨_, rfl, by simpa using wrong, ?_, fun key message => ?_⟩
    · have keys : Function.Injective fun i : Nat => Text.ofString (toString i) :=
        fun _ _ => ofString_toString_inj.1
      simpa [Function.comp_def] using (nodup_fst_failures (items.map read)).map keys
    · simp only [List.mem_map, Prod.exists, mem_failures, List.getElem?_map, said]
      grind

namespace Request

variable {limit : Int} {fields : List (Text × Json)}

/-! ## Items -/

/-- What is reported of an item of a list of records: that it is null, or else what is reported of
it as a record on its own. -/
def itemMessages? (limit : Int) : Json → Option Json
  | .null => some (.list [.text "Field may not be null."])
  | item => (error? (FileRecord.ofJson limit item)).map RecordErrors.toJson

/-- What is reported of an item of a list of ids. -/
def idMessages? : Json → Option Json
  | .text _ => none
  | .null => some (.list [.text "Field may not be null."])
  | _ => some (.list [.text "Not a valid string."])

theorem itemMessages?_eq (item : Json) :
    itemMessages? limit item = (error? (readItem limit item)).map ItemErrors.toJson := by
  cases item with
  | object fields =>
    simp only [itemMessages?, readItem]
    cases FileRecord.ofJson limit (.object fields) <;> rfl
  | _ => rfl

theorem idMessages?_eq (item : Json) :
    idMessages? item = (error? (required readText (some item))).map Violation.toJson := by
  cases item <;> rfl

/-! ## Values -/

/-- Records can be read from a list of which every item can be read as a record. -/
theorem exists_readFiles_iff {value : Option Json} : (∃ files, readFiles limit value = .ok files) ↔
    ∃ items, value = some (.list items) ∧
      ∀ item ∈ items, ∃ r, FileRecord.ofJson limit item = .ok r := by
  simp only [readFiles_eq_ok, ← Attempt.mapM_eq_ok, ← Attempt.exists_mapM_iff]
  grind

/-- The ids that the value of their field gives. -/
inductive Given : Option Json → Option (List Text) → Prop where
  | missing : Given none none
  | null : Given (some .null) none
  | list (ids : List Text) : Given (some (.list (ids.map .text))) (some ids)

theorem readExpanded_eq_ok {value : Option Json} {expanded : Option (List Text)} :
    readExpanded value = .ok expanded ↔ Given value expanded := by
  have read {item : Json} {s : Text} :
      required readText (some item) = .ok s ↔ item = .text s := by
    cases item <;> simp [required, readText]
  constructor
  · intro h
    unfold readExpanded at h
    split at h
    · cases h
      exact .missing
    · cases h
      exact .null
    · obtain ⟨ids, hids, rfl⟩ := Attempt.map_eq_ok.1 h
      obtain ⟨items, rfl, texts⟩ := readList_eq_ok.1 hids
      simp only [read] at texts
      rw [← List.forall₂_map_right_iff, List.forall₂_eq_eq_eq] at texts
      exact texts ▸ .list ids
  · rintro (_ | _ | ids)
    · rfl
    · rfl
    · refine Attempt.map_eq_ok.2 ⟨ids, readList_eq_ok.2 ⟨_, rfl, ?_⟩, rfl⟩
      simp [read, List.forall₂_map_left_iff, List.forall₂_same]

/-! ## Reports -/

/-- What is reported under the field of the records, by the value of this field. -/
def FilesReported (limit : Int) : Option Json → Option Json → Prop
  | some (.list items), report? => Listed (itemMessages? limit) items report?
  | none, report? => report? = some (.list [.text "Missing data for required field."])
  | some .null, report? => report? = some (.list [.text "Field may not be null."])
  | some _, report? => report? = some (.list [.text "Not a valid list."])

/-- What is reported under the field of the ids, by the value of this field. -/
def ExpandedReported : Option Json → Option Json → Prop
  | some (.list ids), report? => Listed idMessages? ids report?
  | none, report? | some .null, report? => report? = none
  | some _, report? => report? = some (.list [.text "Not a valid list."])

theorem filesReported (limit : Int) (value : Option Json) : FilesReported limit value
    ((error? (readFiles limit value)).map (·.toJson ItemErrors.toJson)) := by
  cases value with
  | none => rfl
  | some v =>
    cases v with
    | list items =>
      rw [FilesReported, funext itemMessages?_eq]
      exact readList_listed _ _ items
    | _ => rfl

theorem expandedReported (value : Option Json) : ExpandedReported value
    ((error? (readExpanded value)).map (·.toJson Violation.toJson)) := by
  cases value with
  | none => rfl
  | some v =>
    cases v with
    | list ids =>
      have kept {ε α β : Type} (x : Except ε α) (f : α → β) : error? (x.map f) = error? x := by
        cases x <;> rfl
      simp only [ExpandedReported, funext idMessages?_eq, readExpanded, kept]
      exact readList_listed _ _ ids
    | _ => rfl

/-- A report of a request: what belongs under the field of the records and what belongs under that
of the ids, and nothing else. -/
structure Itemised (limit : Int) (fields messages : List (Text × Json)) : Prop where
  files : FilesReported limit (Table.findEntry filesKey fields) (Table.findEntry filesKey messages)
  expanded : ExpandedReported (Table.findEntry expandedKey fields)
    (Table.findEntry expandedKey messages)
  nodup_keys : (messages.map Prod.fst).Nodup
  mem_keys : ∀ key ∈ messages.map Prod.fst, key = filesKey ∨ key = expandedKey

/-- What is reported under a position in the list of records when a value is read. -/
def itemReported? (limit : Int) (v : Json) (i : Nat) : Option Json :=
  match ofJson limit v with
  | .ok _ => none
  | .error e => (e.toJson.field? filesKey).bind fun report => report.field? (toString i)

/-- An object is refused for what is wrong with its records and its ids. -/
theorem ofJson_eq_error {e : RequestErrors} (h : ofJson limit (.object fields) = .error e) :
    e = .fields (error? (readFiles limit (Table.findEntry filesKey fields)))
      (error? (readExpanded (Table.findEntry expandedKey fields))) := by
  unfold ofJson at h
  dsimp only at h
  split at h
  · cases h
  · exact (Except.error.inj h).symm

/-- The report of a request by its two fields. -/
theorem exists_messages (files : Option (ListErrors ItemErrors))
    (expanded : Option (ListErrors Violation)) :
    ∃ messages, (RequestErrors.fields files expanded).toJson = .object messages ∧
      Table.findEntry filesKey messages = files.map (·.toJson ItemErrors.toJson) ∧
      Table.findEntry expandedKey messages = expanded.map (·.toJson Violation.toJson) ∧
      (messages.map Prod.fst).Nodup ∧
      ∀ key ∈ messages.map Prod.fst, key = filesKey ∨ key = expandedKey := by
  refine ⟨_, rfl, ?_⟩
  have apart : filesKey ≠ expandedKey := by decide
  cases files <;> cases expanded <;> simp [Table.findEntry, apart, apart.symm]

/-- What is reported under a position depends on the list of records alone. -/
theorem itemReported?_object (limit : Int) (fields : List (Text × Json)) (i : Nat) :
    itemReported? limit (.object fields) i =
      ((error? (readFiles limit (Table.findEntry filesKey fields))).map
        (·.toJson ItemErrors.toJson)).bind fun report => report.field? (toString i) := by
  cases h : ofJson limit (.object fields) with
  | ok request =>
    simp only [itemReported?, h, (ofJson_eq_ok.1 h).1]
    rfl
  | error e =>
    obtain ⟨messages, written, hfiles, -⟩ := exists_messages
      (error? (readFiles limit (Table.findEntry filesKey fields)))
      (error? (readExpanded (Table.findEntry expandedKey fields)))
    simp only [itemReported?, h, ofJson_eq_error h, written, Json.field?, hfiles]

/-- A request is accepted if each of its records is accepted on its own and its ids are texts, and
it has what these give. Otherwise its records and its ids are reported together. What is reported
under the position of a record is what is reported of this record on its own. -/
theorem ofJson_itemised (limit : Int) (fields : List (Text × Json)) :
    ((∃ request, ofJson limit (.object fields) = .ok request) ↔
      (∃ items, Table.findEntry filesKey fields = some (.list items) ∧
        ∀ item ∈ items, ∃ r, FileRecord.ofJson limit item = .ok r) ∧
      ∃ expanded, Given (Table.findEntry expandedKey fields) expanded) ∧
    (∀ request, ofJson limit (.object fields) = .ok request →
      (∃ items, Table.findEntry filesKey fields = some (.list items) ∧
        List.Forall₂ (fun item r => FileRecord.ofJson limit item = .ok r) items request.files) ∧
      Given (Table.findEntry expandedKey fields) request.expanded) ∧
    (∀ e, ofJson limit (.object fields) = .error e →
      ∃ messages, e.toJson = .object messages ∧ Itemised limit fields messages) ∧
    ∀ items i, Table.findEntry filesKey fields = some (.list items) →
      itemReported? limit (.object fields) i = items[i]?.bind (itemMessages? limit) := by
  refine ⟨⟨?_, ?_⟩, fun request h => ?_, fun e h => ?_, fun items i found => ?_⟩
  · rintro ⟨request, h⟩
    obtain ⟨hfiles, hexpanded⟩ := ofJson_eq_ok.1 h
    exact ⟨exists_readFiles_iff.1 ⟨_, hfiles⟩, _, readExpanded_eq_ok.1 hexpanded⟩
  · rintro ⟨read, expanded, given⟩
    obtain ⟨files, hfiles⟩ := exists_readFiles_iff.2 read
    exact ⟨⟨files, expanded⟩, ofJson_eq_ok.2 ⟨hfiles, readExpanded_eq_ok.2 given⟩⟩
  · obtain ⟨hfiles, hexpanded⟩ := ofJson_eq_ok.1 h
    exact ⟨readFiles_eq_ok.1 hfiles, readExpanded_eq_ok.1 hexpanded⟩
  · obtain ⟨messages, written, hfiles, hexpanded, nodup, keys⟩ := exists_messages _ _
    rw [ofJson_eq_error h]
    exact ⟨messages, written, hfiles ▸ filesReported _ _, hexpanded ▸ expandedReported _, nodup,
      keys⟩
  · have listed := filesReported limit (Table.findEntry filesKey fields)
    rw [found] at listed
    rw [itemReported?_object, found]
    exact Listed.field?_eq listed i

/-- Among these items only the second is accepted as a record. -/
def assorted : List Json :=
  [.null, .object [("node_id", .text "07"), ("path", .text "a"), ("size", .int 1)],
    .object FileRecord.faulty, .int 5]

/-- A request in which two ids are no texts either. -/
def mixed : List (Text × Json) :=
  [("expanded", .list [.int 1, .text "a", .null]), ("files", .list assorted)]

/-- A request for the second of the items alone. -/
def single : List (Text × Json) := [("files", .list [assorted[1]])]

theorem ofJson_itemised_mixed :
    (∃ e messages, ofJson 3 (.object mixed) = .error e ∧ e.toJson = .object messages ∧
      Itemised 3 mixed messages) ∧
    (∀ i, itemReported? 3 (.object mixed) i = assorted[i]?.bind (itemMessages? 3)) ∧
    ∃ request, ofJson 3 (.object single) = .ok request ∧ Given none request.expanded := by
  obtain ⟨-, -, refused, reported⟩ := ofJson_itemised 3 mixed
  obtain ⟨-, accepted, -⟩ := ofJson_itemised 3 single
  obtain ⟨messages, written, itemised⟩ := refused _ rfl
  exact ⟨⟨_, messages, rfl, written, itemised⟩, fun i => reported assorted i rfl,
    _, rfl, (accepted _ rfl).2⟩

end Request

end UsageTree
