import UsageTree.Proofs.Coverage
import UsageTree.Proofs.PerNode
import UsageTree.Proofs.Unfolding

/-!
# What the id of a row tells

The id of a row begins with the id of its node, which holds no colon. What stands behind the next
colon is the path of an entry, so that the id tells the node and the entry whatever characters paths
consist of. As ids of nodes are distinct in a report, and paths are in the tree of a node, no two
rows have one id.

## Main definitions

* `Row.origin` — the id of a node and the path that the id of a row consists of.
* `Row.Subject` — a node or an entry of it, which a row is about.
* `Row.Shows` — a row is about a subject.
* `Row.subjects` — all that the rows of a report can be about.

## Main statements

* `Row.shows_nodes` — the rows of a report are about some of its nodes and entries, each once.
* `Row.nodup_ids_of_report` — no two rows of a report have one id.
-/

namespace UsageTree

theorem Hex.colon_notMem_encode (bytes : List UInt8) : (':' : CodePoint) ∉ Hex.encode bytes := by
  intro h
  obtain ⟨b, -, hb⟩ := List.mem_flatMap.1 h
  have unread : Hex.value? ':' = none := by decide
  have hq : b.toNat / 16 < 16 := by
    have := b.toNat_lt
    omega
  have hr : b.toNat % 16 < 16 := by omega
  simp only [encodeByte, List.mem_cons, List.not_mem_nil, or_false] at hb
  rcases hb with hb | hb
  · rw [hb, value?_digit hq] at unread
    cases unread
  · rw [hb, value?_digit hr] at unread
    cases unread

theorem NodeId.colon_notMem_display (id : NodeId) : (':' : CodePoint) ∉ id.display := by
  unfold display
  split
  · decide
  · exact Hex.colon_notMem_encode id.bytes

namespace Row

/-! ## Reading ids -/

/-- The id of a node, and the path of an entry unless the row is that of the node itself. -/
def origin (id : Text) : Text × Option Text :=
  let rest := id.drop (Text.ofString "node:").length
  (rest.takeWhile (· != (':' : CodePoint)), (rest.dropWhile (· != (':' : CodePoint))).tail?)

theorem bne_colon_of_mem {id : Text} (h : (':' : CodePoint) ∉ id) :
    ∀ c ∈ id, (c != (':' : CodePoint)) = true := by
  intro c hc
  have other : c ≠ ':' := by
    rintro rfl
    exact h hc
  simpa using other

theorem origin_nodeId {n : Node} (h : (':' : CodePoint) ∉ n.id) :
    origin (nodeId n) = (n.id, none) := by
  have plain := bne_colon_of_mem h
  have all : n.id.takeWhile (· != (':' : CodePoint)) = n.id := List.takeWhile_eq_self_iff.2 plain
  have none_left : n.id.dropWhile (· != (':' : CodePoint)) = [] := List.dropWhile_eq_nil_iff.2 plain
  simp only [origin, nodeId, List.drop_left, all, none_left, List.tail?]

theorem origin_entryId {n : Node} (h : (':' : CodePoint) ∉ n.id) (path : Text) :
    origin (entryId (nodeId n) path) = (n.id, some path) := by
  have plain := bne_colon_of_mem h
  have colon : Text.ofString ":" = [(':' : CodePoint)] := rfl
  simp [origin, entryId, nodeId, colon, List.takeWhile_append_of_pos plain,
    List.dropWhile_append_of_pos plain]

/-! ## Subjects -/

/-- What a row is about: a node, or an entry of a node. -/
structure Subject where
  node : Node
  entry : Option Entry

namespace Subject

/-- The path of the entry, if there is one. -/
def path? (s : Subject) : Option Text := s.entry.map Entry.path

/-- The id of the row. -/
def rowId (s : Subject) : Text :=
  match s.entry with
  | none => nodeId s.node
  | some e => entryId (nodeId s.node) e.path

end Subject

/-- The row is about the subject: it is the one that the subject has at some depth. -/
def Shows (zone : Int) (x : Expansion) (row : Row) (s : Subject) : Prop :=
  match s.entry with
  | none => nodeRow x s.node = .ok row
  | some e => ∃ depth, entryRow zone x (nodeId s.node) depth e = .ok row

/-- Some entries of a node and all entries below them. -/
def entrySubjects (n : Node) (es : List Entry) : List Subject :=
  (Entry.preorder es).map fun e => ⟨n, some e⟩

/-- All nodes with their entries, in the order of the rows of an open table. -/
def subjects (nodes : List Node) : List Subject :=
  nodes.flatMap fun n => ⟨n, none⟩ :: entrySubjects n n.entries

theorem entrySubjects_cons (n : Node) (e : Entry) (es : List Entry) :
    entrySubjects n (e :: es) =
      ⟨n, some e⟩ :: (entrySubjects n e.children ++ entrySubjects n es) := by
  rw [entrySubjects, Entry.preorder, Entry.subtree_eq, List.map_append, List.map_cons,
    List.cons_append]
  rfl

theorem subjects_cons (n : Node) (ns : List Node) :
    subjects (n :: ns) = ⟨n, none⟩ :: (entrySubjects n n.entries ++ subjects ns) := rfl

theorem mem_subjects {nodes : List Node} {s : Subject} : s ∈ subjects nodes ↔
    s.node ∈ nodes ∧ ∀ e ∈ s.entry, e ∈ Entry.preorder s.node.entries := by
  obtain ⟨n, entry⟩ := s
  cases entry <;> simp [subjects, entrySubjects]

variable {zone : Int} {x : Expansion}

theorem Shows.id_eq {row : Row} {s : Subject} (h : Shows zone x row s) : row.id = s.rowId := by
  obtain ⟨n, entry⟩ := s
  cases entry with
  | none =>
    obtain ⟨size, -, rfl⟩ := nodeRow_eq_ok.1 h
    rfl
  | some e =>
    obtain ⟨depth, h⟩ := h
    obtain ⟨size, lastChanged, -, -, rfl⟩ := entryRow_eq_ok.1 h
    rfl

/-- Inside a closed row nothing is shown, and inside an open one what is shown of the entries. -/
theorem shows_inside {n : Node} {id : Text} {depth : Nat} {es : List Entry} {rows : List Row}
    (h : inside zone x (nodeId n) id depth es = .ok rows)
    (opened : ofEntries zone x (nodeId n) depth es = .ok rows →
      List.SublistForall₂ (Shows zone x) rows (entrySubjects n es)) :
    List.SublistForall₂ (Shows zone x) rows (entrySubjects n es) := by
  rcases inside_eq_ok.1 h with ⟨-, h⟩ | ⟨-, rfl⟩
  · exact opened h
  · exact .nil

/-- Rows of entries are about some of the entries, each once. The induction follows the tree. -/
theorem shows_entries {n : Node} {depth : Nat} {es : List Entry} {rows : List Row}
    (h : ofEntries zone x (nodeId n) depth es = .ok rows) :
    List.SublistForall₂ (Shows zone x) rows (entrySubjects n es) := by
  induction es using Entry.level_induction generalizing depth rows with
  | nil =>
    rw [ofEntries] at h
    cases h
    exact .nil
  | cons e es ihBelow ihRest =>
    obtain ⟨row, below, rest, hrow, hbelow, hrest, rfl⟩ := ofEntries_cons_eq_ok.1 h
    rw [entrySubjects_cons]
    have more := Attempt.sublistForall₂_append (shows_inside hbelow ihBelow) (ihRest hrest)
    exact .cons ⟨depth, hrow⟩ more

/-- The rows of nodes are about some of the nodes and their entries, each once. -/
theorem shows_nodes {nodes : List Node} {rows : List Row} (h : ofNodes zone x nodes = .ok rows) :
    List.SublistForall₂ (Shows zone x) rows (subjects nodes) := by
  induction nodes generalizing rows with
  | nil =>
    cases h
    exact .nil
  | cons n ns ih =>
    obtain ⟨row, below, rest, hrow, hbelow, hrest, rfl⟩ := ofNodes_cons_eq_ok.1 h
    rw [subjects_cons]
    have more := Attempt.sublistForall₂_append (shows_inside hbelow shows_entries) (ih hrest)
    exact .cons hrow more

/-! ## Rows of a report -/

variable {records : List RawRecord} {nodes : List Node}

/-- A report has no node twice, and no path twice in one node. -/
theorem nodup_keys_subjects (h : Node.report records = .ok nodes) :
    ((subjects nodes).map fun s => (s.node.id, s.path?)).Nodup := by
  rw [subjects, List.map_flatMap, List.nodup_flatMap]
  constructor
  -- Inside one node the paths tell subjects apart; only the node itself has none.
  · intro n hn
    obtain ⟨us, -, -, hentries⟩ := Node.exists_usages h hn
    have paths := (Entry.grown_of_under hentries).nodup_paths
    rw [List.map_cons, List.nodup_cons]
    refine ⟨by simp [entrySubjects, Subject.path?], ?_⟩
    refine List.Nodup.of_map Prod.snd ?_
    have keyed := paths.map (Option.some_injective Text)
    simpa [entrySubjects, Function.comp_def, Subject.path?] using keyed
  · have own (n : Node) : ∀ key ∈ (⟨n, none⟩ :: entrySubjects n n.entries).map
        fun s => (s.node.id, s.path?), key.1 = n.id := by
      simp [entrySubjects]
    refine (List.pairwise_map.1 (Node.nodup_ids h)).imp fun {n m} different => ?_
    exact fun key hn hm => different ((own n key hn).symm.trans (own m key hm))

/-- The node and the path of a subject can be read off the id of its row. -/
theorem origin_rowId (h : Node.report records = .ok nodes) {s : Subject}
    (hs : s ∈ subjects nodes) : origin s.rowId = (s.node.id, s.path?) := by
  obtain ⟨id, -, made⟩ := Node.exists_id_of_mem h (mem_subjects.1 hs).1
  have plain : (':' : CodePoint) ∉ s.node.id :=
    Node.id_of_ofId made ▸ NodeId.colon_notMem_display id
  obtain ⟨n, entry⟩ := s
  cases entry with
  | none => exact origin_nodeId plain
  | some e => exact origin_entryId plain e.path

/-- No two subjects of a report have rows of one id. -/
theorem nodup_rowIds (h : Node.report records = .ok nodes) :
    ((subjects nodes).map Subject.rowId).Nodup := by
  have read : ((subjects nodes).map Subject.rowId).map origin =
      (subjects nodes).map fun s => (s.node.id, s.path?) := by
    rw [List.map_map]
    exact List.map_congr_left fun s hs => origin_rowId h hs
  refine List.Nodup.of_map origin ?_
  rw [read]
  exact nodup_keys_subjects h

theorem nodup_ids (h : Node.report records = .ok nodes) {rows : List Row}
    (hrows : ofNodes zone x nodes = .ok rows) : (rows.map Row.id).Nodup := by
  obtain ⟨shown, about, within⟩ := List.sublistForall₂_iff.1 (shows_nodes hrows)
  rw [Attempt.map_eq_map_of_forall₂ about fun _ _ => Shows.id_eq]
  exact (nodup_rowIds h).sublist (within.map _)

/-- No two rows of a report have one id, whichever of them are open, and the id of a row alone tells
the node and the entry that the row is about. -/
theorem nodup_ids_of_report (h : Node.report records = .ok nodes) {rows : List Row}
    (hrows : ofNodes zone x nodes = .ok rows) :
    (rows.map Row.id).Nodup ∧
      ∀ row ∈ rows, ∃ s ∈ subjects nodes, Shows zone x row s ∧
        origin row.id = (s.node.id, s.path?) := by
  obtain ⟨shown, about, within⟩ := List.sublistForall₂_iff.1 (shows_nodes hrows)
  have ids : rows.map Row.id = shown.map Subject.rowId :=
    Attempt.map_eq_map_of_forall₂ about fun _ _ => Shows.id_eq
  have read : (shown.map Subject.rowId).map origin = shown.map fun s => (s.node.id, s.path?) := by
    rw [List.map_map]
    exact List.map_congr_left fun s hs => origin_rowId h (within.subset hs)
  refine ⟨?_, fun row hrow => ?_⟩
  · rw [ids]
    refine List.Nodup.of_map origin ?_
    rw [read]
    exact (nodup_keys_subjects h).sublist (within.map _)
  · obtain ⟨s, hs, shows⟩ := Attempt.exists_right_of_mem about hrow
    exact ⟨s, within.subset hs, shows, shows.id_eq ▸ origin_rowId h (within.subset hs)⟩

/-- Paths with colons in them, of a node with the empty id and of two others. -/
def colons : List RawRecord :=
  [⟨some [], some "disk", some "07:a/node:07", some 3, none⟩,
    ⟨some [7], some "disk", some "a:b/c", some 5, some "2024-01-02"⟩,
    ⟨some [7], none, some "a", some 2, none⟩,
    ⟨some [7, 10], none, some "b/c", some 1, none⟩]

/-- Colons in paths do not make ids equal. -/
theorem nodup_ids_colons : ∃ nodes rows, Node.report colons = .ok nodes ∧
    ofNodes 0 .everything nodes = .ok rows ∧ rows.length = 10 ∧ (rows.map Row.id).Nodup ∧
      ∀ row ∈ rows, ∃ s ∈ subjects nodes, Shows 0 .everything row s ∧
        origin row.id = (s.node.id, s.path?) := by
  have made : (Node.report colons >>= ofNodes 0 .everything).toOption.map List.length =
      some 10 := by
    decide +kernel
  obtain ⟨rows, h, ten⟩ := Attempt.exists_of_map_toOption made
  obtain ⟨nodes, h, hrows⟩ := Attempt.bind_eq_ok.1 h
  exact ⟨nodes, rows, h, hrows, ten, nodup_ids_of_report h hrows⟩

end Row

end UsageTree
