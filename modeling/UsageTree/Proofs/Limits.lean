import Mathlib.Algebra.BigOperators.Ring.List
import Mathlib.Algebra.Order.BigOperators.Group.List
import Mathlib.Algebra.Order.Ring.Nat
import UsageTree.Proofs.Acceptance
import UsageTree.Proofs.RowIds

/-!
# Limits of requests and of reports

A limit on the depth of paths is a limit on the depth of trees, and together with the number of
records one on the number of rows: every row is that of a node, or of one of the paths on the way
to a file.

## Main definitions

* `Entry.height` — how many levels of entries there are.

## Main statements

* `Entry.Grown.height_le`, `Entry.Grown.length_preorder_le` — trees of short paths are small.
* `Node.length_subjects_le` — how much there is to show in a report.
* `Service.limits` — the limits that are checked, and what follows from them.
-/

namespace UsageTree

open UsageTree.Path UsageTree.Usage

/-! ## Trees -/

namespace Entry

mutual

/-- How many levels there are from an entry down. -/
def levelsFrom : Entry → Nat
  | ⟨_, _, _, _, _, _, children⟩ => height children + 1

/-- How many levels of entries there are. -/
def height : List Entry → Nat
  | [] => 0
  | e :: es => max (levelsFrom e) (height es)

end

theorem height_cons (e : Entry) (es : List Entry) :
    height (e :: es) = max (height e.children + 1) (height es) := by
  cases e
  rw [height, levelsFrom]

theorem height_le_iff {es : List Entry} {k : Nat} :
    height es ≤ k ↔ ∀ e ∈ es, height e.children + 1 ≤ k := by
  induction es with
  | nil => simp [height]
  | cons e es ih => simp [height_cons, ih]

variable {us : List Usage} {p : List Text} {es : List Entry}

/-- A tree reaches no deeper than the paths of its files. -/
theorem Grown.height_le (h : Grown us p es) {k : Nat} (short : ∀ u ∈ us, u.segments.length ≤ k) :
    height es ≤ k - p.length := by
  induction h with
  | @level p es names stands deeper ih =>
    refine height_le_iff.2 fun e he => ?_
    obtain ⟨u, hu, beginning⟩ := mem_heads.1 (stands e he).head
    have := beginning.length_le
    have := short u hu
    have := ih e he
    simp only [List.length_append, List.length_singleton] at *
    omega

/-- A tree has no more entries than its files have segments. -/
theorem Grown.length_preorder_le (h : Grown us [] es) :
    (preorder es).length ≤ (us.map fun u => u.segments.length).sum := by
  have known : (preorder es).map Entry.path ⊆
      us.flatMap fun u => u.segments.inits.tail.map joined := by
    intro q hq
    obtain ⟨u, hu, p, hp, beginning, rfl⟩ := (h.covers.mem_iff q).1 hq
    exact List.mem_flatMap.2 ⟨u, hu, List.mem_map_of_mem (Beginnings.mem_tail_inits.2 ⟨hp, beginning⟩)⟩
  have counted := (List.subperm_of_subset h.nodup_paths known).length_le
  rw [List.length_map, List.length_flatMap] at counted
  simpa using counted

end Entry

/-! ## Reports -/

namespace Node

variable {records : List RawRecord} {nodes : List Node}

/-- The records of a report are divided among its nodes. -/
theorem sum_length_recordsOf_le (h : report records = .ok nodes) :
    (nodes.map fun n => (recordsOf records n).length).sum ≤ records.length := by
  have shown (r : RawRecord) (id : Text) :
      (r.id.map NodeId.display).toOption = some id ↔ r.id.map NodeId.display = .ok id :=
    Attempt.toOption_eq_some
  have complete : ∀ r ∈ records, ∀ id, (r.id.map NodeId.display).toOption = some id →
      id ∈ nodes.map Node.id := by
    intro r hr id hid
    cases hrid : r.id with
    | error f =>
      rw [hrid] at hid
      cases hid
    | ok key =>
      rw [hrid] at hid
      cases hid
      exact (perm_ids h).mem_iff.2 (List.mem_map_of_mem (Group.mem_ids.2 ⟨r, hr, hrid⟩))
  have divided := (perm_flatMap_filter (fun r : RawRecord => (r.id.map NodeId.display).toOption)
    (nodup_ids h) complete).length_eq
  rw [List.length_append, List.length_flatMap, List.map_map] at divided
  simp only [Function.comp_def, shown] at divided
  exact (Nat.le_add_right _ _).trans divided.ge

/-- Every node has a record. -/
theorem recordsOf_ne_nil (h : report records = .ok nodes) {n : Node} (hn : n ∈ nodes) :
    recordsOf records n ≠ [] := by
  obtain ⟨id, hid, made⟩ := exists_id_of_mem h hn
  obtain ⟨r, hr, hrid⟩ := Group.mem_ids.1 hid
  refine List.ne_nil_of_mem (List.mem_filter.2 ⟨hr, ?_⟩)
  simp [hrid, Except.map, id_of_ofId made]

/-- No path of a record has more than `k` segments. -/
def Shallow (k : Nat) (records : List RawRecord) : Prop :=
  ∀ r ∈ records, ∀ path, r.path = some path → (segments path).length ≤ k

theorem path_of_usage {r : RawRecord} {u : Usage} (h : r.usage = .ok u) : r.path = some u.path := by
  unfold RawRecord.usage at h
  split at h <;> cases h
  assumption

/-- The files of a node have paths of its records. -/
theorem Shallow.length_segments_le {k : Nat} (short : Shallow k records) {n : Node} {us : List Usage}
    (hus : (recordsOf records n).mapM RawRecord.usage = .ok us) :
    ∀ u ∈ us, u.segments.length ≤ k := by
  intro u hu
  obtain ⟨r, hr, read⟩ := Attempt.exists_of_mem_mapM hus hu
  exact short r (List.mem_of_mem_filter hr) u.path (path_of_usage read)

theorem height_le (h : report records = .ok nodes) {k : Nat} (short : Shallow k records) {n : Node}
    (hn : n ∈ nodes) : Entry.height n.entries ≤ k := by
  obtain ⟨us, hus, -, hentries⟩ := exists_usages h hn
  exact (Entry.grown_of_under hentries).height_le (short.length_segments_le hus)

/-- A node and its entries are at most `k + 1` for each of its records. -/
theorem length_preorder_succ_le (h : report records = .ok nodes) {k : Nat}
    (short : Shallow k records) {n : Node} (hn : n ∈ nodes) :
    (Entry.preorder n.entries).length + 1 ≤ (recordsOf records n).length * (k + 1) := by
  obtain ⟨us, hus, -, hentries⟩ := exists_usages h hn
  have entries := (Entry.grown_of_under hentries).length_preorder_le
  have segments := List.sum_le_card_nsmul (us.map fun u => u.segments.length) k
    (by simpa using short.length_segments_le hus)
  have same : us.length = (recordsOf records n).length := (Attempt.mapM_eq_ok.1 hus).length_eq.symm
  have some_record := List.length_pos_iff.2 (recordsOf_ne_nil h hn)
  rw [List.length_map, same, Nat.nsmul_eq_mul] at segments
  rw [Nat.mul_succ]
  omega

/-- What there is to show in a report is at most `k + 1` for each record. -/
theorem length_subjects_le (h : report records = .ok nodes) {k : Nat} (short : Shallow k records) :
    (Row.subjects nodes).length ≤ records.length * (k + 1) := by
  have each := List.sum_le_sum fun n hn => length_preorder_succ_le h short (n := n) hn
  rw [List.sum_map_mul_right] at each
  have subjects : (Row.subjects nodes).length =
      (nodes.map fun n => (Entry.preorder n.entries).length + 1).sum := by
    rw [Row.subjects, List.length_flatMap]
    simp [Row.entrySubjects]
  rw [subjects]
  exact each.trans (Nat.mul_le_mul_right _ (sum_length_recordsOf_le h))

end Node

/-! ## Rows -/

namespace Row

variable {zone : Int} {x : Expansion}

/-- Rows of entries go no deeper than the entries do. -/
theorem depth_lt_of_ofEntries {top : Text} {depth : Nat} {es : List Entry} {rows : List Row}
    (h : ofEntries zone x top depth es = .ok rows) :
    ∀ row ∈ rows, row.depth < depth + Entry.height es := by
  induction es using Entry.level_induction generalizing depth rows with
  | nil =>
    rw [ofEntries] at h
    cases h
    simp
  | cons e es ihBelow ihRest =>
    obtain ⟨row, below, rest, hrow, hbelow, hrest, rfl⟩ := ofEntries_cons_eq_ok.1 h
    intro r hr
    rw [Entry.height_cons]
    rcases List.mem_cons.1 hr with rfl | hr
    · obtain ⟨size, lastChanged, -, -, rfl⟩ := entryRow_eq_ok.1 hrow
      dsimp only
      omega
    · rcases List.mem_append.1 hr with hr | hr
      · rcases inside_eq_ok.1 hbelow with ⟨-, hbelow⟩ | ⟨-, rfl⟩
        · have := ihBelow hbelow r hr
          omega
        · cases hr
      · have := ihRest hrest r hr
        omega

/-- Rows of nodes go no deeper than the trees of the nodes do. -/
theorem exists_depth_le_height {nodes : List Node} {rows : List Row}
    (h : ofNodes zone x nodes = .ok rows) :
    ∀ row ∈ rows, ∃ n ∈ nodes, row.depth ≤ Entry.height n.entries := by
  induction nodes generalizing rows with
  | nil =>
    cases h
    simp
  | cons n ns ih =>
    obtain ⟨row, below, rest, hrow, hbelow, hrest, rfl⟩ := ofNodes_cons_eq_ok.1 h
    intro r hr
    rcases List.mem_cons.1 hr with rfl | hr
    · obtain ⟨size, -, rfl⟩ := nodeRow_eq_ok.1 hrow
      exact ⟨n, by simp, Nat.zero_le _⟩
    · rcases List.mem_append.1 hr with hr | hr
      · rcases inside_eq_ok.1 hbelow with ⟨-, hbelow⟩ | ⟨-, rfl⟩
        · have := depth_lt_of_ofEntries hbelow r hr
          exact ⟨n, by simp, by omega⟩
        · cases hr
      · obtain ⟨m, hm, le⟩ := ih hrest r hr
        exact ⟨m, by simp [hm], le⟩

/-- No more rows are shown than there is to show. -/
theorem length_le_length_subjects {nodes : List Node} {rows : List Row}
    (h : ofNodes zone x nodes = .ok rows) : rows.length ≤ (subjects nodes).length := by
  obtain ⟨shown, about, within⟩ := List.sublistForall₂_iff.1 (shows_nodes h)
  rw [about.length_eq]
  exact within.length_le

end Row

/-! ## Requests -/

namespace Service

variable {config : Config} {call : Call} {request : Request}

/-- What a configuration guarantees of the records that it accepts, and of every report of them. -/
structure Limited (config : Config) (files : List FileRecord) : Prop where
  records : (files.length : Int) ≤ config.maxRecords
  levels {nodes : List Node} (h : Node.report (files.map FileRecord.toRaw) = .ok nodes) :
    ∀ n ∈ nodes, (Entry.height n.entries : Int) ≤ config.maxPathDepth
  depth {nodes : List Node} (h : Node.report (files.map FileRecord.toRaw) = .ok nodes)
    {zone : Int} {x : Expansion} {rows : List Row} (hrows : Row.ofNodes zone x nodes = .ok rows) :
    ∀ row ∈ rows, (row.depth : Int) ≤ config.maxPathDepth
  rows {nodes : List Node} (h : Node.report (files.map FileRecord.toRaw) = .ok nodes)
    {zone : Int} {x : Expansion} {rows : List Row} (hrows : Row.ofNodes zone x nodes = .ok rows) :
    (rows.length : Int) ≤ files.length * (config.maxPathDepth + 1)

/-- The paths of accepted records keep the limit. -/
theorem length_segments_le_of_requested (h : requested config call = .ok request) :
    ∀ r ∈ request.files, (segments r.path).length ≤ config.maxPathDepth := by
  intro r hr
  obtain ⟨v, accepted⟩ := exists_accepted_of_requested h r hr
  obtain ⟨-, -, -, shallow⟩ := FileRecord.ofJson_eq_ok.1 accepted
  exact shallow

theorem shallow_of_requested (h : requested config call = .ok request) :
    Node.Shallow config.maxPathDepth.toNat (request.files.map FileRecord.toRaw) := by
  intro raw hraw path found
  obtain ⟨r, hr, rfl⟩ := List.mem_map.1 hraw
  cases found
  have := length_segments_le_of_requested h r hr
  omega

/-- Under a negative limit no record is accepted. -/
theorem toNat_maxPathDepth (h : requested config call = .ok request) (some : request.files ≠ []) :
    (config.maxPathDepth.toNat : Int) = config.maxPathDepth := by
  obtain ⟨r, hr⟩ := List.exists_mem_of_ne_nil _ some
  have := length_segments_le_of_requested h r hr
  omega

theorem limited_of_requested (h : requested config call = .ok request) :
    Limited config request.files := by
  have short := shallow_of_requested h
  have levels {nodes : List Node}
      (report : Node.report (request.files.map FileRecord.toRaw) = .ok nodes) :
      ∀ n ∈ nodes, (Entry.height n.entries : Int) ≤ config.maxPathDepth := by
    intro n hn
    have some : request.files ≠ [] := by
      rintro none
      rw [none] at report
      exact Node.recordsOf_ne_nil report hn rfl
    have := Node.height_le report short hn
    rw [← toNat_maxPathDepth h some]
    exact_mod_cast this
  refine ⟨?_, levels, ?_, ?_⟩
  · obtain ⟨items, few, read⟩ := exists_items_of_requested h
    rwa [← read.length_eq]
  · intro nodes report zone x rows hrows row hrow
    obtain ⟨n, hn, within⟩ := Row.exists_depth_le_height hrows row hrow
    have := levels report n hn
    omega
  · intro nodes report zone x rows hrows
    have counted := (Row.length_le_length_subjects hrows).trans
      (Node.length_subjects_le report short)
    rw [List.length_map] at counted
    rcases eq_or_ne request.files [] with none | some
    · rw [none] at counted ⊢
      simpa using counted
    · rw [← toNat_maxPathDepth h some]
      exact_mod_cast counted

/-- Every limit that is checked holds of every report: of how many records there are, of the levels
of trees and rows, and with these of the number of rows. The limit on paths is exact. A record of
which the fields can be read is refused, if its path has more segments than that, with a message
that tells how many they are, and is accepted otherwise. -/
theorem limits (config : Config) :
    (∀ call request, requested config call = .ok request → Limited config request.files) ∧
    ∀ fields r, FileRecord.Reads fields r →
      (FileRecord.ofJson config.maxPathDepth (.object fields)).mapError RecordErrors.toJson =
        if config.maxPathDepth < (segments r.path).length then
          .error (.object [("path", .list [.text ("Path is nested " ++
            toString (segments r.path).length ++ " levels deep, limit is " ++
            toString config.maxPathDepth ++ "." : String)])])
        else .ok r := by
  refine ⟨fun _ _ h => limited_of_requested h, fun fields r reads => ?_⟩
  rw [FileRecord.ofJson_of_reads reads]
  split <;> rfl

/-- A configuration for two records with paths of two segments. -/
def narrow : Config := { Config.default with maxRecords := 2, maxPathDepth := 2 }

/-- A call that posts a text of ASCII characters as JSON. -/
def posted (target : Text) (body : String) : Call where
  method := "POST"
  target
  contentType := some "application/json"
  body := body.toList.map fun c => UInt8.ofNat c.toNat

theorem limits_narrow :
    Limited narrow [⟨⟨[1]⟩, none, "/a//b", 1, none⟩] ∧
    (FileRecord.ofJson 2
        (.object [("node_id", .text "01"), ("path", .text "/a//b\\c"), ("size", .int 1)])).mapError
      RecordErrors.toJson =
        .error (.object [("path", .list [.text "Path is nested 3 levels deep, limit is 2."])]) := by
  have accepted : (requested narrow (posted "/api/v0/storage_usage"
      "\x7b\"files\":[\x7b\"node_id\":[1],\"path\":\"/a//b\",\"size\":1\x7d]\x7d")).toOption =
        some ⟨[⟨⟨[1]⟩, none, "/a//b", 1, none⟩], none⟩ := by
    decide +kernel
  refine ⟨(limits narrow).1 _ _ (Attempt.toOption_eq_some.1 accepted), ?_⟩
  exact (limits narrow).2 _ ⟨⟨[1]⟩, none, "/a//b\\c", 1, none⟩ ⟨rfl, rfl, rfl, rfl, rfl⟩

end Service

end UsageTree
