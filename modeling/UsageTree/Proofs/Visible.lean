import UsageTree.Proofs.Overflow
import UsageTree.Proofs.RowIds

/-!
# Rows one by one

The rows of a table are made one after the other for what is to be shown: for the nodes and entries
in their order, less those with a closed row around them. So the table fails for the first of these
that has no row, and nothing that is hidden can make it fail.

## Main definitions

* `Row.spots` — where the nodes and entries of a report stand.
* `Row.shown` — the spots with open rows around them only.
* `Row.atSpot` — the row of a spot alone.
* `Row.Showable` — there is a row for a node or an entry.

## Main statements

* `Row.ofNodes_eq_mapM` — the rows of a report are those of the shown spots, one by one.
* `Row.exists_ofNodes_iff` — there are rows, if there is one for every shown spot.
-/

namespace UsageTree.Row

variable {zone : Int} {x : Expansion}

/-- Where a node or an entry stands, and which it is. -/
abbrev Spot := Place × Subject

/-- The row of a spot alone. -/
def atSpot (zone : Int) (x : Expansion) (spot : Spot) : Except Fault Row :=
  match spot.2.entry with
  | none => nodeRow x spot.2.node
  | some e => entryRow zone x (nodeId spot.2.node) spot.1.around.length e

/-- The spots of some entries of a node and of all entries below them. -/
def entrySpots (n : Node) (around : List Text) (es : List Entry) : List Spot :=
  (levelPlaces (nodeId n) around es).zip (entrySubjects n es)

/-- The spots of a report, in the order of the rows of an open table. -/
def spots (nodes : List Node) : List Spot := (places nodes).zip (subjects nodes)

/-- All rows around a spot are open. -/
def isShown (x : Expansion) (spot : Spot) : Bool := spot.1.around.all x.opens

/-- The spots of which all rows around are open. -/
def shown (x : Expansion) (nodes : List Node) : List Spot := (spots nodes).filter (isShown x)

/-! ## Spots of trees -/

theorem length_levelPlaces (n : Node) (around : List Text) (es : List Entry) :
    (levelPlaces (nodeId n) around es).length = (entrySubjects n es).length := by
  induction es using Entry.level_induction generalizing around with
  | nil => rw [levelPlaces]; rfl
  | cons e es ihBelow ihRest =>
    rw [levelPlaces_cons, entrySubjects_cons]
    simp [ihBelow, ihRest]

theorem entrySpots_cons (n : Node) (around : List Text) (e : Entry) (es : List Entry) :
    entrySpots n around (e :: es) =
      (⟨around, entryId (nodeId n) e.path⟩, ⟨n, some e⟩) ::
        (entrySpots n (around ++ [entryId (nodeId n) e.path]) e.children ++
          entrySpots n around es) := by
  rw [entrySpots, levelPlaces_cons, entrySubjects_cons, List.zip_cons_cons,
    List.zip_append (length_levelPlaces ..)]
  rfl

theorem spots_cons (n : Node) (ns : List Node) :
    spots (n :: ns) = (⟨[], nodeId n⟩, ⟨n, none⟩) ::
      (entrySpots n [nodeId n] n.entries ++ spots ns) := by
  rw [spots, places_cons, subjects_cons, List.zip_cons_cons,
    List.zip_append (length_levelPlaces ..)]
  rfl

/-- Nothing is shown inside a closed row. -/
theorem filter_entrySpots_eq_nil {n : Node} {around : List Text} {es : List Entry} {id : Text}
    (mem : id ∈ around) (closed : ¬ x.opens id) :
    (entrySpots n around es).filter (isShown x) = [] := by
  refine List.filter_eq_nil_iff.2 fun spot hs opened => closed ?_
  exact List.all_eq_true.1 opened id (subset_around (List.of_mem_zip hs).1 mem)

/-! ## Making rows -/

/-- What is shown inside a row, given what is shown if the row is open. -/
theorem inside_eq_mapM (n : Node) (around : List Text) {id : Text} {depth : Nat} {es : List Entry}
    (opened : x.opens id → ofEntries zone x (nodeId n) depth es =
      ((entrySpots n (around ++ [id]) es).filter (isShown x)).mapM (atSpot zone x)) :
    inside zone x (nodeId n) id depth es =
      ((entrySpots n (around ++ [id]) es).filter (isShown x)).mapM (atSpot zone x) := by
  unfold inside
  split
  · rename_i h
    exact opened h
  · rename_i closed
    have last : id ∈ around ++ [id] := by simp
    rw [filter_entrySpots_eq_nil last closed]
    rfl

/-- The rows of entries inside open rows are made one by one. The induction follows the tree. -/
theorem ofEntries_eq_mapM {n : Node} {around : List Text} {depth : Nat}
    (opened : ∀ id ∈ around, x.opens id) (deep : depth = around.length) (es : List Entry) :
    ofEntries zone x (nodeId n) depth es =
      ((entrySpots n around es).filter (isShown x)).mapM (atSpot zone x) := by
  induction es using Entry.level_induction generalizing around depth with
  | nil =>
    rw [ofEntries, entrySpots, levelPlaces]
    rfl
  | cons e es ihBelow ihRest =>
    have below : inside zone x (nodeId n) (entryId (nodeId n) e.path) (depth + 1) e.children = _ :=
      inside_eq_mapM n around fun h =>
        ihBelow (by simpa [or_imp, forall_and] using ⟨opened, h⟩) (by simp [deep])
    have first : isShown x (⟨around, entryId (nodeId n) e.path⟩, ⟨n, some e⟩) :=
      List.all_eq_true.2 opened
    rw [ofEntries, ofEntry_eq, below, ihRest opened deep, entrySpots_cons, List.filter_cons,
      if_pos first, List.filter_append, List.mapM_cons, List.mapM_append]
    simp [atSpot, deep]

/-- The rows of a report are made one by one for what is to be shown. -/
theorem ofNodes_eq_mapM (zone : Int) (x : Expansion) (nodes : List Node) :
    ofNodes zone x nodes = (shown x nodes).mapM (atSpot zone x) := by
  induction nodes with
  | nil => rfl
  | cons n ns ih =>
    have opened (h : x.opens (nodeId n)) : ∀ id ∈ [nodeId n], x.opens id := by simpa using h
    have below : inside zone x (nodeId n) (nodeId n) 1 n.entries = _ :=
      inside_eq_mapM n [] fun h => ofEntries_eq_mapM (opened h) rfl n.entries
    have first : isShown x (⟨[], nodeId n⟩, ⟨n, none⟩) := rfl
    have step : ofNodes zone x (n :: ns) = do
        let row ← nodeRow x n
        let rows ← inside zone x (nodeId n) (nodeId n) 1 n.entries
        let more ← ofNodes zone x ns
        return row :: (rows ++ more) := by
      simp [ofNodes, ofNode_eq]
    rw [step, below, ih, shown, shown, spots_cons, List.filter_cons, if_pos first,
      List.filter_append, List.mapM_cons, List.mapM_append]
    simp [atSpot]

/-! ## What has a row -/

/-- The size can be shown, and the time, where one is shown, can be moved to the zone. -/
def Showable (zone : Int) (s : Subject) : Prop :=
  match s.entry with
  | none => ByteSize.InRange s.node.totalSize
  | some e => ByteSize.InRange e.size ∧ ∃ t, e.lastChanged.display zone = .ok t

theorem exists_atSpot_iff {spot : Spot} :
    (∃ row, atSpot zone x spot = .ok row) ↔ Showable zone spot.2 := by
  obtain ⟨place, n, entry⟩ := spot
  cases entry with
  | none =>
    simp only [atSpot, Showable, nodeRow_eq_ok, ← ByteSize.exists_text_iff]
    exact ⟨fun ⟨_, size, h, _⟩ => ⟨size, h⟩, fun ⟨size, h⟩ => ⟨_, size, h, rfl⟩⟩
  | some e =>
    simp only [atSpot, Showable, entryRow_eq_ok, ← ByteSize.exists_text_iff]
    exact ⟨fun ⟨_, size, t, h, ht, _⟩ => ⟨⟨size, h⟩, t, ht⟩,
      fun ⟨⟨size, h⟩, t, ht⟩ => ⟨_, size, t, h, ht, rfl⟩⟩

/-- There are rows, if there is one for everything that is to be shown. -/
theorem exists_ofNodes_iff {nodes : List Node} : (∃ rows, ofNodes zone x nodes = .ok rows) ↔
    ∀ spot ∈ shown x nodes, Showable zone spot.2 := by
  simp only [ofNodes_eq_mapM, Attempt.exists_mapM_iff, exists_atSpot_iff]

/-- If there is a row for everything, rows can be closed. -/
theorem exists_ofNodes_of_everything {nodes : List Node} {rows : List Row}
    (h : ofNodes zone .everything nodes = .ok rows) (x : Expansion) :
    ∃ rows, ofNodes zone x nodes = .ok rows := by
  refine exists_ofNodes_iff.2 fun spot hs => exists_ofNodes_iff.1 ⟨rows, h⟩ spot ?_
  exact List.mem_filter.2 ⟨List.mem_of_mem_filter hs, List.all_eq_true.2 fun _ _ => rfl⟩

end UsageTree.Row
