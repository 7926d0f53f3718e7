import UsageTree.Proofs.Attempt
import UsageTree.Row

/-!
# Rows that are shown

A table with some rows closed is the table with all rows open, without the rows that stand somewhere
inside a closed one. Rows are closed by their ids alone, and only those that are shown and have
children count.

## Main definitions

* `Row.Place` — where a row stands in the table with all rows open.
* `Row.places` — the places of a report.
* `Row.collapse` — what is left of a table once rows are closed.

## Main statements

* `Row.ofEntries_cons_eq_ok`, `Row.ofNodes_cons_eq_ok` — one step of making rows.
* `Row.ofNodes_only` — closing rows is leaving out what stands inside them.
-/

namespace UsageTree.Row

variable {zone : Int} {x y : Expansion} {top : Text} {depth : Nat}

/-! ## Single steps -/

/-- The row of an entry in full. -/
theorem entryRow_eq_ok {e : Entry} {row : Row} : entryRow zone x top depth e = .ok row ↔
    ∃ size lastChanged, ByteSize.text e.size = .ok size ∧
      e.lastChanged.display zone = .ok lastChanged ∧
      row = ⟨entryId top e.path, depth, e.name, e.path, e.percent.oneDecimal ++ "%", size,
        toString e.itemCount, lastChanged, !e.children.isEmpty,
        !e.children.isEmpty && x.opens (entryId top e.path)⟩ := by
  unfold entryRow
  constructor
  · intro h
    obtain ⟨size, hsize, h⟩ := Attempt.bind_eq_ok.1 h
    obtain ⟨lastChanged, hlast, h⟩ := Attempt.bind_eq_ok.1 h
    cases h
    exact ⟨size, lastChanged, hsize, hlast, rfl⟩
  · rintro ⟨size, lastChanged, hsize, hlast, rfl⟩
    exact Attempt.bind_eq_ok.2 ⟨size, hsize, Attempt.bind_eq_ok.2 ⟨lastChanged, hlast, rfl⟩⟩

/-- The row of a node in full. -/
theorem nodeRow_eq_ok {n : Node} {row : Row} : nodeRow x n = .ok row ↔
    ∃ size, ByteSize.text n.totalSize = .ok size ∧
      row = ⟨nodeId n, 0, n.name, n.id, "100%", size, "-", "-", !n.entries.isEmpty,
        !n.entries.isEmpty && x.opens (nodeId n)⟩ := by
  unfold nodeRow
  constructor
  · intro h
    obtain ⟨size, hsize, h⟩ := Attempt.bind_eq_ok.1 h
    cases h
    exact ⟨size, hsize, rfl⟩
  · rintro ⟨size, hsize, rfl⟩
    exact Attempt.bind_eq_ok.2 ⟨size, hsize, rfl⟩

/-- The rows below a row with an id: none if the row is closed. -/
def inside (zone : Int) (x : Expansion) (top id : Text) (depth : Nat) (es : List Entry) :
    Except Fault (List Row) :=
  if x.opens id then ofEntries zone x top depth es else .ok []

theorem inside_eq_ok {id : Text} {es : List Entry} {rows : List Row} :
    inside zone x top id depth es = .ok rows ↔
      x.opens id ∧ ofEntries zone x top depth es = .ok rows ∨ ¬ x.opens id ∧ rows = [] := by
  unfold inside
  by_cases opened : x.opens id <;> simp [opened, eq_comm]

theorem inside_eq_ite (zone : Int) (x : Expansion) (top id : Text) (depth : Nat)
    (es : List Entry) : inside zone x top id depth es =
      if !es.isEmpty && x.opens id then ofEntries zone x top depth es else .ok [] := by
  cases es with
  | nil =>
    rw [inside, ofEntries]
    simp
  | cons e es => simp [inside]

theorem ofEntry_eq (zone : Int) (x : Expansion) (top : Text) (depth : Nat) (e : Entry) :
    ofEntry zone x top depth e = do
      let row ← entryRow zone x top depth e
      let below ← inside zone x top (entryId top e.path) (depth + 1) e.children
      return row :: below := by
  obtain ⟨path, name, size, itemCount, lastChanged, percent, children⟩ := e
  rw [ofEntry]
  cases hrow : entryRow zone x top depth
    ⟨path, name, size, itemCount, lastChanged, percent, children⟩ with
  | error f => rfl
  | ok row =>
    obtain ⟨size, lastChanged, -, -, rfl⟩ := entryRow_eq_ok.1 hrow
    simp only [Attempt.ok_bind, inside_eq_ite]
    split <;> rfl

theorem ofNode_eq (zone : Int) (x : Expansion) (n : Node) :
    ofNode zone x n = do
      let row ← nodeRow x n
      let below ← inside zone x (nodeId n) (nodeId n) 1 n.entries
      return row :: below := by
  rw [ofNode]
  cases hrow : nodeRow x n with
  | error f => rfl
  | ok row =>
    obtain ⟨size, -, rfl⟩ := nodeRow_eq_ok.1 hrow
    simp only [Attempt.ok_bind, inside_eq_ite]
    split <;> rfl

/-- The first entry has a row, in front of the rows inside it and of the rows of the other
entries. -/
theorem ofEntries_cons_eq_ok {e : Entry} {es : List Entry} {rows : List Row} :
    ofEntries zone x top depth (e :: es) = .ok rows ↔ ∃ row below rest,
      entryRow zone x top depth e = .ok row ∧
      inside zone x top (entryId top e.path) (depth + 1) e.children = .ok below ∧
      ofEntries zone x top depth es = .ok rest ∧ rows = row :: (below ++ rest) := by
  rw [ofEntries, ofEntry_eq]
  simp only [Attempt.bind_eq_ok]
  constructor
  · rintro ⟨_, ⟨row, hrow, below, hbelow, ⟨⟩⟩, rest, hrest, ⟨⟩⟩
    exact ⟨row, below, rest, hrow, hbelow, hrest, rfl⟩
  · rintro ⟨row, below, rest, hrow, hbelow, hrest, rfl⟩
    exact ⟨row :: below, ⟨row, hrow, below, hbelow, rfl⟩, rest, hrest, rfl⟩

/-- The first node has a row, in front of the rows inside it and of the rows of the other nodes. -/
theorem ofNodes_cons_eq_ok {n : Node} {ns : List Node} {rows : List Row} :
    ofNodes zone x (n :: ns) = .ok rows ↔ ∃ row below rest,
      nodeRow x n = .ok row ∧
      inside zone x (nodeId n) (nodeId n) 1 n.entries = .ok below ∧
      ofNodes zone x ns = .ok rest ∧ rows = row :: (below ++ rest) := by
  simp only [ofNodes, List.mapM_cons, ofNode_eq, Attempt.bind_eq_ok]
  constructor
  · rintro ⟨_, ⟨_, ⟨row, hrow, below, hbelow, ⟨⟩⟩, parts, hparts, ⟨⟩⟩, ⟨⟩⟩
    exact ⟨row, below, parts.flatten, hrow, hbelow, ⟨parts, hparts, rfl⟩, rfl⟩
  · rintro ⟨row, below, _, hrow, hbelow, ⟨parts, hparts, ⟨⟩⟩, rfl⟩
    exact ⟨(row :: below) :: parts,
      ⟨row :: below, ⟨row, hrow, below, hbelow, rfl⟩, parts, hparts, rfl⟩, rfl⟩

/-! ## Places -/

/-- Where a row stands in the table with all rows open: the ids of the rows around it, from the row
of the node inwards, and its own id. -/
structure Place where
  around : List Text
  id : Text
  deriving Repr, DecidableEq

mutual

/-- The places of an entry and of all entries below it. -/
def entryPlaces (top : Text) (around : List Text) : Entry → List Place
  | ⟨path, _, _, _, _, _, children⟩ =>
    ⟨around, entryId top path⟩ ::
      levelPlaces top (around ++ [entryId top path]) children

/-- The places of some entries inside the same rows, and of all entries below them. -/
def levelPlaces (top : Text) (around : List Text) : List Entry → List Place
  | [] => []
  | e :: rest => entryPlaces top around e ++ levelPlaces top around rest

end

/-- The places of a node and of all its entries. -/
def nodePlaces (n : Node) : List Place :=
  ⟨[], nodeId n⟩ :: levelPlaces (nodeId n) [nodeId n] n.entries

/-- The places of a report, from the first row to the last. -/
def places (nodes : List Node) : List Place := nodes.flatMap nodePlaces

theorem levelPlaces_cons (top : Text) (around : List Text) (e : Entry) (es : List Entry) :
    levelPlaces top around (e :: es) = ⟨around, entryId top e.path⟩ ::
      (levelPlaces top (around ++ [entryId top e.path]) e.children ++
        levelPlaces top around es) := by
  cases e
  rw [levelPlaces, entryPlaces, List.cons_append]

theorem places_cons (n : Node) (ns : List Node) :
    places (n :: ns) = ⟨[], nodeId n⟩ ::
      (levelPlaces (nodeId n) [nodeId n] n.entries ++ places ns) := rfl

/-- Further in there are only more rows around. -/
theorem subset_around {around : List Text} {es : List Entry} {place : Place}
    (h : place ∈ levelPlaces top around es) : around ⊆ place.around := by
  induction es using Entry.level_induction generalizing around with
  | nil =>
    rw [levelPlaces] at h
    cases h
  | cons e es ihBelow ihRest =>
    rw [levelPlaces_cons, List.mem_cons, List.mem_append] at h
    rcases h with rfl | h | h
    · exact List.Subset.refl _
    · exact fun i hi => ihBelow h (List.mem_append_left _ hi)
    · exact ihRest h

/-- The row stands at the place: it has the id, and is as deep as there are rows around it. -/
structure Fits (row : Row) (place : Place) : Prop where
  id : row.id = place.id
  depth : row.depth = place.around.length

theorem fits_levelPlaces {es : List Entry} {rows : List Row} {around : List Text}
    (h : ofEntries zone .everything top depth es = .ok rows) (deep : depth = around.length) :
    List.Forall₂ Fits rows (levelPlaces top around es) := by
  induction es using Entry.level_induction generalizing depth around rows with
  | nil =>
    rw [ofEntries] at h
    cases h
    rw [levelPlaces]
    exact .nil
  | cons e es ihBelow ihRest =>
    obtain ⟨row, below, rest, hrow, hbelow, hrest, rfl⟩ := ofEntries_cons_eq_ok.1 h
    obtain ⟨size, lastChanged, -, -, rfl⟩ := entryRow_eq_ok.1 hrow
    rw [levelPlaces_cons]
    refine .cons ⟨rfl, deep⟩ (List.rel_append (ihBelow hbelow ?_) (ihRest hrest deep))
    rw [deep, List.length_append, List.length_singleton]

/-- The rows of a report with all rows open stand at the places of the report. -/
theorem fits_places {nodes : List Node} {rows : List Row}
    (h : ofNodes zone .everything nodes = .ok rows) : List.Forall₂ Fits rows (places nodes) := by
  induction nodes generalizing rows with
  | nil =>
    cases h
    exact .nil
  | cons n ns ih =>
    obtain ⟨row, below, rest, hrow, hbelow, hrest, rfl⟩ := ofNodes_cons_eq_ok.1 h
    obtain ⟨size, -, rfl⟩ := nodeRow_eq_ok.1 hrow
    rw [places_cons]
    exact .cons ⟨rfl, rfl⟩ (List.rel_append (fits_levelPlaces hbelow rfl) (ih hrest))

/-! ## Closing rows -/

/-- The row as it is shown when the rows with the ids `ids` are open. -/
def reopen (ids : List Text) (row : Row) : Row :=
  { row with expanded := row.hasChildren && ids.contains row.id }

/-- What is left of a table once the rows with the ids `ids` alone are open: the rows inside open
rows only. -/
def collapse (ids : List Text) (rows : List Row) (places : List Place) : List Row :=
  ((rows.zip places).filter fun p => p.2.around.all ids.contains).map fun p => reopen ids p.1

variable {ids : List Text}

theorem collapse_cons (row : Row) (rows : List Row) (place : Place) (places : List Place) :
    collapse ids (row :: rows) (place :: places) =
      if ∀ id ∈ place.around, id ∈ ids then reopen ids row :: collapse ids rows places
      else collapse ids rows places := by
  unfold collapse
  rw [List.zip_cons_cons, List.filter_cons]
  split <;> simp_all

theorem collapse_append {rows rows' : List Row} {places places' : List Place}
    (h : rows.length = places.length) :
    collapse ids (rows ++ rows') (places ++ places') =
      collapse ids rows places ++ collapse ids rows' places' := by
  simp only [collapse, List.zip_append h, List.filter_append, List.map_append]

/-- Inside a closed row nothing is left. -/
theorem collapse_eq_nil {id : Text} (closed : id ∉ ids) {rows : List Row} {places : List Place}
    (inside : ∀ place ∈ places, id ∈ place.around) : collapse ids rows places = [] := by
  refine List.map_eq_nil_iff.2 (List.filter_eq_nil_iff.2 fun p hp => ?_)
  have within := inside p.2 (List.of_mem_zip hp).2
  simpa using ⟨id, within, closed⟩

/-- The rows inside a row that is open or closed, given those of the open row. -/
theorem inside_only {id : Text} {around : List Text} (shown : ∀ i ∈ around, i ∈ ids)
    {es : List Entry} {rows : List Row}
    (opened : (∀ i ∈ around ++ [id], i ∈ ids) → ofEntries zone (.only ids) top depth es =
      .ok (collapse ids rows (levelPlaces top (around ++ [id]) es))) :
    inside zone (.only ids) top id depth es =
      .ok (collapse ids rows (levelPlaces top (around ++ [id]) es)) := by
  by_cases hid : id ∈ ids
  · have within : ∀ i ∈ around ++ [id], i ∈ ids := by
      intro i hi
      rcases List.mem_append.1 hi with hi | hi
      · exact shown i hi
      · rwa [List.mem_singleton.1 hi]
    rw [inside, if_pos (by simpa [Expansion.opens] using hid)]
    exact opened within
  · have nothing : collapse ids rows (levelPlaces top (around ++ [id]) es) = [] :=
      collapse_eq_nil hid fun place hp => subset_around hp (by simp)
    rw [inside, if_neg (by simpa [Expansion.opens] using hid), nothing]

/-- Closing rows below some rows that are shown. The induction follows the tree: the rows inside an
entry are either left out altogether, or the entry is one of the open rows around them. -/
theorem ofEntries_only {around : List Text} (shown : ∀ id ∈ around, id ∈ ids) {es : List Entry}
    {rows : List Row} (h : ofEntries zone .everything top depth es = .ok rows)
    (deep : depth = around.length) :
    ofEntries zone (.only ids) top depth es =
      .ok (collapse ids rows (levelPlaces top around es)) := by
  induction es using Entry.level_induction generalizing depth around rows with
  | nil =>
    rw [ofEntries] at h ⊢
    cases h
    rfl
  | cons e es ihBelow ihRest =>
    obtain ⟨row, below, rest, hrow, hbelow, hrest, rfl⟩ := ofEntries_cons_eq_ok.1 h
    obtain ⟨size, lastChanged, hsize, hlast, rfl⟩ := entryRow_eq_ok.1 hrow
    have deeper : depth + 1 = (around ++ [entryId top e.path]).length := by simp [deep]
    have fits := (fits_levelPlaces hbelow deeper).length_eq
    refine ofEntries_cons_eq_ok.2 ⟨_, _, _, entryRow_eq_ok.2 ⟨size, lastChanged, hsize, hlast, rfl⟩,
      inside_only shown fun within => ihBelow within hbelow deeper, ihRest shown hrest deep, ?_⟩
    rw [levelPlaces_cons, collapse_cons, if_pos shown, collapse_append fits]
    rfl

/-! ## Which ids count -/

theorem expanded_congr {id : Text} {children : Bool}
    (agree : children → x.opens id = y.opens id) :
    (children && x.opens id) = (children && y.opens id) := by
  cases children with
  | false => rfl
  | true => exact agree rfl

theorem inside_congr {id : Text} {es : List Entry} {rows : List Row}
    (flags : (!es.isEmpty && x.opens id) = (!es.isEmpty && y.opens id))
    (h : inside zone x top id depth es = .ok rows)
    (further : ofEntries zone x top depth es = .ok rows →
      ofEntries zone y top depth es = .ok rows) :
    inside zone y top id depth es = .ok rows := by
  rw [inside_eq_ite] at h ⊢
  rw [← flags]
  split
  · rename_i opened
    rw [if_pos opened] at h
    exact further h
  · rename_i closed
    rw [if_neg closed] at h
    exact h

/-- Two expansions show the same rows if they agree on the rows with children that one of them
shows. -/
theorem ofEntries_congr {es : List Entry} {rows : List Row}
    (h : ofEntries zone x top depth es = .ok rows)
    (agree : ∀ row ∈ rows, row.hasChildren → x.opens row.id = y.opens row.id) :
    ofEntries zone y top depth es = .ok rows := by
  induction es using Entry.level_induction generalizing depth rows with
  | nil =>
    rw [ofEntries] at h ⊢
    exact h
  | cons e es ihBelow ihRest =>
    obtain ⟨row, below, rest, hrow, hbelow, hrest, rfl⟩ := ofEntries_cons_eq_ok.1 h
    obtain ⟨size, lastChanged, hsize, hlast, rfl⟩ := entryRow_eq_ok.1 hrow
    have flags := expanded_congr (agree _ List.mem_cons_self)
    have agreeBelow : ∀ row ∈ below, row.hasChildren → x.opens row.id = y.opens row.id :=
      fun row hr => agree row (by simp [hr])
    have agreeRest : ∀ row ∈ rest, row.hasChildren → x.opens row.id = y.opens row.id :=
      fun row hr => agree row (by simp [hr])
    refine ofEntries_cons_eq_ok.2 ⟨_, below, rest, entryRow_eq_ok.2 ⟨size, lastChanged, hsize,
      hlast, rfl⟩, ?_, ihRest hrest agreeRest, ?_⟩
    · exact inside_congr flags hbelow fun within => ihBelow within agreeBelow
    · exact congrArg (fun opened => Row.mk _ _ _ _ _ _ _ _ _ opened :: (below ++ rest)) flags

theorem ofNodes_congr {nodes : List Node} {rows : List Row}
    (h : ofNodes zone x nodes = .ok rows)
    (agree : ∀ row ∈ rows, row.hasChildren → x.opens row.id = y.opens row.id) :
    ofNodes zone y nodes = .ok rows := by
  induction nodes generalizing rows with
  | nil => exact h
  | cons n ns ih =>
    obtain ⟨row, below, rest, hrow, hbelow, hrest, rfl⟩ := ofNodes_cons_eq_ok.1 h
    obtain ⟨size, hsize, rfl⟩ := nodeRow_eq_ok.1 hrow
    have flags := expanded_congr (agree _ List.mem_cons_self)
    have agreeBelow : ∀ row ∈ below, row.hasChildren → x.opens row.id = y.opens row.id :=
      fun row hr => agree row (by simp [hr])
    have agreeRest : ∀ row ∈ rest, row.hasChildren → x.opens row.id = y.opens row.id :=
      fun row hr => agree row (by simp [hr])
    refine ofNodes_cons_eq_ok.2 ⟨_, below, rest, nodeRow_eq_ok.2 ⟨size, hsize, rfl⟩, ?_,
      ih hrest agreeRest, ?_⟩
    · exact inside_congr flags hbelow fun within => ofEntries_congr within agreeBelow
    · exact congrArg (fun opened => Row.mk _ _ _ _ _ _ _ _ _ opened :: (below ++ rest)) flags

/-! ## All nodes -/

/-- With some rows alone open, a report shows the rows of which all rows around are open, in the
order in which they stand when all rows are, and unchanged but for being open themselves. It matters
only which of the rows shown that have children are open. -/
theorem ofNodes_only {nodes : List Node} {rows : List Row}
    (h : ofNodes zone .everything nodes = .ok rows) (ids : List Text) :
    List.Forall₂ Fits rows (places nodes) ∧
      ofNodes zone (.only ids) nodes = .ok (collapse ids rows (places nodes)) ∧
      ∀ ids', (∀ row ∈ collapse ids rows (places nodes),
        row.hasChildren → (row.id ∈ ids ↔ row.id ∈ ids')) →
          ofNodes zone (.only ids') nodes = .ok (collapse ids rows (places nodes)) := by
  have closed : ofNodes zone (.only ids) nodes = .ok (collapse ids rows (places nodes)) := by
    induction nodes generalizing rows with
    | nil =>
      cases h
      rfl
    | cons n ns ih =>
      obtain ⟨row, below, rest, hrow, hbelow, hrest, rfl⟩ := ofNodes_cons_eq_ok.1 h
      obtain ⟨size, hsize, rfl⟩ := nodeRow_eq_ok.1 hrow
      have fits : below.length = (levelPlaces (nodeId n) ([] ++ [nodeId n]) n.entries).length :=
        (fits_levelPlaces hbelow rfl).length_eq
      have shown : ∀ id ∈ ([] : List Text), id ∈ ids := by simp
      refine ofNodes_cons_eq_ok.2 ⟨_, _, _, nodeRow_eq_ok.2 ⟨size, hsize, rfl⟩,
        inside_only shown fun within => ofEntries_only within hbelow rfl, ih hrest, ?_⟩
      rw [places_cons, collapse_cons, if_pos shown]
      exact congrArg _ (collapse_append fits)
  refine ⟨fits_places h, closed, fun ids' agree => ofNodes_congr closed fun row hr children => ?_⟩
  have := agree row hr children
  simp [Expansion.opens, this]

/-- A node with entries three levels deep, and an entry beside them. -/
def outline : List Node :=
  [⟨"disk", "07", 9,
    [⟨"a", "a", 8, 2, none, 0, [⟨"a/b", "b", 8, 2, none, 0, [⟨"a/b/c", "c", 3, 1, none, 0, []⟩]⟩]⟩,
      ⟨"d", "d", 1, 1, none, 0, []⟩]⟩]

/-- An open row inside a closed one stays hidden, and so does what is inside it. Ids of rows that
are hidden, have no children or do not exist make no difference. -/
theorem only_outline : ∃ rows, ofNodes 0 .everything outline = .ok rows ∧
    ofNodes 0 (.only ["node:07", "node:07:a/b"]) outline =
      .ok (collapse ["node:07", "node:07:a/b"] rows (places outline)) ∧
    ofNodes 0 (.only ["node:07:d", "node:07", "node:08"]) outline =
      .ok (collapse ["node:07", "node:07:a/b"] rows (places outline)) ∧
    (collapse ["node:07", "node:07:a/b"] rows (places outline)).map Row.id =
      (["node:07", "node:07:a", "node:07:d"] : List Text) := by
  have made : (ofNodes 0 .everything outline).toOption.map List.length = some 5 := by
    decide +kernel
  obtain ⟨rows, h, -⟩ := Attempt.exists_of_map_toOption made
  obtain ⟨-, closed, free⟩ := ofNodes_only h ["node:07", "node:07:a/b"]
  have shown : (ofNodes 0 (.only ["node:07", "node:07:a/b"]) outline).toOption.all fun shown =>
      (∀ row ∈ shown, row.hasChildren → (row.id ∈ (["node:07", "node:07:a/b"] : List Text) ↔
        row.id ∈ (["node:07:d", "node:07", "node:08"] : List Text))) ∧
      shown.map Row.id = (["node:07", "node:07:a", "node:07:d"] : List Text) := by
    decide +kernel
  rw [closed] at shown
  obtain ⟨agree, ids⟩ : _ ∧ _ := by simpa only [Except.toOption, Option.all_some,
    decide_eq_true_eq] using shown
  exact ⟨rows, h, closed, free _ agree, ids⟩

end UsageTree.Row
