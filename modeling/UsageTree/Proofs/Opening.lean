import UsageTree.Proofs.Outline
import UsageTree.Proofs.Visible

/-!
# Opening one row

When one more row is opened, the rows inside it are put in behind it. All other rows stay as they
are and where they are. A row that is not shown, or has no children, makes no difference. So closing
the row again leads back.

## Main definitions

* `Row.Inner` — rows inside a row.
* `Row.Opened` — a table with and without the rows inside the rows with an id.

## Main statements

* `Row.opened_ofNodes` — what one more open id does to a table.
* `Row.ofNodes_toggled` — what it does to the table of a report, and that it can be undone.
-/

namespace UsageTree.Row

variable {zone : Int} {x y : Expansion} {id : Text}

/-! ## Rows inside a row -/

/-- What stands behind the id of a row in the ids of the rows inside it: a colon for the row of a
node, which is as far out as can be, and a slash for the row of an entry. -/
def joint (row : Row) : CodePoint := if row.depth = 0 then ':' else Path.slash

/-- Rows inside a row, of which there are some. They are deeper, and their ids go on behind its
own. -/
structure Inner (row : Row) (below : List Row) : Prop where
  ne_nil : below ≠ []
  deeper : ∀ r ∈ below, row.depth < r.depth
  ids : ∀ r ∈ below, row.id ++ [row.joint] <+: r.id

variable {records : List RawRecord} {nodes : List Node}

theorem Encloses.id_isPrefix (report : Node.report records = .ok nodes) {parent row : Row}
    (h : Encloses zone x nodes (some parent) row) : parent.id ++ [parent.joint] <+: row.id := by
  cases h with
  | @top n e _ _ mem below outer made =>
    obtain ⟨size, -, rfl⟩ := nodeRow_eq_ok.1 outer
    obtain ⟨size, lastChanged, -, -, rfl⟩ := entryRow_eq_ok.1 made
    exact ⟨e.path, rfl⟩
  | @entry n e c depth _ _ mem among below deep outer made =>
    obtain ⟨us, -, -, hentries⟩ := Node.exists_usages report mem
    have path := (Entry.grown_of_under hentries).covers.path_child e among c below
    obtain ⟨size, lastChanged, -, -, rfl⟩ := entryRow_eq_ok.1 outer
    obtain ⟨size, lastChanged, -, -, rfl⟩ := entryRow_eq_ok.1 made
    refine ⟨c.name, ?_⟩
    simp only [joint, deep.ne', if_false, entryId, path, List.append_assoc, List.singleton_append]

theorem Outline.inner (report : Node.report records = .ok nodes) {row : Row} {below : List Row}
    (h : Outline (Encloses zone x nodes) (some row) below) (nonempty : below ≠ []) :
    Inner row below := by
  have all : ∀ r ∈ below, row.depth < r.depth ∧ row.id ++ [row.joint] <+: r.id := by
    refine h.forall_rows (fun r inside => ?_) fun r ⟨deeper, longer⟩ s inside => ?_
    · have step : r.depth = row.depth + 1 := inside.depth_eq
      exact ⟨by omega, inside.id_isPrefix report⟩
    · have step : s.depth = r.depth + 1 := inside.depth_eq
      have within : r.id <+: s.id := (List.prefix_append ..).trans (inside.id_isPrefix report)
      exact ⟨by omega, longer.trans within⟩
  exact ⟨nonempty, fun r hr => (all r hr).1, fun r hr => (all r hr).2⟩

/-! ## Tables -/

/-- The second table has the rows inside the rows with the id that have children, and the first does
not have them. -/
inductive Opened (id : Text) : List Row → List Row → Prop
  | nil : Opened id [] []
  | keep {row : Row} {rows rows' : List Row} (other : row.id = id → row.hasChildren = false)
      (next : Opened id rows rows') : Opened id (row :: rows) (row :: rows')
  | insert {row : Row} {below rows rows' : List Row} (own : row.id = id)
      (children : row.hasChildren) (inner : Inner row below) (next : Opened id rows rows') :
      Opened id (row :: rows) ({ row with expanded := true } :: (below ++ rows'))

namespace Opened

variable {rows rows' more more' : List Row}

theorem append (h : Opened id rows rows') (h' : Opened id more more') :
    Opened id (rows ++ more) (rows' ++ more') := by
  induction h with
  | nil => exact h'
  | keep other next ih => exact .keep other ih
  | insert own children inner next ih =>
    rw [List.cons_append, List.cons_append, List.append_assoc]
    exact .insert own children inner ih

/-- Without such a row nothing is opened. -/
theorem eq_of_childless (h : Opened id rows rows')
    (childless : ∀ row ∈ rows, row.id = id → row.hasChildren = false) : rows' = rows := by
  induction h with
  | nil => rfl
  | keep other next ih => rw [ih fun row hr => childless row (by simp [hr])]
  | insert own children inner next ih => simp [childless _ List.mem_cons_self own] at children

/-- If ids do not repeat, one row is opened and no other. -/
theorem split (h : Opened id rows rows') (once : (rows.map Row.id).Nodup) {row : Row}
    (mem : row ∈ rows) (own : row.id = id) (children : row.hasChildren) :
    ∃ before below after, rows = before ++ row :: after ∧
      rows' = before ++ { row with expanded := true } :: (below ++ after) ∧ Inner row below := by
  induction h with
  | nil => cases mem
  | @keep first rows rows' other next ih =>
    rw [List.map_cons, List.nodup_cons] at once
    rcases List.mem_cons.1 mem with rfl | mem
    · simp [other own] at children
    · obtain ⟨before, below, after, rfl, rfl, inner⟩ := ih once.2 mem
      exact ⟨first :: before, below, after, rfl, rfl, inner⟩
  | @insert first below rows rows' own' children' inner next ih =>
    rw [List.map_cons, List.nodup_cons, List.mem_map] at once
    have others : ∀ r ∈ rows, r.id ≠ id := fun r hr same =>
      once.1 ⟨r, hr, same.trans own'.symm⟩
    rcases List.mem_cons.1 mem with rfl | mem
    · rw [next.eq_of_childless fun r hr same => absurd same (others r hr)]
      exact ⟨[], below, rows, rfl, rfl, inner⟩
    · exact absurd own (others row mem)

end Opened

/-! ## Opening rows of a tree -/

/-- The rows of one node or entry in two tables, with the id `own`, and with children or without. -/
structure Twins (x y : Expansion) (own : Text) (children : Bool) (row row' : Row) : Prop where
  id : row.id = own
  hasChildren : row.hasChildren = children
  expanded : row.expanded = (children && x.opens own)
  twin_eq : row' = { row with expanded := children && y.opens own }

theorem twins_entryRow {top : Text} {depth : Nat} {e : Entry} {row row' : Row}
    (h : entryRow zone x top depth e = .ok row) (h' : entryRow zone y top depth e = .ok row') :
    Twins x y (entryId top e.path) (!e.children.isEmpty) row row' := by
  obtain ⟨size, lastChanged, hsize, hlast, rfl⟩ := entryRow_eq_ok.1 h
  obtain ⟨size', lastChanged', hsize', hlast', rfl⟩ := entryRow_eq_ok.1 h'
  cases hsize.symm.trans hsize'
  cases hlast.symm.trans hlast'
  exact ⟨rfl, rfl, rfl, rfl⟩

theorem twins_nodeRow {n : Node} {row row' : Row} (h : nodeRow x n = .ok row)
    (h' : nodeRow y n = .ok row') : Twins x y (nodeId n) (!n.entries.isEmpty) row row' := by
  obtain ⟨size, hsize, rfl⟩ := nodeRow_eq_ok.1 h
  obtain ⟨size', hsize', rfl⟩ := nodeRow_eq_ok.1 h'
  cases hsize.symm.trans hsize'
  exact ⟨rfl, rfl, rfl, rfl⟩

theorem Twins.inner {own : Text} {children : Bool} {row row' : Row}
    (twins : Twins x y own children row row') {below : List Row} (h : Inner row' below) :
    Inner row below := by
  cases twins.twin_eq
  exact ⟨h.ne_nil, h.deeper, h.ids⟩

/-- The expansions agree on all rows but those with the id, which only the second one opens. -/
structure Opens (x y : Expansion) (id : Text) : Prop where
  closed : x.opens id = false
  opened : y.opens id = true
  same : ∀ i, i ≠ id → x.opens i = y.opens i

/-- A row, the rows inside it and the rows after these in two tables. If the row has the id, the
rows inside it appear where there were none; otherwise it is open in both tables or in neither. -/
theorem Twins.opened_cons (opens : Opens x y id) {top own : Text} {depth : Nat} {es : List Entry}
    {row row' : Row} (twins : Twins x y own (!es.isEmpty) row row')
    {below below' rest rest' : List Row} (hbelow : inside zone x top own depth es = .ok below)
    (hbelow' : inside zone y top own depth es = .ok below')
    (inner : ofEntries zone y top depth es = .ok below' → es ≠ [] → Inner row' below')
    (further : ofEntries zone x top depth es = .ok below →
      ofEntries zone y top depth es = .ok below' → Opened id below below')
    (next : Opened id rest rest') :
    Opened id (row :: (below ++ rest)) (row' :: (below' ++ rest')) := by
  have shown := twins.twin_eq
  by_cases here : own = id
  · cases here
    rw [inside, if_neg (by simp [opens.closed])] at hbelow
    rw [inside, if_pos opens.opened] at hbelow'
    cases hbelow
    cases es with
    | nil =>
      rw [ofEntries] at hbelow'
      cases hbelow'
      have shut : row.expanded = false := twins.expanded
      rw [List.isEmpty_nil, Bool.not_true, Bool.false_and, ← shut] at shown
      rw [shown]
      exact .keep (fun _ => twins.hasChildren) next
    | cons e es =>
      have block := twins.inner (inner hbelow' (List.cons_ne_nil e es))
      rw [opens.opened] at shown
      rw [shown]
      exact .insert twins.id twins.hasChildren block next
  · rw [← opens.same own here, ← twins.expanded] at shown
    rw [shown]
    refine .keep (fun same => absurd (twins.id.symm.trans same) here) (.append ?_ next)
    rcases inside_eq_ok.1 hbelow with ⟨opened, h⟩ | ⟨closed, rfl⟩
    · rw [opens.same own here] at opened
      rw [inside, if_pos opened] at hbelow'
      exact further h hbelow'
    · rw [opens.same own here] at closed
      rw [inside, if_neg closed] at hbelow'
      cases hbelow'
      exact .nil

/-- If there are any entries, their rows are rows inside the one around them. -/
theorem inner_ofEntries (report : Node.report records = .ok nodes) {top : Text} {depth : Nat}
    {es : List Entry} {row : Row} {below : List Row}
    (made : ofEntries zone y top depth es = .ok below)
    (outline : Outline (Encloses zone y nodes) (some row) below) (nonempty : es ≠ []) :
    Inner row below := by
  refine outline.inner report fun nothing => nonempty ?_
  rw [← List.isEmpty_iff, ← isEmpty_ofEntries made, nothing, List.isEmpty_nil]

/-- What one more open id does to the rows of some entries. The induction follows the tree. -/
theorem opened_ofEntries (report : Node.report records = .ok nodes) (opens : Opens x y id)
    {n : Node} (hn : n ∈ nodes) {depth : Nat} (deep : 0 < depth) {es : List Entry}
    (among : ∀ e ∈ es, e ∈ Entry.preorder n.entries) {rows rows' : List Row}
    (h : ofEntries zone x (nodeId n) depth es = .ok rows)
    (h' : ofEntries zone y (nodeId n) depth es = .ok rows') : Opened id rows rows' := by
  induction es using Entry.level_induction generalizing depth rows rows' with
  | nil =>
    rw [ofEntries] at h h'
    cases h
    cases h'
    exact .nil
  | cons e es ihBelow ihRest =>
    obtain ⟨row, below, rest, hrow, hbelow, hrest, rfl⟩ := ofEntries_cons_eq_ok.1 h
    obtain ⟨row', below', rest', hrow', hbelow', hrest', rfl⟩ := ofEntries_cons_eq_ok.1 h'
    have he : e ∈ Entry.preorder n.entries := among e (by simp)
    have children : ∀ c ∈ e.children, c ∈ Entry.preorder n.entries := fun c hc =>
      Entry.mem_preorder_of_child he hc
    refine (twins_entryRow hrow hrow').opened_cons opens hbelow hbelow' (fun made => ?_)
      (ihBelow (Nat.succ_pos depth) children)
      (ihRest deep (fun c hc => among c (by simp [hc])) hrest hrest')
    exact inner_ofEntries report made (outline_ofEntries hn (Nat.succ_pos depth) children
      (fun c hc r hr => .entry hn he hc deep hrow' hr) made)

theorem opened_ofNodes (report : Node.report records = .ok nodes) (opens : Opens x y id)
    {ns : List Node} (sub : ns ⊆ nodes) {rows rows' : List Row}
    (h : ofNodes zone x ns = .ok rows) (h' : ofNodes zone y ns = .ok rows') :
    Opened id rows rows' := by
  induction ns generalizing rows rows' with
  | nil =>
    cases h
    cases h'
    exact .nil
  | cons n ns ih =>
    obtain ⟨row, below, rest, hrow, hbelow, hrest, rfl⟩ := ofNodes_cons_eq_ok.1 h
    obtain ⟨row', below', rest', hrow', hbelow', hrest', rfl⟩ := ofNodes_cons_eq_ok.1 h'
    have hn : n ∈ nodes := sub (by simp)
    have top : ∀ e ∈ n.entries, e ∈ Entry.preorder n.entries := fun e he =>
      Entry.mem_preorder_of_mem he
    refine (twins_nodeRow hrow hrow').opened_cons opens hbelow hbelow' (fun made => ?_)
      (opened_ofEntries report opens hn Nat.one_pos top)
      (ih (List.Subset.trans (List.subset_cons_self n ns) sub) hrest hrest')
    exact inner_ofEntries report made (outline_ofEntries hn Nat.one_pos top
      (fun e he r hr => .top hn he hrow' hr) made)

/-! ## The table of a report -/

variable {ids more : List Text}

theorem opens_of_mem_iff (closed : id ∉ ids) (added : ∀ i, i ∈ more ↔ i = id ∨ i ∈ ids) :
    Opens (.only ids) (.only more) id where
  closed := by simpa [Expansion.opens] using closed
  opened := by simpa [Expansion.opens] using (added id).2 (.inl rfl)
  same i other := by simp [Expansion.opens, added, other]

/-- To open one more row of a report is to put the rows inside it behind it. It has rows inside,
which are deeper and have longer ids, and everything else stays where it is. Nothing happens if
no row with children has the id, and to close the row again leads back. -/
theorem ofNodes_toggled (report : Node.report records = .ok nodes) {all : List Row}
    (whole : ofNodes zone .everything nodes = .ok all) (closed : id ∉ ids)
    (added : ∀ i, i ∈ more ↔ i = id ∨ i ∈ ids) :
    ∃ rows rows', ofNodes zone (.only ids) nodes = .ok rows ∧
      ofNodes zone (.only more) nodes = .ok rows' ∧
      (∀ row ∈ rows, row.id = id → row.hasChildren → ∃ before below after,
        rows = before ++ row :: after ∧
        rows' = before ++ { row with expanded := true } :: (below ++ after) ∧ Inner row below) ∧
      ((∀ row ∈ rows, row.id = id → row.hasChildren = false) → rows' = rows) ∧
      ∀ less, (∀ i, i ∈ less ↔ i ∈ more ∧ i ≠ id) → ofNodes zone (.only less) nodes = .ok rows := by
  obtain ⟨rows, h⟩ := exists_ofNodes_of_everything whole (.only ids)
  obtain ⟨rows', h'⟩ := exists_ofNodes_of_everything whole (.only more)
  have opened := opened_ofNodes report (opens_of_mem_iff closed added) (List.Subset.refl _) h h'
  refine ⟨rows, rows', h, h', fun row => opened.split (nodup_ids report h), opened.eq_of_childless,
    fun less removed => ?_⟩
  have same (i : Text) : i ∈ ids ↔ i ∈ less := by
    rw [removed, added]
    exact ⟨fun mem => ⟨.inr mem, fun same => closed (same ▸ mem)⟩,
      fun ⟨mem, other⟩ => mem.resolve_left other⟩
  exact ofNodes_congr h fun row _ _ => by simp [Expansion.opens, same]

/-- One entry opened inside one of several nodes. -/
theorem ofNodes_toggled_mingled : ∃ nodes rows rows' row before below after,
    Node.report Node.mingled = .ok nodes ∧
      ofNodes 0 (.only ["node:unknown"]) nodes = .ok rows ∧
      ofNodes 0 (.only ["node:unknown:a", "node:unknown"]) nodes = .ok rows' ∧
      row.id = ("node:unknown:a" : Text) ∧ rows = before ++ row :: after ∧
      rows' = before ++ { row with expanded := true } :: (below ++ after) ∧ Inner row below := by
  have made : (Node.report Node.mingled >>= ofNodes 0 .everything).toOption.map List.length =
      some 8 := by
    decide +kernel
  have listed : (Node.report Node.mingled >>= ofNodes 0 (.only ["node:unknown"])).toOption.map
      (List.any · fun row => row.id = ("node:unknown:a" : Text) ∧ row.hasChildren) = some true := by
    decide +kernel
  obtain ⟨all, h, -⟩ := Attempt.exists_of_map_toOption made
  obtain ⟨nodes, report, whole⟩ := Attempt.bind_eq_ok.1 h
  obtain ⟨rows, h, any⟩ := Attempt.exists_of_map_toOption listed
  obtain ⟨nodes', report', h⟩ := Attempt.bind_eq_ok.1 h
  cases report.symm.trans report'
  have fresh : ("node:unknown:a" : Text) ∉ ([("node:unknown" : Text)] : List Text) := by
    decide +kernel
  obtain ⟨_, rows', h', more, put, -⟩ := ofNodes_toggled report whole fresh fun i => List.mem_cons
  cases h.symm.trans h'
  obtain ⟨row, mem, found⟩ := List.any_eq_true.1 any
  obtain ⟨own, children⟩ := of_decide_eq_true found
  obtain ⟨before, below, after, shown⟩ := put row mem own children
  exact ⟨nodes, rows, rows', row, before, below, after, report, h, more, own, shown⟩

end UsageTree.Row
