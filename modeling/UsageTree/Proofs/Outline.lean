import UsageTree.Proofs.Coverage
import UsageTree.Proofs.PerNode
import UsageTree.Proofs.Unfolding

/-!
# The tree that rows show

A table is a flat list of rows, and the depth of a row is all that tells where it belongs: the row
around it is the last one before it that is one level less deep. That row is open, and its own row
stands right in front of the rows inside it.

## Main definitions

* `Row.Outline` — rows of a tree, each in front of the rows inside it.
* `Row.Encloses` — a row stands for what the subject of another row is directly below.
* `Row.Outlined` — the depths of a table show the tree.

## Main statements

* `Row.Outline.leads`, `Row.Outline.exists_around` — what follows a row, and what is around it.
* `Row.outlined_of_report` — the rows of every report show its tree.
-/

namespace UsageTree

namespace Row

/-! ## Outlines -/

/-- The depth of the rows directly inside a row, or of the rows with no row around them. -/
def levelInside : Option Row → Nat
  | none => 0
  | some row => row.depth + 1

/-- Rows of a tree, each followed by the rows inside it; there are some exactly if the row is open.
`child` tells which rows stand directly inside a row. -/
inductive Outline (child : Option Row → Row → Prop) : Option Row → List Row → Prop
  | nil {around : Option Row} : Outline child around []
  | cons {around : Option Row} {row : Row} {below rest : List Row} (top : child around row)
      (expanded : row.expanded = !below.isEmpty) (inside : Outline child (some row) below)
      (next : Outline child around rest) : Outline child around (row :: (below ++ rest))

/-- What may follow a row: an open row is followed by a row inside it, any other by a row that is no
deeper. -/
structure Leads (row : Row) (next? : Option Row) : Prop where
  expanded_iff : row.expanded ↔ ∃ next ∈ next?, next.depth = row.depth + 1
  depth_le : row.expanded = false → ∀ next ∈ next?, next.depth ≤ row.depth

/-- A row of a list is the first one, or stands in the part behind it, or in the part after that. -/
theorem split_cases {first row : Row} {below rest before after : List Row}
    (split : first :: (below ++ rest) = before ++ row :: after) :
    (before = [] ∧ row = first ∧ after = below ++ rest) ∨
      (∃ b a, before = first :: b ∧ below = b ++ row :: a ∧ after = a ++ rest) ∨
      ∃ b, before = first :: (below ++ b) ∧ rest = b ++ row :: after := by
  rcases List.cons_eq_append_iff.1 split with ⟨rfl, h⟩ | ⟨b, rfl, h⟩
  · obtain ⟨rfl, rfl⟩ := List.cons.inj h
    exact .inl ⟨rfl, rfl, rfl⟩
  · rcases List.append_eq_append_iff.1 h with ⟨c, rfl, later⟩ | ⟨c, rfl, later⟩
    · exact .inr (.inr ⟨c, rfl, later⟩)
    · rcases List.cons_eq_append_iff.1 later with ⟨rfl, hrest⟩ | ⟨a, rfl, hafter⟩
      · exact .inr (.inr ⟨[], by simp, hrest⟩)
      · exact .inr (.inl ⟨b, a, rfl, rfl, hafter⟩)

section

variable {child : Option Row → Row → Prop} {around : Option Row} {rows : List Row}

/-- What holds of the outer rows, and of rows inside a row once it holds of that row, holds of all
rows. -/
theorem Outline.forall_rows (h : Outline child around rows) {P : Row → Prop}
    (outer : ∀ row, child around row → P row)
    (inner : ∀ row, P row → ∀ r, child (some row) r → P r) : ∀ row ∈ rows, P row := by
  induction h with
  | nil => simp
  | @cons around row below rest top expanded inside next ihInside ihNext =>
    intro r hr
    rcases List.mem_cons.1 hr with rfl | hr
    · exact outer r top
    · rcases List.mem_append.1 hr with hr | hr
      · exact ihInside (inner row (outer row top)) r hr
      · exact ihNext outer r hr

variable (deep : ∀ around row, child around row → row.depth = levelInside around)

include deep in
theorem Outline.level_le (h : Outline child around rows) :
    ∀ row ∈ rows, levelInside around ≤ row.depth := by
  refine h.forall_rows (fun row top => (deep around row top).ge) fun row le r inside => ?_
  have := deep _ r inside
  simp only [levelInside] at this
  omega

include deep in
theorem Outline.depth_head (h : Outline child around rows) :
    ∀ row ∈ rows.head?, row.depth = levelInside around := by
  cases h with
  | nil => simp
  | cons top expanded inside next =>
    intro r hr
    cases hr
    exact deep _ _ top

include deep in
/-- What follows a row of an outline, where more rows may follow the outline that are no deeper than
its outer rows. -/
theorem Outline.leads (h : Outline child around rows) {before after more : List Row} {row : Row}
    (split : rows = before ++ row :: after)
    (shallow : ∀ r ∈ more.head?, r.depth ≤ levelInside around) :
    Leads row (after ++ more).head? := by
  induction h generalizing before after more with
  | nil => simp at split
  | @cons around first below rest top expanded inside next ihInside ihNext =>
    have level := deep around first top
    have behind : ∀ r ∈ (rest ++ more).head?, r.depth ≤ first.depth := by
      rw [level]
      cases rest with
      | nil => simpa using shallow
      | cons r rest =>
        intro s hs
        cases hs
        exact (next.depth_head deep _ rfl).le
    rcases split_cases split with ⟨rfl, rfl, rfl⟩ | ⟨b, a, rfl, rfl, rfl⟩ | ⟨b, rfl, rfl⟩
    -- The row itself is open exactly if there are rows inside it.
    · cases below with
      | nil =>
        have closed : row.expanded = false := by simpa using expanded
        refine ⟨?_, fun _ => by simpa using behind⟩
        rw [closed]
        constructor
        · simp
        · rintro ⟨r, hr, deeper⟩
          have := behind r (by simpa using hr)
          omega
      | cons r below =>
        have opened : row.expanded = true := by simpa using expanded
        have first : r.depth = row.depth + 1 := inside.depth_head deep r rfl
        exact ⟨by simpa [opened] using first, by simp [opened]⟩
    · have shallower : ∀ r ∈ (rest ++ more).head?, r.depth ≤ levelInside (some first) :=
        fun r hr => (behind r hr).trans (Nat.le_succ _)
      rw [List.append_assoc]
      exact ihInside rfl shallower
    · exact ihNext rfl shallow

include deep in
/-- A row of an outline is one of the outer rows, or inside an open row that is the last one before
it that is less deep. -/
theorem Outline.exists_around (h : Outline child around rows) {before after : List Row} {row : Row}
    (split : rows = before ++ row :: after) :
    child around row ∨ ∃ front parent between, before = front ++ parent :: between ∧
      child (some parent) row ∧ parent.expanded ∧ ∀ r ∈ between, row.depth ≤ r.depth := by
  induction h generalizing before after with
  | nil => simp at split
  | @cons around first below rest top expanded inside next ihInside ihNext =>
    rcases split_cases split with ⟨rfl, rfl, rfl⟩ | ⟨b, a, rfl, rfl, rfl⟩ | ⟨b, rfl, rfl⟩
    · exact .inl top
    · right
      rcases ihInside rfl with child | ⟨front, parent, between, rfl, found⟩
      · refine ⟨[], first, b, rfl, child, by simp [expanded], fun r hr => ?_⟩
        rw [deep _ row child]
        exact inside.level_le deep r (by simp [hr])
      · exact ⟨first :: front, parent, between, rfl, found⟩
    · rcases ihNext rfl with outer | ⟨front, parent, between, rfl, found⟩
      · exact .inl outer
      · exact .inr ⟨first :: (below ++ front), parent, between, by simp, found⟩

end

/-! ## Outlines of reports -/

variable {zone : Int} {x : Expansion} {nodes : List Node} {rows : List Row}

/-- The second row is about something directly below what the first row is about; without a first
row it is about a node. -/
inductive Encloses (zone : Int) (x : Expansion) (nodes : List Node) : Option Row → Row → Prop
  | node {n : Node} {row : Row} (mem : n ∈ nodes) (made : nodeRow x n = .ok row) :
      Encloses zone x nodes none row
  | top {n : Node} {e : Entry} {parent row : Row} (mem : n ∈ nodes) (below : e ∈ n.entries)
      (outer : nodeRow x n = .ok parent) (made : entryRow zone x (nodeId n) 1 e = .ok row) :
      Encloses zone x nodes (some parent) row
  | entry {n : Node} {e c : Entry} {depth : Nat} {parent row : Row} (mem : n ∈ nodes)
      (among : e ∈ Entry.preorder n.entries) (below : c ∈ e.children) (deep : 0 < depth)
      (outer : entryRow zone x (nodeId n) depth e = .ok parent)
      (made : entryRow zone x (nodeId n) (depth + 1) c = .ok row) :
      Encloses zone x nodes (some parent) row

theorem Encloses.depth_eq {around : Option Row} {row : Row} (h : Encloses zone x nodes around row) :
    row.depth = levelInside around := by
  cases h with
  | node mem made =>
    obtain ⟨size, -, rfl⟩ := nodeRow_eq_ok.1 made
    rfl
  | top mem below outer made =>
    obtain ⟨size, -, rfl⟩ := nodeRow_eq_ok.1 outer
    obtain ⟨size, lastChanged, -, -, rfl⟩ := entryRow_eq_ok.1 made
    rfl
  | entry mem among below deep outer made =>
    obtain ⟨size, lastChanged, -, -, rfl⟩ := entryRow_eq_ok.1 outer
    obtain ⟨size, lastChanged, -, -, rfl⟩ := entryRow_eq_ok.1 made
    rfl

theorem isEmpty_ofEntries {top : Text} {depth : Nat} {es : List Entry}
    (h : ofEntries zone x top depth es = .ok rows) : rows.isEmpty = es.isEmpty := by
  cases es with
  | nil =>
    rw [ofEntries] at h
    cases h
    rfl
  | cons e es =>
    obtain ⟨row, below, rest, -, -, -, rfl⟩ := ofEntries_cons_eq_ok.1 h
    rfl

/-- There are rows inside a row exactly if there is something to show and the row is open. -/
theorem isEmpty_inside {top id : Text} {depth : Nat} {es : List Entry}
    (h : inside zone x top id depth es = .ok rows) :
    (!es.isEmpty && x.opens id) = !rows.isEmpty := by
  rcases inside_eq_ok.1 h with ⟨opened, h⟩ | ⟨closed, rfl⟩
  · rw [isEmpty_ofEntries h, opened, Bool.and_true]
  · simp [closed]

/-- Inside a closed row there is nothing, and inside an open one the outline of the entries. -/
theorem outline_inside {child : Option Row → Row → Prop} {around : Option Row} {top id : Text}
    {depth : Nat} {es : List Entry} (h : inside zone x top id depth es = .ok rows)
    (opened : ofEntries zone x top depth es = .ok rows → Outline child around rows) :
    Outline child around rows := by
  rcases inside_eq_ok.1 h with ⟨-, h⟩ | ⟨-, rfl⟩
  · exact opened h
  · exact .nil

/-- The rows of entries are an outline. The induction follows the tree; what is assumed of the
entries of a level is that their rows stand directly inside the row around them. -/
theorem outline_ofEntries {n : Node} (hn : n ∈ nodes) {around : Option Row} {depth : Nat}
    (deep : 0 < depth) {es : List Entry} (among : ∀ e ∈ es, e ∈ Entry.preorder n.entries)
    (outer : ∀ e ∈ es, ∀ row, entryRow zone x (nodeId n) depth e = .ok row →
      Encloses zone x nodes around row)
    (h : ofEntries zone x (nodeId n) depth es = .ok rows) :
    Outline (Encloses zone x nodes) around rows := by
  induction es using Entry.level_induction generalizing around depth rows with
  | nil =>
    rw [ofEntries] at h
    cases h
    exact .nil
  | cons e es ihBelow ihRest =>
    obtain ⟨row, below, rest, hrow, hbelow, hrest, rfl⟩ := ofEntries_cons_eq_ok.1 h
    have he : e ∈ Entry.preorder n.entries := among e (by simp)
    have flag : row.expanded = !below.isEmpty := by
      obtain ⟨size, lastChanged, -, -, rfl⟩ := entryRow_eq_ok.1 hrow
      exact isEmpty_inside hbelow
    refine .cons (outer e (by simp) row hrow) flag (outline_inside hbelow fun within => ?_) ?_
    · exact ihBelow (Nat.succ_pos depth) (fun c hc => Entry.mem_preorder_of_child he hc)
        (fun c hc r hr => .entry hn he hc deep hrow hr) within
    · exact ihRest deep (fun c hc => among c (by simp [hc])) (fun c hc => outer c (by simp [hc]))
        hrest

/-- The rows of nodes are an outline. -/
theorem outline_ofNodes {ns : List Node} (sub : ns ⊆ nodes) (h : ofNodes zone x ns = .ok rows) :
    Outline (Encloses zone x nodes) none rows := by
  induction ns generalizing rows with
  | nil =>
    cases h
    exact .nil
  | cons n ns ih =>
    obtain ⟨row, below, rest, hrow, hbelow, hrest, rfl⟩ := ofNodes_cons_eq_ok.1 h
    have hn : n ∈ nodes := sub (by simp)
    have flag : row.expanded = !below.isEmpty := by
      obtain ⟨size, -, rfl⟩ := nodeRow_eq_ok.1 hrow
      exact isEmpty_inside hbelow
    refine .cons (.node hn hrow) flag (outline_inside hbelow fun within => ?_)
      (ih (List.Subset.trans (List.subset_cons_self n ns) sub) hrest)
    exact outline_ofEntries hn Nat.one_pos (fun e he => Entry.mem_preorder_of_mem he)
      (fun e he r hr => .top hn he hrow hr) within

/-! ## Labels and paths -/

/-- The path that a row shows is the name of an entry at the top, and further down the path of the
row around it with the name behind a slash. -/
theorem Encloses.sublabel_eq {records : List RawRecord} (report : Node.report records = .ok nodes)
    {parent row : Row} (h : Encloses zone x nodes (some parent) row) :
    (parent.depth = 0 → row.sublabel = row.label) ∧
      (parent.depth ≠ 0 → row.sublabel = parent.sublabel ++ Path.slash :: row.label) ∧
      Path.slash ∉ row.label := by
  cases h with
  | @top n e _ _ mem below outer made =>
    obtain ⟨us, -, -, hentries⟩ := Node.exists_usages report mem
    have covers := (Entry.grown_of_under hentries).covers
    obtain ⟨size, -, rfl⟩ := nodeRow_eq_ok.1 outer
    obtain ⟨size, lastChanged, -, -, rfl⟩ := entryRow_eq_ok.1 made
    have plain := covers.name e (Entry.mem_preorder_of_mem below)
    exact ⟨fun _ => covers.path_top e below, fun inner => absurd rfl inner, plain.2.1⟩
  | @entry n e c depth _ _ mem among below deep outer made =>
    obtain ⟨us, -, -, hentries⟩ := Node.exists_usages report mem
    have covers := (Entry.grown_of_under hentries).covers
    obtain ⟨size, lastChanged, -, -, rfl⟩ := entryRow_eq_ok.1 outer
    obtain ⟨size, lastChanged, -, -, rfl⟩ := entryRow_eq_ok.1 made
    have plain := covers.name c (Entry.mem_preorder_of_child among below)
    exact ⟨fun outermost => absurd outermost deep.ne', fun _ => covers.path_child e among c below,
      plain.2.1⟩

/-- A row that is not that of a node is as deep as its path has segments between slashes. -/
theorem depth_eq_length_cut {records : List RawRecord} (report : Node.report records = .ok nodes)
    (h : Outline (Encloses zone x nodes) none rows) :
    ∀ row ∈ rows, row.depth ≠ 0 → row.depth = (Text.cut Path.slash row.sublabel).length := by
  refine h.forall_rows (fun row outer inner => ?_) fun parent shown row inside _ => ?_
  · exact absurd outer.depth_eq inner
  · have step : row.depth = parent.depth + 1 := inside.depth_eq
    obtain ⟨outermost, further, plain⟩ := inside.sublabel_eq report
    by_cases top : parent.depth = 0
    · rw [outermost top, Text.cut_eq_singleton plain, step, top, List.length_singleton]
    · rw [further top, Text.cut_append_cons, Text.cut_eq_singleton plain, List.length_append,
        ← shown top, step, List.length_singleton]

/-! ## The table of a report -/

/-- The depths of the rows show the tree that the rows are taken from. -/
structure Outlined (zone : Int) (x : Expansion) (nodes : List Node) (rows : List Row) : Prop where
  first : ∀ row ∈ rows.head?, row.depth = 0
  next : ∀ before row after, rows = before ++ row :: after → Leads row after.head?
  /-- A row at the top is that of a node. -/
  node : ∀ row ∈ rows, row.depth = 0 → ∃ n ∈ nodes, nodeRow x n = .ok row
  /-- The last row before a row that is one level less deep is open and is the row of what the
  subject of the row is directly below. -/
  around : ∀ before row after, rows = before ++ row :: after → row.depth ≠ 0 →
    ∃ front parent between, before = front ++ parent :: between ∧
      row.depth = parent.depth + 1 ∧ (∀ r ∈ between, row.depth ≤ r.depth) ∧
      parent.expanded ∧ Encloses zone x nodes (some parent) row ∧
      (row.depth = 1 → (∃ n ∈ nodes, nodeRow x n = .ok parent) ∧ row.sublabel = row.label) ∧
      (2 ≤ row.depth → row.sublabel = parent.sublabel ++ Path.slash :: row.label)
  /-- The depth of any other row is the number of segments of its path. -/
  depth : ∀ row ∈ rows, row.depth ≠ 0 → row.depth = (Text.cut Path.slash row.sublabel).length

/-- The rows of a report show its tree, whichever of them are open. -/
theorem outlined_of_report {records : List RawRecord} (report : Node.report records = .ok nodes)
    (h : ofNodes zone x nodes = .ok rows) : Outlined zone x nodes rows := by
  have outline := outline_ofNodes (List.Subset.refl nodes) h
  have deep : ∀ around row, Encloses zone x nodes around row → row.depth = levelInside around :=
    fun _ _ => Encloses.depth_eq
  have node : ∀ before row after, rows = before ++ row :: after → row.depth = 0 →
      ∃ n ∈ nodes, nodeRow x n = .ok row := by
    intro before row after split top
    rcases outline.exists_around deep split with outer | ⟨_, parent, _, _, inside, _⟩
    · cases outer with
      | node mem made => exact ⟨_, mem, made⟩
    · have := inside.depth_eq
      simp only [levelInside] at this
      omega
  refine ⟨outline.depth_head deep, fun before row after split => ?_, fun row hr top => ?_,
    fun before row after split inner => ?_, depth_eq_length_cut report outline⟩
  · have leads : Leads row (after ++ []).head? := outline.leads deep split (by simp)
    rwa [List.append_nil] at leads
  · obtain ⟨before, after, split⟩ := List.append_of_mem hr
    exact node before row after split top
  · rcases outline.exists_around deep split with outer | ⟨front, parent, between, rfl, found⟩
    · exact absurd outer.depth_eq inner
    · obtain ⟨inside, opened, deeper⟩ := found
      have step : row.depth = parent.depth + 1 := inside.depth_eq
      obtain ⟨outermost, further, -⟩ := inside.sublabel_eq report
      refine ⟨front, parent, between, rfl, step, deeper, opened, inside, fun one => ?_,
        fun two => further (by omega)⟩
      have top : parent.depth = 0 := by omega
      exact ⟨node front parent _ (by simpa using split) top, outermost top⟩

/-- Three nodes, of which one is closed, one is open above a closed entry, and one is open down to
its last entry. -/
theorem outlined_mingled : ∃ nodes rows, Node.report Node.mingled = .ok nodes ∧
    ofNodes 0 (.only ["node:07", "node:unknown", "node:unknown:a"]) nodes = .ok rows ∧
    rows.map Row.depth = [0, 0, 1, 0, 1, 2] ∧
    Outlined 0 (.only ["node:07", "node:unknown", "node:unknown:a"]) nodes rows := by
  have made : (Node.report Node.mingled >>=
      ofNodes 0 (.only ["node:07", "node:unknown", "node:unknown:a"])).toOption.map
        (List.map Row.depth) = some [0, 0, 1, 0, 1, 2] := by
    decide +kernel
  obtain ⟨rows, h, depths⟩ := Attempt.exists_of_map_toOption made
  obtain ⟨nodes, report, h⟩ := Attempt.bind_eq_ok.1 h
  exact ⟨nodes, rows, report, h, depths, outlined_of_report report h⟩

end Row

end UsageTree
