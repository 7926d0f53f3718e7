import UsageTree.Proofs.Levels

/-!
# Trees of entries

A tree of entries is walked in preorder: an entry comes before those below it. When entries could be
made of a list of files, every one of them, however deep, has a place given by segments, and stands
there for the files at or below that place.

## Main definitions

* `Entry.preorder` — all entries of a tree.
* `Entry.Stands` — an entry is the one that files lead to.
* `Entry.Grown` — a tree in which every level is as the files make it.

## Main statements

* `Entry.grown_of_under` — the trees of a tally are of this kind.
* `Entry.Grown.exists_place` — the place of an entry in such a tree.
-/

namespace UsageTree.Entry

open UsageTree.Path UsageTree.Usage

/-! ## Preorder -/

mutual

/-- An entry, followed by all entries below it. -/
def subtree : Entry → List Entry
  | ⟨path, name, size, itemCount, lastChanged, percent, children⟩ =>
    ⟨path, name, size, itemCount, lastChanged, percent, children⟩ :: preorder children

/-- All entries of a tree, each in front of those below it. -/
def preorder : List Entry → List Entry
  | [] => []
  | e :: es => subtree e ++ preorder es

end

theorem subtree_eq (e : Entry) : subtree e = e :: preorder e.children := by
  cases e
  rw [subtree]

theorem preorder_eq_flatMap (es : List Entry) : preorder es = es.flatMap subtree := by
  induction es with
  | nil => rw [preorder, List.flatMap_nil]
  | cons e es ih => rw [preorder, ih, List.flatMap_cons]

theorem mem_preorder {es : List Entry} {e : Entry} :
    e ∈ preorder es ↔ ∃ d ∈ es, e = d ∨ e ∈ preorder d.children := by
  simp [preorder_eq_flatMap es, subtree_eq]

theorem mem_preorder_of_mem {es : List Entry} {e : Entry} (h : e ∈ es) : e ∈ preorder es :=
  mem_preorder.2 ⟨e, h, .inl rfl⟩

/-- What is directly below an entry of a tree belongs to the tree. -/
theorem mem_preorder_of_child {es : List Entry} {e c : Entry} (he : e ∈ preorder es)
    (hc : c ∈ e.children) : c ∈ preorder es := by
  induction es using level_induction with
  | nil => simp [preorder_eq_flatMap] at he
  | cons d es ihBelow ihRest =>
    rw [preorder, subtree_eq, List.mem_append, List.mem_cons] at he ⊢
    rcases he with (rfl | he) | he
    · exact .inl (.inr (mem_preorder_of_mem hc))
    · exact .inl (.inr (ihBelow he))
    · exact .inr (ihRest he)

/-- Every entry but the top ones lies directly below an entry. -/
theorem mem_or_exists_parent {es : List Entry} {e : Entry} (he : e ∈ preorder es) :
    e ∈ es ∨ ∃ d ∈ preorder es, e ∈ d.children := by
  induction es using level_induction with
  | nil => simp [preorder_eq_flatMap] at he
  | cons d es ihBelow ihRest =>
    rw [preorder, subtree_eq] at he ⊢
    simp only [List.cons_append, List.mem_cons, List.mem_append] at he ⊢
    rcases he with rfl | he | he
    · exact .inl (.inl rfl)
    · rcases ihBelow he with child | ⟨parent, among, child⟩
      · exact .inr ⟨d, .inl rfl, child⟩
      · exact .inr ⟨parent, .inr (.inl among), child⟩
    · rcases ihRest he with top | ⟨parent, among, child⟩
      · exact .inl (.inr top)
      · exact .inr ⟨parent, .inr (.inr among), child⟩

/-! ## Places of entries -/

/-- What an entry says of the files it stands for. -/
def summary (e : Entry) : Summary := ⟨e.size, e.itemCount, e.lastChanged⟩

/-- The entry stands one segment below `p` for the files there, of which there are some. -/
structure Stands (us : List Usage) (p : List Text) (e : Entry) : Prop where
  head : e.name ∈ heads us p
  path_eq : e.path = joined (p ++ [e.name])
  summary_eq : e.summary = below us p e.name

/-- The entries are those below `p`, one for every segment that follows `p`, and the entries below
each of them are of the same kind. -/
inductive Grown (us : List Usage) : List Text → List Entry → Prop
  | level {p : List Text} {es : List Entry} (names : es.map Entry.name = arranged us p)
      (stands : ∀ e ∈ es, Stands us p e) (deeper : ∀ e ∈ es, Grown us (p ++ [e.name]) e.children) :
      Grown us p es

variable {us : List Usage} {p : List Text} {es : List Entry}

theorem Stands.isSegment {e : Entry} (h : Stands us p e) : ∀ s ∈ p ++ [e.name], IsSegment s :=
  isSegment_of_mem_heads h.head

theorem Stands.segments_path {e : Entry} (h : Stands us p e) :
    Path.segments e.path = p ++ [e.name] := by
  rw [h.path_eq, segments_joined h.isSegment]

theorem Stands.size_eq {e : Entry} (h : Stands us p e) : e.size = (Usage.below us p e.name).size :=
  congrArg Summary.size h.summary_eq

theorem Stands.size_nonneg (nonneg : ∀ u ∈ us, 0 ≤ u.size) {e : Entry} (h : Stands us p e) :
    0 ≤ e.size := by
  rw [h.size_eq]
  exact sum_sizes_nonneg nonneg (List.filter_subset_self us)

/-- Levels that could be made are as the files make them. -/
theorem grown_of_levels (hp : ∀ s ∈ p, IsSegment s) {fuel : Nat} {total : Int}
    (h : levels (Tally.ofUsages us) fuel (joined p) total = .ok es) : Grown us p es := by
  induction fuel generalizing p total es with
  | zero => cases h
  | succ fuel ih =>
    rw [levels_succ us hp] at h
    have made : ∀ e ∈ es, Stands us p e ∧ Grown us (p ++ [e.name]) e.children := by
      intro e he
      obtain ⟨s, hs, grown⟩ := Attempt.exists_of_mem_mapM h he
      obtain ⟨path_eq, rfl, summary_eq, below_eq⟩ := assemble_eq_ok grown
      have head := mem_arranged.1 hs
      exact ⟨⟨head, path_eq, summary_eq⟩, ih (isSegment_of_mem_heads head) below_eq⟩
    have names := Attempt.map_eq_map_of_mapM (g := id) (k := Entry.name) h fun s e he =>
      (assemble_eq_ok he).2.1.symm
    rw [List.map_id] at names
    exact .level names.symm (fun e he => (made e he).1) fun e he => (made e he).2

theorem grown_of_under {total : Int} (h : under (Tally.ofUsages us) [] total = .ok es) :
    Grown us [] es :=
  grown_of_levels (by simp) h

/-- Every entry of a tree has a place below the root of the tree, and stands there. The induction
follows the tree; an entry further down has its place below one of the top entries. -/
theorem Grown.exists_place (h : Grown us p es) {e : Entry} (he : e ∈ preorder es) :
    ∃ r, Stands us (p ++ r) e ∧ Grown us (p ++ r ++ [e.name]) e.children := by
  induction h with
  | @level p es names stands deeper ih =>
    obtain ⟨d, hd, rfl | he⟩ := mem_preorder.1 he
    · exact ⟨[], by simpa using stands e hd, by simpa using deeper e hd⟩
    · obtain ⟨r, placed⟩ := ih d hd he
      exact ⟨d.name :: r, by simpa using placed⟩

/-- Where files lead on from a place, an entry stands. -/
theorem Grown.exists_of_mem_heads (h : Grown us p es) {s : Text} (hs : s ∈ heads us p) :
    ∃ e ∈ es, e.name = s := by
  cases h with
  | level names stands deeper =>
    have hs := mem_arranged.2 hs
    rw [← names] at hs
    exact List.mem_map.1 hs

/-- The entries of one level have different names. -/
theorem Grown.nodup_names (h : Grown us p es) : (es.map Entry.name).Nodup := by
  cases h with
  | level names stands deeper =>
    rw [names]
    exact (perm_arranged us p).nodup_iff.2 (nodup_heads us p)

theorem Grown.stands (h : Grown us p es) {e : Entry} (he : e ∈ es) : Stands us p e := by
  cases h with
  | level names stands deeper => exact stands e he

theorem Grown.deeper (h : Grown us p es) {e : Entry} (he : e ∈ es) :
    Grown us (p ++ [e.name]) e.children := by
  cases h with
  | level names stands deeper => exact deeper e he

end UsageTree.Entry
