import UsageTree.Proofs.Levels

/-!
# Entries by dividing files again and again

The plain way to make a tree: divide the files by their first segment, sum up each part, and make
the tree of each part in the same way from what is left of its segments. No path is looked up and
nothing is shared between levels. The one pass over all files leads to the same tree.

## Main definitions

* `Nested.Item` — what is left of a file on the way down to it.
* `Nested.entries` — the entries of a list of items.

## Main statements

* `Nested.under_ofUsages` — the entries of a tally are those of the plain way.
-/

namespace UsageTree.Nested

open UsageTree.Path UsageTree.Usage

/-- A file of which some first segments were taken off. -/
structure Item where
  segments : List Text
  size : Int
  lastChanged : LastChange
  deriving Repr, DecidableEq

namespace Item

/-- A whole file. -/
def ofUsage (u : Usage) : Item := ⟨u.segments, u.size, u.lastChanged⟩

/-- The item one segment further down. -/
def descend (i : Item) : Item := { i with segments := i.segments.tail }

end Item

/-- The first segments of items, in order of first appearance. -/
def heads (items : List Item) : List Text := (items.filterMap (·.segments.head?)).eraseDups

/-- The items that start with a segment, in order. -/
def startingWith (h : Text) (items : List Item) : List Item :=
  items.filter fun i => i.segments.head? = some h

/-- How many segments are left altogether. -/
def weight (items : List Item) : Nat := (items.map (·.segments.length)).sum

/-- Every item of a part has one segment less to go. -/
theorem weight_descend (h : Text) (items : List Item) :
    weight ((startingWith h items).map Item.descend) + (startingWith h items).length ≤
      weight items := by
  induction items with
  | nil => simp [weight, startingWith]
  | cons i items ih =>
    obtain ⟨segments, size, lastChanged⟩ := i
    cases segments with
    | nil => simpa [weight, startingWith] using ih
    | cons s segments =>
      by_cases hs : s = h
      · simp [weight, startingWith, hs, Item.descend] at ih ⊢
        omega
      · simp [weight, startingWith, hs] at ih ⊢
        omega

theorem weight_descend_lt {h : Text} {items : List Item} (mem : h ∈ heads items) :
    weight ((startingWith h items).map Item.descend) < weight items := by
  obtain ⟨i, hi, first⟩ := List.mem_filterMap.1 (List.mem_eraseDups.1 mem)
  have some_item : i ∈ startingWith h items := List.mem_filter.2 ⟨hi, by simpa using first⟩
  have := List.length_pos_of_mem some_item
  have := weight_descend h items
  omega

/-- The summary of items. -/
def summary (items : List Item) : Summary where
  size := (items.map Item.size).sum
  itemCount := items.length
  lastChanged := (items.map Item.lastChanged).foldl LastChange.latest none

/-- The entries of items below the path `parent`, the largest first; percentages are relative to
`total`. -/
def entries (items : List Item) (parent : Text) (total : Int) : Except Fault (List Entry) := do
  let unordered ← (heads items).attach.mapM fun ⟨h, _⟩ =>
    let part := startingWith h items
    let path := Path.extend parent h
    let sum := summary part
    Entry.assemble path h sum total (entries (part.map Item.descend) path sum.size)
  return unordered.insertionSort fun a b => b.size ≤ a.size
termination_by weight items
decreasing_by exact weight_descend_lt (by assumption)

/-- The entry of the items that start with `h`. -/
def entry (items : List Item) (parent : Text) (total : Int) (h : Text) : Except Fault Entry :=
  let part := startingWith h items
  let path := Path.extend parent h
  let sum := summary part
  Entry.assemble path h sum total (entries (part.map Item.descend) path sum.size)

theorem entries_eq (items : List Item) (parent : Text) (total : Int) :
    entries items parent total = do
      let unordered ← (heads items).mapM (entry items parent total)
      return unordered.insertionSort fun a b => b.size ≤ a.size := by
  have plain : (heads items).mapM (entry items parent total) =
      (heads items).attach.mapM fun h => entry items parent total h.1 := by
    conv_lhs => rw [← List.attach_map_subtype_val (heads items), List.mapM_map]
    rfl
  rw [entries, plain]
  rfl

/-! ## The way down -/

/-- What is left of the files at or below `p`. -/
def remaining (us : List Usage) (p : List Text) : List Item :=
  (reaching us p).map fun u => ⟨u.segments.drop p.length, u.size, u.lastChanged⟩

theorem remaining_nil (us : List Usage) : remaining us [] = us.map Item.ofUsage := by
  simp [remaining, Item.ofUsage]

theorem heads_remaining (us : List Usage) (p : List Text) :
    heads (remaining us p) = Usage.heads us p := by
  have next : ∀ u ∈ us, (if p <+: u.segments then (u.segments.drop p.length).head? else none) =
      next? p u := by
    intro u _
    split
    · rename_i hp
      exact Beginnings.head?_drop hp
    · rename_i hp
      refine (Option.eq_none_iff_forall_ne_some.2 fun s hs => hp ?_).symm
      exact (List.prefix_append p [s]).trans (next?_eq_some.1 hs)
  rw [heads, remaining, List.filterMap_map, reaching, List.filterMap_filter, Usage.heads]
  congr 1
  apply List.filterMap_congr
  intro u hu
  simpa using next u hu

theorem startingWith_remaining (us : List Usage) (p : List Text) (s : Text) :
    startingWith s (remaining us p) = (reaching us (p ++ [s])).map fun u =>
      ⟨u.segments.drop p.length, u.size, u.lastChanged⟩ := by
  rw [startingWith, remaining, List.filter_map, reaching_concat]
  congr 1
  apply List.filter_congr
  intro u hu
  have first := Beginnings.head?_drop (mem_reaching.1 hu).2
  rw [Function.comp_apply, first, next?, decide_eq_decide]

/-- The parts of what is left at `p` are what is left one segment further down. -/
theorem descend_startingWith (us : List Usage) (p : List Text) (s : Text) :
    (startingWith s (remaining us p)).map Item.descend = remaining us (p ++ [s]) := by
  rw [startingWith_remaining, List.map_map, remaining]
  simp [Item.descend]

theorem summary_startingWith (us : List Usage) (p : List Text) (s : Text) :
    summary (startingWith s (remaining us p)) = below us p s := by
  simp [startingWith_remaining, summary, below, Summary.of, Function.comp_def]

/-- The levels below a path are made of what is left of the files there. The induction is on the
number of levels allowed for; as every failure is the same, it does not matter that a level is
sorted before its entries are made. -/
theorem levels_eq_entries {us : List Usage} {p : List Text} (hp : ∀ s ∈ p, IsSegment s)
    {fuel : Nat} (enough : Within us p fuel) (total : Int) :
    Entry.levels (Tally.ofUsages us) fuel (joined p) total =
      entries (remaining us p) (joined p) total := by
  induction fuel generalizing p total with
  | zero => exact absurd enough.pos (Nat.lt_irrefl 0)
  | succ fuel ih =>
    have same : ∀ s ∈ Usage.heads us p,
        Entry.grow us p fuel total s = entry (remaining us p) (joined p) total s := by
      intro s hs
      have step := ih (isSegment_of_mem_heads hs) (enough.step hs) (below us p s).size
      rw [Entry.grow, step, joined_concat fun t ht => (hp t ht).1]
      simp only [entry, summary_startingWith, descend_startingWith]
    have only : ∀ s ∈ Usage.heads us p, ∀ f, Entry.grow us p fuel total s = .error f →
        f = .ratioOverflow := by
      intro s hs f hf
      rcases Entry.assemble_eq_error hf with hf | hf
      · exact hf
      · exact Entry.levels_eq_error (isSegment_of_mem_heads hs) (enough.step hs) hf
    have order : ∀ s ∈ Usage.heads us p, ∀ t ∈ Usage.heads us p, ∀ a b,
        Entry.grow us p fuel total s = .ok a → Entry.grow us p fuel total t = .ok b →
          (b.size ≤ a.size ↔ (below us p t).size ≤ (below us p s).size) := by
      intro s _ t _ a b ha hb
      obtain ⟨-, -, ha, -⟩ := Entry.assemble_eq_ok ha
      obtain ⟨-, -, hb, -⟩ := Entry.assemble_eq_ok hb
      rw [← ha, ← hb]
    rw [Entry.levels_succ us hp, arranged, Attempt.mapM_insertionSort only order, entries_eq,
      heads_remaining, Attempt.mapM_congr same]

/-- The entries of a tally are those that come of dividing the files again and again. -/
theorem under_ofUsages (us : List Usage) :
    Entry.under (Tally.ofUsages us) [] (Tally.ofUsages us).root.size =
      entries (us.map Item.ofUsage) [] (Tally.ofUsages us).root.size := by
  rw [← remaining_nil]
  exact levels_eq_entries (by simp) (within_root us) _

end UsageTree.Nested
