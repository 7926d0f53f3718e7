import UsageTree.Proofs.Filling
import UsageTree.Proofs.Latest
import UsageTree.Proofs.Reach

/-!
# What a tally holds

A tally is made in one pass over the files, each of which touches every path of its chain. In the
end the tables are those of two plain questions about the list of files: which files are at or below
a path, and which segments follow it.

## Main definitions

* `Summary.of` — the summary of a list of files.

## Main statements

* `Tally.summary?_joined` — the summary of a path is that of the files at or below it.
* `Tally.childrenOf_joined` — the paths below a path are given by the segments that follow it.
* `Tally.accounts_ofUsages` — both tables in full, with the order of their keys.
-/

namespace UsageTree

open UsageTree.Path UsageTree.Usage

namespace Summary

/-- The summary of a list of files. -/
def of (us : List Usage) : Summary where
  size := (us.map Usage.size).sum
  itemCount := us.length
  lastChanged := (us.map Usage.lastChanged).foldl LastChange.latest none

theorem of_concat (us : List Usage) (u : Usage) : of (us ++ [u]) = (of us).add u := by
  simp [of, add]

/-- A summary that takes in files one by one is the summary of all of them. -/
theorem foldl_add (us : List Usage) : us.foldl add empty = of us := by
  induction us using List.reverseRecOn with
  | nil => rfl
  | append_singleton us u ih => simp [ih, of_concat]

end Summary

namespace Tally

/-! ## The tables as fillings -/

/-- A file with every path on which it counts. -/
def visits (u : Usage) : List (Usage × Text) := u.segments.inits.map fun p => (u, joined p)

/-- The steps down on the way to a file. -/
def edges (u : Usage) : List (Text × Text) :=
  (Beginnings.steps u.segments).map fun e => (joined e.1, joined e.2)

theorem ofUsages_concat (us : List Usage) (u : Usage) :
    ofUsages (us ++ [u]) = (ofUsages us).add u := by
  simp [ofUsages]

theorem summaries_eq_fill (us : List Usage) :
    (ofUsages us).summaries =
      Table.fill Prod.snd Summary.empty (fun s v => s.add v.1) (us.flatMap visits) := by
  induction us using List.reverseRecOn with
  | nil => rfl
  | append_singleton us u ih =>
    rw [ofUsages_concat, List.flatMap_append, List.flatMap_singleton, Table.fill_append, ← ih,
      visits, List.foldl_map, add]
    simp only [chain_clean, List.foldl_map]
    rfl

theorem children_eq_fill (us : List Usage) :
    (ofUsages us).children =
      Table.fill Prod.fst [] (fun paths e => withPath paths e.2) (us.flatMap edges) := by
  induction us using List.reverseRecOn with
  | nil => rfl
  | append_singleton us u ih =>
    have along : (chain (clean u.path)).zip (chain (clean u.path)).tail = edges u := by
      rw [chain_clean, ← List.map_tail, List.zip_map]
      rfl
    rw [ofUsages_concat, List.flatMap_append, List.flatMap_singleton, Table.fill_append, ← ih,
      ← along]
    rfl

/-! ## One path -/

/-- A path written for a beginning of a list of segments is the path of no other beginning. -/
theorem joined_eq_iff {p q ss : List Text} (hp : ∀ s ∈ p, IsSegment s) (hss : ∀ s ∈ ss, IsSegment s)
    (hq : q <+: ss) : joined q = joined p ↔ q = p := by
  constructor
  · exact joined_injective (fun s hs => hss s (hq.subset hs)) hp
  · rintro rfl; rfl

/-- A file visits a path once if it is at or below it, and else not at all. -/
theorem filter_visits {p : List Text} (hp : ∀ s ∈ p, IsSegment s) (u : Usage) :
    (visits u).filter (fun v => v.2 = joined p) =
      if p <+: u.segments then [(u, joined p)] else [] := by
  have same : ∀ q ∈ u.segments.inits, decide (joined q = joined p) = decide (q = p) := by
    intro q hq
    have hq := (List.mem_inits q _).1 hq
    simp only [joined_eq_iff hp (fun s => isSegment_of_mem) hq]
  rw [visits, List.filter_map]
  simp only [Function.comp_def]
  rw [List.filter_congr same, Beginnings.filter_inits_eq]
  split <;> rfl

/-- The way to a file leads from a path to the next one, if it passes the path and does not end
there. -/
theorem filter_edges {p : List Text} (hp : ∀ s ∈ p, IsSegment s) (u : Usage) :
    ((edges u).filter fun e => e.1 = joined p).map Prod.snd =
      ((next? p u).map fun s => joined (p ++ [s])).toList := by
  have same : ∀ e ∈ Beginnings.steps u.segments,
      decide (joined e.1 = joined p) = decide (e.1 = p) := by
    intro e he
    have he := (List.mem_inits e.1 _).1 (List.of_mem_zip he).1
    simp only [joined_eq_iff hp (fun s => isSegment_of_mem) he]
  have steps := congrArg (List.map joined) (Beginnings.filter_steps_eq p u.segments)
  rw [edges, List.filter_map]
  simp only [Function.comp_def]
  rw [List.filter_congr same]
  simpa [next?, Option.toList_map, Function.comp_def] using steps

/-- The summary of a path is that of the files at or below it. -/
theorem summary?_joined (us : List Usage) {p : List Text} (hp : ∀ s ∈ p, IsSegment s) :
    (ofUsages us).summary? (joined p) =
      if reaching us p = [] then none else some (Summary.of (reaching us p)) := by
  have visited : (us.flatMap visits).filter (fun v => v.2 = joined p) =
      (reaching us p).map fun u => (u, joined p) := by
    rw [List.filter_flatMap]
    simp only [filter_visits hp]
    induction us with
    | nil => rfl
    | cons u us ih => by_cases h : p <+: u.segments <;> simpa [reaching, h] using ih
  rw [summary?, summaries_eq_fill, Table.find?_fill, visited, List.foldl_map, Summary.foldl_add]
  simp

/-- The root sums up all files. -/
theorem root_ofUsages (us : List Usage) : (ofUsages us).root = Summary.of us := by
  have found : (ofUsages us).summary? [] = _ := summary?_joined us (p := []) (by simp)
  rw [root, found, reaching_nil]
  split
  · rename_i no_files
    rw [no_files]
    rfl
  · rfl

/-- The paths that the files lead to next from a path, in order and with repetitions. -/
theorem next_edges (us : List Usage) {p : List Text} (hp : ∀ s ∈ p, IsSegment s) :
    ((us.flatMap edges).filter fun e => e.1 = joined p).map Prod.snd =
      (us.filterMap (next? p)).map fun s => joined (p ++ [s]) := by
  rw [List.filter_flatMap, List.map_flatMap, List.filterMap_eq_flatMap_toList, List.map_flatMap]
  simp only [filter_edges hp, Option.toList_map]

theorem children_find?_joined (us : List Usage) {p : List Text} (hp : ∀ s ∈ p, IsSegment s) :
    (ofUsages us).children.find? (joined p) =
      if heads us p = [] then none else some ((heads us p).map fun s => joined (p ++ [s])) := by
  have apart : ∀ s ∈ us.filterMap (next? p), ∀ t ∈ us.filterMap (next? p),
      joined (p ++ [s]) = joined (p ++ [t]) → s = t := by
    intro s hs t ht h
    have hs : s ∈ heads us p := List.mem_eraseDups.2 hs
    have ht : t ∈ heads us p := List.mem_eraseDups.2 ht
    simpa using joined_injective (isSegment_of_mem_heads hs) (isSegment_of_mem_heads ht) h
  have listed : ((us.flatMap edges).filter fun e => e.1 = joined p).foldl
      (fun paths e => withPath paths e.2) [] = (heads us p).map fun s => joined (p ++ [s]) := by
    rw [heads, ← FirstSeen.eraseDups_map _ _ apart, ← next_edges us hp,
      ← FirstSeen.foldl_add_eq_eraseDups, List.foldl_map]
    rfl
  have empty : (us.flatMap edges).filter (fun e => e.1 = joined p) = [] ↔ heads us p = [] := by
    rw [← List.map_eq_nil_iff, next_edges us hp, List.map_eq_nil_iff, heads,
      FirstSeen.eraseDups_eq_nil]
  rw [children_eq_fill, Table.find?_fill, listed]
  simp only [empty]

/-- The paths directly below a path are those that the next segments lead to. -/
theorem childrenOf_joined (us : List Usage) {p : List Text} (hp : ∀ s ∈ p, IsSegment s) :
    (ofUsages us).childrenOf (joined p) = (heads us p).map fun s => joined (p ++ [s]) := by
  rw [childrenOf, children_find?_joined us hp]
  split
  · rename_i h
    rw [h]
    rfl
  · rfl

/-! ## All paths -/

theorem keys_summaries (us : List Usage) :
    (ofUsages us).summaries.keys = (us.flatMap fun u => u.segments.inits).eraseDups.map joined := by
  have apart : ∀ p ∈ us.flatMap fun u => u.segments.inits,
      ∀ q ∈ us.flatMap fun u => u.segments.inits, joined p = joined q → p = q := by
    intro p hp q hq
    obtain ⟨u, -, hp⟩ := List.mem_flatMap.1 hp
    obtain ⟨v, -, hq⟩ := List.mem_flatMap.1 hq
    exact joined_injective (isSegment_of_isPrefix ((List.mem_inits _ _).1 hp))
      (isSegment_of_isPrefix ((List.mem_inits _ _).1 hq))
  rw [← FirstSeen.eraseDups_map joined _ apart, summaries_eq_fill, Table.keys_fill]
  simp only [List.map_flatMap, visits, List.map_map, Function.comp_def]

theorem mem_keys_summaries {us : List Usage} {q : Text} :
    q ∈ (ofUsages us).summaries.keys ↔ ∃ u ∈ us, ∃ p, p <+: u.segments ∧ q = joined p := by
  rw [keys_summaries]
  simp only [List.mem_map, List.mem_eraseDups, List.mem_flatMap, List.mem_inits]
  grind

theorem mem_keys_children {us : List Usage} {q : Text} :
    q ∈ (ofUsages us).children.keys ↔
      ∃ p, q = joined p ∧ ∃ u ∈ us, p <+: u.segments ∧ p ≠ u.segments := by
  constructor
  · intro hq
    rw [children_eq_fill, Table.keys_fill, List.mem_eraseDups] at hq
    obtain ⟨e, he, rfl⟩ := List.mem_map.1 hq
    obtain ⟨u, hu, he⟩ := List.mem_flatMap.1 he
    obtain ⟨e, step, rfl⟩ := List.mem_map.1 he
    obtain ⟨s, hs⟩ := Beginnings.exists_next_of_mem_steps step
    refine ⟨e.1, rfl, u, hu, (List.prefix_append e.1 [s]).trans hs, fun whole => ?_⟩
    have longer := hs.length_le
    rw [← whole, List.length_append, List.length_singleton] at longer
    omega
  · rintro ⟨p, rfl, u, hu, hp, hne⟩
    obtain ⟨s, hs⟩ := Option.ne_none_iff_exists'.1 fun h => hne ((next?_eq_none hp).1 h).symm
    have below : heads us p ≠ [] :=
      List.ne_nil_of_mem (mem_heads.2 ⟨u, hu, next?_eq_some.1 hs⟩)
    rw [← Table.find?_isSome, children_find?_joined us (isSegment_of_isPrefix hp), if_neg below]
    rfl

/-- Paths are met in the order of the first file below them, and on the way to one file from the
root down. -/
theorem pairwise_beginnings (us : List Usage) :
    (us.flatMap fun u => u.segments.inits).eraseDups.Pairwise fun p q =>
      firstAt us p < firstAt us q ∨ firstAt us p = firstAt us q ∧ p.length < q.length := by
  have first (p : List Text) : FirstSeen.firstGroup (fun u => u.segments.inits) us p = firstAt us p := by
    simp [FirstSeen.firstGroup, firstAt, List.mem_inits]
  simpa only [first] using
    FirstSeen.pairwise_eraseDups_flatMap _ (fun u : Usage => Beginnings.pairwise_inits u.segments) us

/-- Segments follow a path in the order of the first file to which they lead. -/
theorem pairwise_heads (us : List Usage) (p : List Text) :
    (heads us p).Pairwise fun s t => firstAt us (p ++ [s]) < firstAt us (p ++ [t]) := by
  have first (s : Text) :
      FirstSeen.firstGroup (fun u => (next? p u).toList) us s = firstAt us (p ++ [s]) := by
    simp [FirstSeen.firstGroup, firstAt, Option.mem_toList, next?_eq_some]
  have alone (u : Usage) : (next? p u).toList.Pairwise fun _ _ => False := by
    cases next? p u <;> simp
  have ordered := FirstSeen.pairwise_eraseDups_flatMap _ alone us
  simp only [first, and_false, or_false] at ordered
  rwa [heads, List.filterMap_eq_flatMap_toList]

/-! ## The tally in full -/

/-- What is known of a tally whose files are `us`: the tables in full, with the order of their
keys. A path `q` stands for its segments. -/
structure Accounts (us : List Usage) (t : Tally) : Prop where
  /-- The paths are written for the beginnings of the files' segments. -/
  mem_keys : ∀ q, q ∈ t.summaries.keys ↔ ∃ u ∈ us, ∃ p, p <+: u.segments ∧ q = joined p
  nodup_keys : t.summaries.keys.Nodup
  /-- The first file below decides the order of paths, and on the way to one file the depth. -/
  keys_order : t.summaries.keys.Pairwise fun q r =>
    firstAt us (Path.segments q) < firstAt us (Path.segments r) ∨
      firstAt us (Path.segments q) = firstAt us (Path.segments r) ∧
        (Path.segments q).length < (Path.segments r).length
  /-- A path sums up the files at or below it. -/
  summary : ∀ q ∈ t.summaries.keys, ∃ s, t.summary? q = some s ∧
    s.size = ((reaching us (Path.segments q)).map Usage.size).sum ∧
    s.itemCount = (reaching us (Path.segments q)).length ∧
    LastChange.IsLatest ((reaching us (Path.segments q)).map Usage.lastChanged) s.lastChanged
  /-- There is something below a path exactly if the way to some file leads on from it. -/
  mem_children : ∀ q, q ∈ t.children.keys ↔
    ∃ p, q = joined p ∧ ∃ u ∈ us, p <+: u.segments ∧ p ≠ u.segments
  /-- Below a path are the paths one segment longer, in the order of the first file below them. -/
  children : ∀ q paths, t.children.find? q = some paths →
    (∀ c, c ∈ paths ↔
      ∃ s, c = joined (Path.segments q ++ [s]) ∧ ∃ u ∈ us, Path.segments q ++ [s] <+: u.segments) ∧
    paths.Nodup ∧
    paths.Pairwise fun c d => firstAt us (Path.segments c) < firstAt us (Path.segments d)

/-- The tally of a list of files in full. -/
theorem accounts_ofUsages (us : List Usage) : Accounts us (ofUsages us) where
  mem_keys q := mem_keys_summaries
  nodup_keys := by
    rw [summaries_eq_fill, Table.keys_fill]
    exact FirstSeen.nodup_eraseDups _
  keys_order := by
    have read : ∀ p ∈ (us.flatMap fun u => u.segments.inits).eraseDups,
        Path.segments (joined p) = p := by
      intro p hp
      obtain ⟨u, -, hp⟩ := List.mem_flatMap.1 (List.mem_eraseDups.1 hp)
      exact segments_joined (isSegment_of_isPrefix ((List.mem_inits _ _).1 hp))
    rw [keys_summaries, List.pairwise_map]
    refine (pairwise_beginnings us).imp_of_mem fun {p q} hp hq h => ?_
    rw [read p hp, read q hq]
    exact h
  summary q hq := by
    obtain ⟨u, hu, p, hp, rfl⟩ := mem_keys_summaries.1 hq
    have some_file : reaching us p ≠ [] := List.ne_nil_of_mem (mem_reaching.2 ⟨hu, hp⟩)
    rw [segments_joined (isSegment_of_isPrefix hp)]
    refine ⟨Summary.of (reaching us p), ?_, rfl, rfl, ?_⟩
    · rw [summary?_joined us (isSegment_of_isPrefix hp), if_neg some_file]
    · exact LastChange.isLatest_foldl (by simpa using some_file)
  mem_children q := mem_keys_children
  children q paths hq := by
    have known : q ∈ (ofUsages us).children.keys := (Table.find?_isSome _ q).1 (by simp [hq])
    obtain ⟨p, rfl, u, -, hp, -⟩ := mem_keys_children.1 known
    have hp := isSegment_of_isPrefix hp
    have listed : paths = (heads us p).map fun s => joined (p ++ [s]) := by
      rw [← childrenOf_joined us hp, childrenOf, hq, Option.getD_some]
    rw [segments_joined hp, listed]
    refine ⟨fun c => ?_, ?_, ?_⟩
    · simp only [List.mem_map, mem_heads]
      grind
    · refine (nodup_heads us p).map_on fun s hs t ht h => ?_
      simpa using joined_injective (isSegment_of_mem_heads hs) (isSegment_of_mem_heads ht) h
    · rw [List.pairwise_map]
      refine (pairwise_heads us p).imp_of_mem fun {s t} hs ht h => ?_
      rw [segments_joined (isSegment_of_mem_heads hs), segments_joined (isSegment_of_mem_heads ht)]
      exact h

end Tally

end UsageTree
