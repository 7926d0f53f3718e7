import UsageTree.Proofs.Grown
import UsageTree.Proofs.Nested

/-!
# The way down through a tally

The entries below a path are made by going down to the paths directly below it, and from each of
these further down. Nothing in a table keeps such a descent from coming to a path that is not known,
or from coming to one path again and again. In the tally of a list of files every path that is
listed is known, and is one segment longer than the path below which it is listed, so that a descent
ends where the longest path of a file does.

The paths to which a descent comes are noted by taking the same steps once more. What was visited
before a step failed is kept.

## Main definitions

* `Walk` — a computation that notes the paths it visits.
* `Entry.walk` — the steps in which entries are made, with the paths visited on the way.
* `Entry.Descends` — what there is to know of the way down from a path.

## Main statements

* `Entry.outcome_walk` — noting paths changes nothing.
* `Entry.exists_of_mem_visited`, `Entry.nodup_visited` — which paths are visited, and how often.
* `Entry.descends_of_known` — the way down from any path of a tally.
-/

namespace UsageTree

open UsageTree.Path UsageTree.Usage

/-! ## Noting paths -/

/-- A computation with the paths that it visited before it ended, in order. -/
structure Walk (α : Type) where
  visited : List Text
  outcome : Except Fault α

namespace Walk

variable {α β : Type}

/-- A step that visits nothing. -/
def step (outcome : Except Fault α) : Walk α := ⟨[], outcome⟩

/-- Coming to a path. -/
def visit (path : Text) : Walk Unit := ⟨[path], .ok ()⟩

/-- A failure keeps what was visited before it. -/
instance : Monad Walk where
  pure a := step (.ok a)
  bind w f :=
    match w.outcome with
    | .ok a => ⟨w.visited ++ (f a).visited, (f a).outcome⟩
    | .error e => ⟨w.visited, .error e⟩

theorem bind_of_ok {w : Walk α} {a : α} (h : w.outcome = .ok a) (f : α → Walk β) :
    w >>= f = ⟨w.visited ++ (f a).visited, (f a).outcome⟩ := by
  simp only [bind, h]

theorem bind_of_error {w : Walk α} {e : Fault} (h : w.outcome = .error e) (f : α → Walk β) :
    w >>= f = ⟨w.visited, .error e⟩ := by
  simp only [bind, h]

instance : LawfulMonad Walk := by
  refine LawfulMonad.mk' Walk ?_ ?_ ?_
  · rintro α ⟨visited, outcome⟩
    cases outcome <;> simp [Functor.map, step]
  · intro α β a f
    simp [pure, bind, step]
  · rintro α β γ ⟨visited, outcome⟩ f g
    cases outcome with
    | error e => rfl
    | ok a => cases h : (f a).outcome <;> simp [bind, h]

@[simp] theorem step_ok_bind (a : α) (f : α → Walk β) : step (.ok a) >>= f = f a := rfl

@[simp] theorem outcome_step (r : Except Fault α) : (step r).outcome = r := rfl

@[simp] theorem visited_step (r : Except Fault α) : (step r).visited = [] := rfl

@[simp] theorem outcome_visit (path : Text) : (visit path).outcome = .ok () := rfl

@[simp] theorem outcome_pure (a : α) : (pure a : Walk α).outcome = .ok a := rfl

@[simp] theorem visited_pure (a : α) : (pure a : Walk α).visited = [] := rfl

@[simp] theorem outcome_bind (w : Walk α) (f : α → Walk β) :
    (w >>= f).outcome = w.outcome >>= fun a => (f a).outcome := by
  cases h : w.outcome <;> simp [bind_of_ok, bind_of_error, h]

@[simp] theorem visited_visit_bind (path : Text) (f : Unit → Walk β) :
    (visit path >>= f).visited = path :: (f ()).visited := rfl

theorem visited_bind_sublist {w : Walk α} {f : α → Walk β} (after : List Text)
    (h : ∀ a, (f a).visited.Sublist after) : (w >>= f).visited.Sublist (w.visited ++ after) := by
  cases outcome : w.outcome with
  | ok a =>
    rw [bind_of_ok outcome]
    exact (h a).append_left _
  | error e =>
    rw [bind_of_error outcome]
    exact List.sublist_append_left ..

theorem outcome_mapM (f : α → Walk β) (as : List α) :
    (as.mapM f).outcome = as.mapM fun a => (f a).outcome := by
  induction as with
  | nil => rfl
  | cons a as ih => simp [List.mapM_cons, ih, pure, Except.pure]

/-- Steps over a list visit no more than what there is to be visited for each of its elements. -/
theorem visited_mapM_sublist {f : α → Walk β} {g : α → List Text}
    (h : ∀ a, (f a).visited.Sublist (g a)) (as : List α) :
    (as.mapM f).visited.Sublist (as.flatMap g) := by
  induction as with
  | nil => exact .slnil
  | cons a as ih =>
    rw [List.mapM_cons, List.flatMap_cons]
    refine (visited_bind_sublist _ fun b => ?_).trans ((h a).append_right _)
    refine (visited_bind_sublist [] fun bs => .slnil).trans ?_
    simpa using ih

/-- Steps that all succeed visit what each of them does. -/
theorem visited_mapM_of_ok {f : α → Walk β} {g : β → List Text}
    (each : ∀ a b, (f a).outcome = .ok b → (f a).visited = g b) {as : List α} {bs : List β}
    (h : (as.mapM f).outcome = .ok bs) : (as.mapM f).visited = bs.flatMap g := by
  induction as generalizing bs with
  | nil =>
    cases h
    rfl
  | cons a as ih =>
    rw [List.mapM_cons] at h ⊢
    rw [outcome_bind] at h
    obtain ⟨b, hb, h⟩ := Attempt.bind_eq_ok.1 h
    rw [outcome_bind] at h
    obtain ⟨cs, hcs, h⟩ := Attempt.bind_eq_ok.1 h
    cases h
    rw [bind_of_ok hb, bind_of_ok hcs, each a b hb, ih hcs]
    simp

end Walk

/-! ## The descent -/

namespace Entry

/-- The entries below a path as `levels` makes them, with the paths that are visited on the way. -/
def walk (t : Tally) : (fuel : Nat) → (path : Text) → (total : Int) → Walk (List Entry)
  | 0, _, _ => .step (.error .cycle)
  | fuel + 1, path, total => do
    .visit path
    let paths ← .step ((t.childrenOf path).mapM (measured t))
    (bySize paths).mapM fun (path, s) => do
      let percent ← .step (share s.size total)
      let children ← walk t fuel path s.size
      return ⟨path, Path.label path, s.size, s.itemCount, s.lastChanged, percent, children⟩

/-- Noting paths changes nothing. -/
theorem outcome_walk (t : Tally) (fuel : Nat) (path : Text) (total : Int) :
    (walk t fuel path total).outcome = levels t fuel path total := by
  induction fuel generalizing path total with
  | zero => rfl
  | succ fuel ih =>
    simp only [walk, levels, Walk.outcome_bind, Walk.outcome_visit, Walk.outcome_step,
      Walk.outcome_mapM, Walk.outcome_pure, ih]
    rfl

/-- Where all entries are made, every one of them stands for one visit, in the order of the tree. -/
theorem visited_walk_of_ok {t : Tally} {fuel : Nat} {path : Text} {total : Int} {es : List Entry}
    (h : (walk t fuel path total).outcome = .ok es) :
    (walk t fuel path total).visited = path :: (preorder es).map Entry.path := by
  induction fuel generalizing path total es with
  | zero => cases h
  | succ fuel ih =>
    rw [walk, Walk.outcome_bind, Walk.outcome_visit, Attempt.ok_bind, Walk.outcome_bind] at h
    obtain ⟨paths, found, h⟩ := Attempt.bind_eq_ok.1 h
    rw [Walk.outcome_step] at found
    rw [walk, Walk.visited_visit_bind, found, Walk.step_ok_bind, preorder_eq_flatMap,
      List.map_flatMap]
    refine congrArg (path :: ·) (Walk.visited_mapM_of_ok ?_ h)
    rintro ⟨path, s⟩ e he
    rw [Walk.outcome_bind] at he
    obtain ⟨percent, shared, he⟩ := Attempt.bind_eq_ok.1 he
    rw [Walk.outcome_bind] at he
    obtain ⟨children, below, he⟩ := Attempt.bind_eq_ok.1 he
    cases he
    dsimp only
    rw [Walk.bind_of_ok shared, Walk.bind_of_ok below, ih below, subtree_eq]
    simp

/-- The steps in which all entries below a path are made. -/
def descent (t : Tally) (path : Text) (total : Int) : Walk (List Entry) :=
  walk t (t.children.keys.length + 1) path total

theorem outcome_descent (t : Tally) (path : Text) (total : Int) :
    (descent t path total).outcome = under t path total := outcome_walk ..

variable {us : List Usage} {p : List Text} {fuel : Nat} {total : Int} {q : Text}

/-- One level visits the path itself, and then what lies below each of the next segments. -/
theorem visited_walk_sublist (us : List Usage) (hp : ∀ s ∈ p, IsSegment s) (fuel : Nat)
    (total : Int) :
    (walk (Tally.ofUsages us) (fuel + 1) (joined p) total).visited.Sublist
      (joined p :: (arranged us p).flatMap fun s =>
        (walk (Tally.ofUsages us) fuel (joined (p ++ [s])) (below us p s).size).visited) := by
  rw [walk, Walk.visited_visit_bind, mapM_measured us hp, Walk.step_ok_bind, bySize_heads,
    List.mapM_map]
  refine (Walk.visited_mapM_sublist (fun s => ?_) (arranged us p)).cons_cons _
  refine Walk.visited_bind_sublist _ fun percent => ?_
  refine (Walk.visited_bind_sublist [] fun children => .slnil).trans ?_
  rw [List.append_nil]

/-- A path that is visited on the way down is written for some more segments of a file. The
induction is on the levels; one level adds one segment in front of those of the next. -/
theorem exists_of_mem_visited (hp : ∀ s ∈ p, IsSegment s)
    (h : q ∈ (walk (Tally.ofUsages us) fuel (joined p) total).visited) :
    ∃ r, q = joined (p ++ r) ∧ (r = [] ∨ ∃ u ∈ us, p ++ r <+: u.segments) := by
  induction fuel generalizing p total with
  | zero => cases h
  | succ fuel ih =>
    rcases List.mem_cons.1 ((visited_walk_sublist us hp fuel total).subset h) with rfl | h
    · exact ⟨[], by simp, .inl rfl⟩
    · obtain ⟨s, hs, h⟩ := List.mem_flatMap.1 h
      have hs := mem_arranged.1 hs
      obtain ⟨r, rfl, last | deeper⟩ := ih (isSegment_of_mem_heads hs) h
      · subst last
        exact ⟨[s], by simp, .inr (mem_heads.1 hs)⟩
      · exact ⟨s :: r, by simp, .inr (by simpa using deeper)⟩

theorem isSegment_of_visited {r : List Text} (hp : ∀ s ∈ p, IsSegment s)
    (h : r = [] ∨ ∃ u ∈ us, p ++ r <+: u.segments) : ∀ s ∈ p ++ r, IsSegment s := by
  rcases h with rfl | ⟨u, -, beginning⟩
  · simpa using hp
  · exact isSegment_of_isPrefix beginning

/-- No path is visited twice: those below a path have more segments than the path, and those below
two of its next segments differ in that segment. -/
theorem nodup_visited (hp : ∀ s ∈ p, IsSegment s) :
    (walk (Tally.ofUsages us) fuel (joined p) total).visited.Nodup := by
  induction fuel generalizing p total with
  | zero => exact .nil
  | succ fuel ih =>
    have placed : ∀ s ∈ arranged us p, ∀ q ∈ (walk (Tally.ofUsages us) fuel (joined (p ++ [s]))
        (below us p s).size).visited,
        ∃ r, q = joined (p ++ s :: r) ∧ ∀ t ∈ p ++ s :: r, IsSegment t := by
      intro s hs q hq
      have hs := isSegment_of_mem_heads (mem_arranged.1 hs)
      obtain ⟨r, rfl, h⟩ := exists_of_mem_visited hs hq
      exact ⟨r, by simp, by simpa using isSegment_of_visited hs h⟩
    refine (visited_walk_sublist us hp fuel total).nodup (List.nodup_cons.2 ⟨fun again => ?_, ?_⟩)
    · obtain ⟨s, hs, again⟩ := List.mem_flatMap.1 again
      obtain ⟨r, same, hr⟩ := placed s hs _ again
      exact absurd (joined_injective hp hr same) (by simp)
    · refine List.nodup_flatMap.2 ⟨fun s hs => ih (isSegment_of_mem_heads (mem_arranged.1 hs)), ?_⟩
      have distinct : (arranged us p).Nodup := (perm_arranged us p).nodup_iff.2 (nodup_heads us p)
      refine distinct.imp_of_mem fun {s t} hs ht different q hqs hqt => ?_
      obtain ⟨r, rfl, hr⟩ := placed s hs q hqs
      obtain ⟨r', same, hr'⟩ := placed t ht _ hqt
      have same := List.append_cancel_left (joined_injective hr hr' same)
      exact different (List.cons.inj same).1

/-! ## Tallies -/

/-- Once there are enough levels it does not matter how many there are. -/
theorem levels_eq_levels (hp : ∀ s ∈ p, IsSegment s) {fuel' : Nat} (enough : Within us p fuel)
    (enough' : Within us p fuel') :
    levels (Tally.ofUsages us) fuel (joined p) total =
      levels (Tally.ofUsages us) fuel' (joined p) total := by
  rw [Nested.levels_eq_entries hp enough, Nested.levels_eq_entries hp enough']

/-- What there is to know of the way down from a path. -/
structure Descends (us : List Usage) (q : Text) (total : Int) : Prop where
  /-- These are the steps in which the entries below the path are made. -/
  outcome : (descent (Tally.ofUsages us) q total).outcome = under (Tally.ofUsages us) q total
  /-- Every entry that is made stands for one visit, in the order of the tree. -/
  visited : ∀ es, under (Tally.ofUsages us) q total = .ok es →
    (descent (Tally.ofUsages us) q total).visited = q :: (preorder es).map Entry.path
  /-- No path is unknown and none lies below itself; only a ratio may be out of range. -/
  faults : ∀ f, under (Tally.ofUsages us) q total = .error f → f = .ratioOverflow
  /-- From a path the way leads on to known paths that have one segment more. -/
  onward : ∀ p ∈ (descent (Tally.ofUsages us) q total).visited,
    ∀ c ∈ (Tally.ofUsages us).childrenOf p,
      ((Tally.ofUsages us).summary? c).isSome ∧ ∃ s, Path.segments c = Path.segments p ++ [s]
  /-- It ends after as many levels as some file has segments beyond the path. -/
  depth : ∀ n, (∀ u ∈ reaching us (Path.segments q),
      u.segments.length ≤ (Path.segments q).length + n) →
    (∀ fuel, n < fuel →
      levels (Tally.ofUsages us) fuel q total = under (Tally.ofUsages us) q total) ∧
    ∀ p ∈ (descent (Tally.ofUsages us) q total).visited,
      (Path.segments p).length ≤ (Path.segments q).length + n
  nodup : (descent (Tally.ofUsages us) q total).visited.Nodup

/-- The way down from any path of a tally, and from the root of any. -/
theorem descends_of_known (known : q ∈ (Tally.ofUsages us).summaries.keys ∨ q = [])
    (total : Int) : Descends us q total := by
  obtain ⟨p, rfl, hp⟩ : ∃ p, q = joined p ∧ ∀ s ∈ p, IsSegment s := by
    rcases known with known | rfl
    · obtain ⟨u, -, p, beginning, rfl⟩ := Tally.mem_keys_summaries.1 known
      exact ⟨p, rfl, isSegment_of_isPrefix beginning⟩
    · exact ⟨[], rfl, by simp⟩
  have visited : ∀ q ∈ (descent (Tally.ofUsages us) (joined p) total).visited,
      ∃ r, q = joined (p ++ r) ∧ (∀ s ∈ p ++ r, IsSegment s) ∧
        (r = [] ∨ ∃ u ∈ us, p ++ r <+: u.segments) := by
    intro q hq
    obtain ⟨r, rfl, h⟩ := exists_of_mem_visited hp hq
    exact ⟨r, rfl, isSegment_of_visited hp h, h⟩
  refine {
    outcome := outcome_descent ..
    visited := fun es h => visited_walk_of_ok ((outcome_descent ..).trans h)
    faults := fun f => levels_eq_error hp (within_keys us p)
    onward := fun q hq c hc => ?_
    depth := fun n bound => ⟨fun fuel enough => ?_, fun q hq => ?_⟩
    nodup := nodup_visited hp }
  · obtain ⟨r, rfl, segments, -⟩ := visited q hq
    rw [Tally.childrenOf_joined us segments] at hc
    obtain ⟨s, hs, rfl⟩ := List.mem_map.1 hc
    have longer := isSegment_of_mem_heads hs
    rw [Tally.summary?_joined us longer, if_neg (reaching_ne_nil hs), segments_joined longer,
      segments_joined segments]
    exact ⟨rfl, s, rfl⟩
  · rw [segments_joined hp] at bound
    have within : Within us p fuel := ⟨by omega, fun u hu => by have := bound u hu; omega⟩
    rw [levels_eq_levels hp within (within_keys us p)]
    rfl
  · obtain ⟨r, rfl, segments, h⟩ := visited q hq
    rw [segments_joined hp] at bound ⊢
    rw [segments_joined segments]
    rcases h with rfl | ⟨u, hu, beginning⟩
    · simp
    · exact beginning.length_le.trans
        (bound u (mem_reaching.2 ⟨hu, (List.prefix_append p r).trans beginning⟩))

/-- A size that is too large for binary64. -/
def huge : Nat := Nat.pow 2 1024

/-- Files below `a`, two of which almost cancel out in `a/b`. -/
def cancelling : List Usage :=
  [⟨"a/b/c", huge, none⟩, ⟨"a//b\\d", 1 - huge, none⟩, ⟨"/a/e/f/", 5, none⟩, ⟨"x", 1, none⟩]

/-- The way down from `a` stops below `a/b`, once `a/e` and what is below it was visited. -/
theorem descends_cancelling :
    ("a" : Text) ∈ (Tally.ofUsages cancelling).summaries.keys ∧
    under (Tally.ofUsages cancelling) "a" 0 = .error .ratioOverflow ∧
    (descent (Tally.ofUsages cancelling) "a" 0).visited = ["a", "a/e", "a/e/f", "a/b"] ∧
    Descends cancelling "a" 0 := by
  have known : ("a" : Text) ∈ (Tally.ofUsages cancelling).summaries.keys := by decide +kernel
  have fails : (under (Tally.ofUsages cancelling) "a" 0).toOption.isNone := by decide +kernel
  have stops : (descent (Tally.ofUsages cancelling) "a" 0).visited = ["a", "a/e", "a/e/f", "a/b"] := by
    decide +kernel
  have descends := descends_of_known (.inl known) 0
  refine ⟨known, ?_, stops, descends⟩
  cases made : under (Tally.ofUsages cancelling) "a" 0 with
  | error f => rw [descends.faults f made]
  | ok es => simp [made, Except.toOption] at fails

end Entry

end UsageTree
