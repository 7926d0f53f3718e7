import UsageTree.Proofs.Grown
import UsageTree.Proofs.PerNode

/-!
# Records in another order

The same records in another order make the same report but for ties: nodes of one name, and siblings
of one size, may change places. This needs that the records agree on the names of nodes, since the
first name counts, and that no time of last change is empty, since of times that say nothing the
last one stays.

## Main definitions

* `Entry.Alike` — two trees are the same but for the order of siblings of one size.
* `Entry.Untied` — no two siblings of a tree have one size.
* `Node.Alike` — two nodes are the same but for the order of their entries.

## Main statements

* `Entry.levels_alike` — the levels of a tree, for files in another order.
* `Node.alike_of_perm` — the report of records in another order.
-/

namespace UsageTree

open UsageTree.Path UsageTree.Usage

/-! ## Files in another order -/

namespace Summary

theorem of_perm {us vs : List Usage} (perm : us.Perm vs)
    (filled : ∀ u ∈ us, u.lastChanged ≠ some []) : of us = of vs := by
  have times : ∀ t ∈ us.map Usage.lastChanged, t ≠ some [] := by
    intro t ht
    obtain ⟨u, hu, rfl⟩ := List.mem_map.1 ht
    exact filled u hu
  have latest := LastChange.foldl_latest_perm (perm.map Usage.lastChanged) times
  rw [of, of, latest, (perm.map Usage.size).sum_eq, perm.length_eq]

end Summary

namespace Usage

variable {us vs : List Usage}

theorem heads_perm (perm : us.Perm vs) (p : List Text) : (heads us p).Perm (heads vs p) :=
  FirstSeen.perm_eraseDups (perm.filterMap _)

theorem below_perm (perm : us.Perm vs) (filled : ∀ u ∈ us, u.lastChanged ≠ some [])
    (p : List Text) (s : Text) : below us p s = below vs p s :=
  Summary.of_perm (perm.filter _) fun u hu => filled u (mem_reaching.1 hu).1

/-- The segments that follow a path are arranged in the same way but for ties. -/
theorem ties_arranged (perm : us.Perm vs) (filled : ∀ u ∈ us, u.lastChanged ≠ some [])
    (p : List Text) :
    UpToTies (fun s => (below us p s).size) (arranged us p) (arranged vs p) := by
  have ties := UpToTies.insertionSort (fun s => (below us p s).size) (heads_perm perm p)
  have same : arranged vs p =
      (heads vs p).insertionSort fun s t => (below us p t).size ≤ (below us p s).size := by
    simp only [arranged, below_perm perm filled]
  rw [same]
  exact ties

end Usage

theorem Tally.perm_keys_children {us vs : List Usage} (perm : us.Perm vs) :
    (ofUsages us).children.keys.Perm (ofUsages vs).children.keys := by
  rw [children_eq_fill, children_eq_fill, Table.keys_fill, Table.keys_fill]
  exact FirstSeen.perm_eraseDups ((perm.flatMap_right _).map _)

/-! ## Trees that are alike -/

namespace Entry

/-- An entry without those below it. -/
def alone (e : Entry) : Entry := { e with children := [] }

/-- Two lists of entries are the same at every level, but for the order of siblings of one size. -/
inductive Alike : List Entry → List Entry → Prop
  | nil : Alike [] []
  | cons {d e : Entry} {ds es : List Entry} (same : d.alone = e.alone)
      (below : Alike d.children e.children) (rest : Alike ds es) : Alike (d :: ds) (e :: es)
  | ties {ds es fs : List Entry} (alike : Alike ds es) (ties : UpToTies Entry.size es fs) :
      Alike ds fs

/-- No two entries with one parent have one size. -/
structure Untied (es : List Entry) : Prop where
  top : (es.map Entry.size).Nodup
  below : ∀ e ∈ preorder es, (e.children.map Entry.size).Nodup

theorem Untied.of_cons {e : Entry} {es : List Entry} (h : Untied (e :: es)) :
    Untied e.children ∧ Untied es := by
  have inside : ∀ d, d ∈ preorder e.children ∨ d ∈ preorder es → d ∈ preorder (e :: es) := by
    intro d hd
    rw [preorder, subtree_eq]
    rcases hd with hd | hd <;> simp [hd]
  have first : e ∈ preorder (e :: es) := mem_preorder_of_mem (by simp)
  exact ⟨⟨h.below e first, fun d hd => h.below d (inside d (.inl hd))⟩,
    ⟨(List.nodup_cons.1 h.top).2, fun d hd => h.below d (inside d (.inr hd))⟩⟩

theorem ext_alone {d e : Entry} (same : d.alone = e.alone) (children : d.children = e.children) :
    d = e := by
  cases d
  cases e
  cases children
  simpa [alone] using same

/-- Where no siblings are tied, trees that are alike are the same. -/
theorem Alike.eq_of_untied {ds es : List Entry} (h : Alike ds es) (untied : Untied ds) :
    ds = es := by
  induction h with
  | nil => rfl
  | cons same below rest ihBelow ihRest =>
    obtain ⟨untiedBelow, untiedRest⟩ := untied.of_cons
    rw [ext_alone same (ihBelow untiedBelow), ihRest untiedRest]
  | ties alike ties ih =>
    obtain rfl := ih untied
    exact ties.eq_of_nodup untied.top

theorem Alike.of_forall₂ {ds es : List Entry}
    (h : List.Forall₂ (fun d e => d.alone = e.alone ∧ Alike d.children e.children) ds es) :
    Alike ds es := by
  induction h with
  | nil => exact .nil
  | cons first _ ih => exact .cons first.1 first.2 ih

/-! ## Trees of files in another order -/

variable {us vs : List Usage}

/-- An entry can be assembled from other entries below it, and stays the same but for these. -/
theorem exists_assemble {path name : Text} {sum : Summary} {total : Int}
    {below below' : Except Fault (List Entry)} {e : Entry}
    (h : assemble path name sum total below = .ok e) {es : List Entry} (hes : below' = .ok es) :
    assemble path name sum total below' = .ok { e with children := es } := by
  obtain ⟨percent, hpercent, h⟩ := Attempt.bind_eq_ok.1 h
  obtain ⟨children, -, h⟩ := Attempt.bind_eq_ok.1 h
  cases h
  rw [assemble, hpercent, hes]
  rfl

/-- Levels that could be made can be made of the same files in another order, and come out alike.
The induction is on the levels allowed for. On one level the entries are made in the old order first,
one by one from what is alike below them, and then moved to where the new order has them. -/
theorem levels_alike (perm : us.Perm vs) (filled : ∀ u ∈ us, u.lastChanged ≠ some [])
    {p : List Text} (hp : ∀ s ∈ p, IsSegment s) {fuel : Nat} {total : Int} {es : List Entry}
    (h : levels (Tally.ofUsages us) fuel (joined p) total = .ok es) :
    ∃ fs, levels (Tally.ofUsages vs) fuel (joined p) total = .ok fs ∧ Alike es fs := by
  induction fuel generalizing p total es with
  | zero => cases h
  | succ fuel ih =>
    rw [levels_succ us hp] at h
    rw [levels_succ vs hp]
    have related : ∀ s ∈ arranged us p, ∀ d, grow us p fuel total s = .ok d →
        ∃ e, grow vs p fuel total s = .ok e ∧
          d.alone = e.alone ∧ Alike d.children e.children := by
      intro s hs d hd
      have below := (assemble_eq_ok hd).2.2.2
      obtain ⟨cs, hcs, alike⟩ := ih (isSegment_of_mem_heads (mem_arranged.1 hs)) below
      rw [grow, below_perm perm filled] at hd
      rw [below_perm perm filled] at hcs
      exact ⟨_, exists_assemble hd hcs, rfl, alike⟩
    have ties := ties_arranged perm filled p
    obtain ⟨mid, hmid, placed⟩ := Attempt.exists_mapM_of_related h related
    obtain ⟨fs, hfs, moved⟩ := Attempt.exists_mapM_of_perm hmid ties.perm
    have size : ∀ s e, grow vs p fuel total s = .ok e → (below us p s).size = e.size := by
      intro s e he
      rw [below_perm perm filled, ← (assemble_eq_ok he).2.2.1]
    have sizes : mid.map Entry.size = fs.map Entry.size := by
      rw [← Attempt.map_eq_map_of_mapM hmid size, ← Attempt.map_eq_map_of_mapM hfs size, ties.keys]
    exact ⟨fs, hfs, .ties (.of_forall₂ placed) ⟨moved, sizes⟩⟩

theorem under_alike (perm : us.Perm vs) (filled : ∀ u ∈ us, u.lastChanged ≠ some [])
    {total : Int} {es : List Entry} (h : under (Tally.ofUsages us) [] total = .ok es) :
    ∃ fs, under (Tally.ofUsages vs) [] total = .ok fs ∧ Alike es fs := by
  unfold under at *
  rw [← (Tally.perm_keys_children perm).length_eq]
  exact levels_alike perm filled (p := []) (by simp) h

end Entry

/-! ## Nodes of records in another order -/

namespace Group

/-- The name of a group does not depend on the order of its records if no two of them name the node
differently. -/
theorem name_eq_of_perm {g h : Group} (id : g.id = h.id) (perm : g.records.Perm h.records)
    (agreed : ∀ r ∈ g.records, ∀ r' ∈ g.records, ∀ s t, givenName? r = some s →
      givenName? r' = some t → s = t) : g.name = h.name := by
  have given : g.records.findSome? givenName? = h.records.findSome? givenName? := by
    cases hs : g.records.findSome? givenName? with
    | none =>
      rw [List.findSome?_eq_none_iff] at hs
      refine (List.findSome?_eq_none_iff.2 fun r hr => ?_).symm
      exact hs r (perm.mem_iff.2 hr)
    | some s =>
      obtain ⟨r, hr, hrs⟩ := List.exists_of_findSome?_eq_some hs
      cases ht : h.records.findSome? givenName? with
      | none =>
        have := List.findSome?_eq_none_iff.1 ht r (perm.mem_iff.1 hr)
        rw [hrs] at this
        cases this
      | some t =>
        obtain ⟨r', hr', hrt⟩ := List.exists_of_findSome?_eq_some ht
        rw [agreed r hr r' (perm.mem_iff.2 hr') s t hrs hrt]
  rw [name, name, given, id]

end Group

namespace Node

/-- Two nodes are the same but for the order of siblings of one size. -/
structure Alike (n m : Node) : Prop where
  name : n.name = m.name
  id : n.id = m.id
  totalSize : n.totalSize = m.totalSize
  entries : Entry.Alike n.entries m.entries

/-- The records name every node in one way, as far as they name it. -/
def NamesAgree (records : List RawRecord) : Prop :=
  ∀ r ∈ records, ∀ r' ∈ records, r.id = r'.id →
    ∀ s t, r.nodeName = some s → r'.nodeName = some t → s ≠ [] → t ≠ [] → s = t

theorem lastChanged_of_usage {r : RawRecord} {u : Usage} (h : r.usage = .ok u) :
    u.lastChanged = r.lastChanged := by
  unfold RawRecord.usage at h
  split at h <;> cases h
  rfl

/-- The node of an id comes out alike. -/
theorem ofId_alike {records records' : List RawRecord} (perm : records.Perm records')
    (filled : ∀ r ∈ records, r.lastChanged ≠ some []) (agreed : NamesAgree records)
    {id : NodeId} {n : Node} (h : ofId records id = .ok n) :
    ∃ m, ofId records' id = .ok m ∧ Alike n m := by
  have own : (Group.gather records id).records.Perm (Group.gather records' id).records :=
    perm.filter _
  have mine : ∀ r ∈ (Group.gather records id).records, r ∈ records ∧ r.id = .ok id := by
    intro r hr
    obtain ⟨hr, hid⟩ := List.mem_filter.1 hr
    exact ⟨hr, by simpa using hid⟩
  have name : (Group.gather records id).name = (Group.gather records' id).name := by
    refine Group.name_eq_of_perm rfl own fun r hr r' hr' s t hs ht => ?_
    obtain ⟨hr, hid⟩ := mine r hr
    obtain ⟨hr', hid'⟩ := mine r' hr'
    obtain ⟨hs, hsne⟩ := Group.givenName?_eq_some.1 hs
    obtain ⟨ht, htne⟩ := Group.givenName?_eq_some.1 ht
    exact agreed r hr r' hr' (hid.trans hid'.symm) s t hs ht hsne htne
  obtain ⟨us, hus, h⟩ := Attempt.bind_eq_ok.1 h
  obtain ⟨entries, hentries, h⟩ := Attempt.bind_eq_ok.1 h
  cases h
  obtain ⟨vs, hvs, moved⟩ := Attempt.exists_mapM_of_perm hus own
  have times : ∀ u ∈ us, u.lastChanged ≠ some [] := by
    intro u hu
    obtain ⟨r, hr, hru⟩ := Attempt.exists_of_mem_mapM hus hu
    rw [lastChanged_of_usage hru]
    exact filled r (mine r hr).1
  have total : (Tally.ofUsages us).root.size = (Tally.ofUsages vs).root.size := by
    rw [Tally.root_ofUsages, Tally.root_ofUsages, Summary.of_perm moved times]
  obtain ⟨entries', hentries', alike⟩ := Entry.under_alike moved times hentries
  rw [total] at hentries'
  refine ⟨⟨(Group.gather records' id).name, id.display, (Tally.ofUsages vs).root.size, entries'⟩,
    ?_, name, rfl, total, alike⟩
  exact Attempt.bind_eq_ok.2 ⟨vs, hvs, Attempt.bind_eq_ok.2 ⟨entries', hentries', rfl⟩⟩

theorem Alike.eq_of_untied {n m : Node} (h : Alike n m) (untied : Entry.Untied n.entries) :
    n = m := by
  have entries := h.entries.eq_of_untied untied
  cases n
  cases m
  cases h.name
  cases h.id
  cases h.totalSize
  cases entries
  rfl

/-- Records in another order make a report as well, and it shows the same nodes but for the order
of nodes of one name and of siblings of one size. Where there are no such ties it is the same. -/
theorem alike_of_perm {records records' : List RawRecord} (perm : records.Perm records')
    (filled : ∀ r ∈ records, r.lastChanged ≠ some []) (agreed : NamesAgree records)
    {nodes : List Node} (h : report records = .ok nodes) :
    ∃ nodes', report records' = .ok nodes' ∧
      (∃ mid, List.Forall₂ Alike nodes mid ∧ UpToTies Node.name mid nodes') ∧
      ((nodes.map Node.name).Nodup → (∀ n ∈ nodes, Entry.Untied n.entries) → nodes' = nodes) := by
  obtain ⟨nodes', h', mid, placed, ties⟩ :=
    report_related perm (fun _ _ => Alike.name) (fun _ _ hn => ofId_alike perm filled agreed hn) h
  refine ⟨nodes', h', ⟨mid, placed, ties⟩, fun nodup untied => ?_⟩
  have both := (List.forall₂_and_left nodes mid).2 ⟨untied, placed⟩
  obtain rfl : nodes = mid := by
    rw [← List.forall₂_eq_eq_eq]
    exact both.imp fun n m h => h.2.eq_of_untied h.1
  exact (ties.eq_of_nodup nodup).symm

/-- Files whose sizes leave no ties may be given the other way round. -/
theorem alike_spellings_reverse : spellings.Perm spellings.reverse ∧
    (∀ r ∈ spellings, r.lastChanged ≠ some []) ∧ NamesAgree spellings ∧
      ∃ nodes, report spellings = .ok nodes ∧ (nodes.map Node.name).Nodup ∧
        (∀ n ∈ nodes, Entry.Untied n.entries) ∧ report spellings.reverse = .ok nodes := by
  have perm : spellings.Perm spellings.reverse := (List.reverse_perm spellings).symm
  have filled : ∀ r ∈ spellings, r.lastChanged ≠ some [] := by decide
  have agreed : NamesAgree spellings := by
    intro r hr r' hr' _ s t hs ht _ _
    simp only [spellings, List.mem_cons, List.not_mem_nil, or_false] at hr hr'
    rcases hr with rfl | rfl | rfl <;> cases hs
    rcases hr' with rfl | rfl | rfl <;> cases ht
    rfl
  obtain ⟨n, h⟩ := exists_report_spellings
  have sizes : (report spellings).toOption.all fun nodes => nodes.all fun n =>
      (n.entries.map Entry.size).Nodup ∧
        ∀ e ∈ Entry.preorder n.entries, (e.children.map Entry.size).Nodup := by
    decide +kernel
  rw [h] at sizes
  have untied : ∀ m ∈ [n], Entry.Untied m.entries := by
    intro m hm
    cases List.mem_singleton.1 hm
    obtain ⟨top, below⟩ : _ ∧ _ := by simpa [Except.toOption] using sizes
    exact ⟨top, below⟩
  obtain ⟨nodes', h', -, same⟩ := alike_of_perm perm filled agreed h
  have nodup : ([n].map Node.name).Nodup := List.nodup_singleton _
  rw [same nodup untied] at h'
  exact ⟨perm, filled, agreed, [n], h, nodup, untied, h'⟩

end Node

end UsageTree
