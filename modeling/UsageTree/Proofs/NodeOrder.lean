import Mathlib.Data.List.Lex
import Mathlib.Data.Prod.Lex
import UsageTree.Proofs.Partition
import UsageTree.Proofs.PerNode

/-!
# The order of nodes

Nodes are ordered by pairs of the folded name and the name, and both are compared number by number.
Only equal names have equal pairs, so that names alone decide where nodes stand, and nodes of one
name stand as their ids are met. Names that are folded alike stand together.

## Main definitions

* `Collation.rank` — what a name is compared by, in lexicographic order.
* `Node.firstOf` — where the first record of a node stands.
* `Node.Ordered` — the nodes of a report in order.

## Main statements

* `Collation.precedes_iff` — names are in the order of their ranks.
* `Node.ordered_of_report` — the nodes of a report are in order.
-/

namespace UsageTree

/-! ## Ranks of names -/

namespace Text

/-- The numbers of the code points. -/
def codes (s : Text) : List Nat := s.map CodePoint.val

theorem codes_injective : Function.Injective codes := fun _ _ h =>
  (List.map_inj_right fun _ _ => CodePoint.ext_val).1 h

/-- Texts are compared as lists of numbers. -/
theorem le_iff_codes_le {s t : Text} : le s t ↔ codes s ≤ codes t := by
  induction s generalizing t with
  | nil => simp [codes, ← not_lt]
  | cons a s ih =>
    cases t with
    | nil => simp [le, codes, ← not_lt]
    | cons b t =>
      have same : a = b ↔ a.val = b.val := ⟨congrArg _, CodePoint.ext_val⟩
      have less : codes (a :: s) < codes (b :: t) ↔
          a.val < b.val ∨ a.val = b.val ∧ codes s < codes t := List.cons_lt_cons_iff
      rw [cons_le_cons, ih, le_iff_lt_or_eq, le_iff_lt_or_eq, less, codes_injective.eq_iff,
        codes_injective.eq_iff, List.cons.injEq, same]
      tauto

end Text

namespace Collation

/-- What a name is compared by: its folded form, and the name itself where folded forms are equal. -/
def rank (name : Text) : List Nat ×ₗ List Nat := toLex ((fold name).codes, name.codes)

theorem rank_injective : Function.Injective rank := fun _ _ h =>
  Text.codes_injective (congrArg (fun r => (ofLex r).2) h)

theorem precedes_iff {s t : Text} : Precedes s t ↔ rank s ≤ rank t := by
  rw [rank, rank, Prod.Lex.toLex_le_toLex, Precedes, Key.le, keyOf, keyOf]
  by_cases same : fold s = fold t
  · simp [same, Text.le_iff_codes_le]
  · have apart : (fold s).codes ≠ (fold t).codes := Text.codes_injective.ne same
    simp [same, apart, Text.le_iff_codes_le, le_iff_lt_or_eq]

/-- A name between two that are folded alike is folded like them. -/
theorem fold_eq_of_between {s t u : Text} (hst : rank s ≤ rank t) (htu : rank t ≤ rank u)
    (alike : fold s = fold u) : fold t = fold s := by
  have lower : (fold s).codes ≤ (fold t).codes := Prod.Lex.monotone_fst _ _ hst
  have upper : (fold t).codes ≤ (fold u).codes := Prod.Lex.monotone_fst _ _ htu
  rw [← alike] at upper
  exact Text.codes_injective (upper.antisymm lower)

end Collation

/-! ## Nodes -/

namespace Node

variable {records : List RawRecord} {nodes : List Node}

/-- Where the first record of a node stands. -/
def firstOf (records : List RawRecord) (n : Node) : Nat :=
  records.findIdx fun r => r.id.map NodeId.display = .ok n.id

theorem firstOf_eq {id : NodeId} {n : Node} (shown : n.id = id.display) :
    firstOf records n = Group.firstOf records id := by
  rw [firstOf, Group.firstOf, shown]
  congr 1
  funext r
  cases r.id <;> simp [Except.map, NodeId.display_injective.eq_iff]

/-- Nodes are made in the order in which their ids are met. -/
theorem pairwise_firstOf {made : List Node}
    (h : (Group.ids records).mapM (ofId records) = .ok made) :
    made.Pairwise fun n m => firstOf records n < firstOf records m := by
  have steps := Attempt.mapM_eq_ok.1 h
  have same : (Group.ids records).map (Group.firstOf records) = made.map (firstOf records) :=
    Attempt.map_eq_map_of_forall₂ steps fun id n hn => (firstOf_eq (id_of_ofId hn)).symm
  rw [← List.pairwise_map, ← same, List.pairwise_map]
  exact Group.pairwise_ids records

/-- The nodes of a report are in order. -/
structure Ordered (records : List RawRecord) (nodes : List Node) : Prop where
  /-- Every node has a record. -/
  met : ∀ n ∈ nodes, firstOf records n < records.length
  /-- Ranks decide, and nodes of one name stand as their ids are met. -/
  order : nodes.Pairwise fun n m =>
    Collation.rank n.name < Collation.rank m.name ∨
      n.name = m.name ∧ firstOf records n < firstOf records m
  /-- Nodes of which neither should come before the other have one name. -/
  tie : ∀ n ∈ nodes, ∀ m ∈ nodes, (Collation.keyOf n.name).le (Collation.keyOf m.name) →
    (Collation.keyOf m.name).le (Collation.keyOf n.name) → n.name = m.name
  /-- Nodes whose names are folded alike stand together. -/
  contiguous : ∀ n x m, [n, x, m].Sublist nodes →
    Collation.fold n.name = Collation.fold m.name → Collation.fold x.name = Collation.fold n.name
  /-- Where names are distinct, the names alone tell in which order they stand. -/
  canonical : (nodes.map Node.name).Nodup → ∀ records' nodes', report records' = .ok nodes' →
    (nodes'.map Node.name).Nodup →
      (∀ name, name ∈ nodes.map Node.name ↔ name ∈ nodes'.map Node.name) →
        nodes.map Node.name = nodes'.map Node.name

theorem pairwise_names (h : report records = .ok nodes) :
    (nodes.map Node.name).Pairwise Collation.Precedes := by
  obtain ⟨-, made, -, sorted⟩ := report_eq_ok.1 h
  exact List.pairwise_map.2 (Collation.pairwise_sortBy sorted)

theorem names_eq_of_perm {records' : List RawRecord} {nodes' : List Node}
    (h : report records = .ok nodes) (h' : report records' = .ok nodes')
    (perm : (nodes.map Node.name).Perm (nodes'.map Node.name)) :
    nodes.map Node.name = nodes'.map Node.name :=
  perm.eq_of_pairwise (fun _ _ _ _ => Collation.precedes_antisymm) (pairwise_names h)
    (pairwise_names h')

/-- The nodes of a report are in order. -/
theorem ordered_of_report (h : report records = .ok nodes) : Ordered records nodes where
  met n hn := by
    obtain ⟨id, hid, made⟩ := exists_id_of_mem h hn
    rw [firstOf_eq (id_of_ofId made)]
    exact Group.firstOf_lt_length.2 hid
  order := by
    obtain ⟨-, made, hmade, sorted⟩ := report_eq_ok.1 h
    have stable := Collation.stable_sortBy sorted (pairwise_firstOf hmade)
    refine stable.imp fun {n m} ⟨before, tie⟩ => ?_
    rcases (Collation.precedes_iff.1 before).lt_or_eq with less | same
    · exact .inl less
    · have same := Collation.rank_injective same
      exact .inr ⟨same, tie same⟩
  tie _ _ _ _ := Collation.precedes_antisymm
  contiguous n x m sub alike := by
    have sorted : [n.name, x.name, m.name].Pairwise Collation.Precedes :=
      (pairwise_names h).sublist (sub.map Node.name)
    obtain ⟨first, rest⟩ := List.pairwise_cons.1 sorted
    have lower : Collation.Precedes n.name x.name := first _ (by simp)
    have upper : Collation.Precedes x.name m.name := List.rel_of_pairwise_cons rest (by simp)
    exact Collation.fold_eq_of_between (Collation.precedes_iff.1 lower)
      (Collation.precedes_iff.1 upper) alike
  canonical nodup records' nodes' h' nodup' same :=
    names_eq_of_perm h h' ((List.perm_ext_iff_of_nodup nodup nodup').2 same)

/-- Records of five nodes. Three names are folded alike, and two of these are equal. -/
def mixed : List RawRecord :=
  [⟨some [3], some "éclair", some "a", some 1, none⟩,
    ⟨some [1], some "zulu", some "a", some 1, none⟩,
    ⟨some [9], some "eclair", some "a", some 1, none⟩,
    ⟨some [5], some "Zebra", some "a", some 1, none⟩,
    ⟨some [2], some "éclair", some "a", some 1, none⟩,
    ⟨some [3], none, some "b", some 1, none⟩]

theorem ordered_mixed : ∃ nodes, report mixed = .ok nodes ∧
    nodes.map (fun n => (n.name, n.id)) =
      [(("eclair" : Text), ("09" : Text)), (("éclair" : Text), ("03" : Text)),
        (("éclair" : Text), ("02" : Text)), (("Zebra" : Text), ("05" : Text)),
        (("zulu" : Text), ("01" : Text))] ∧ Ordered mixed nodes := by
  have made : (report mixed).toOption.map (List.map fun n => (n.name, n.id)) =
      some [(("eclair" : Text), ("09" : Text)), (("éclair" : Text), ("03" : Text)),
        (("éclair" : Text), ("02" : Text)), (("Zebra" : Text), ("05" : Text)),
        (("zulu" : Text), ("01" : Text))] := by decide +kernel
  obtain ⟨nodes, h, shown⟩ := Attempt.exists_of_map_toOption made
  exact ⟨nodes, h, shown, ordered_of_report h⟩

end Node

end UsageTree
