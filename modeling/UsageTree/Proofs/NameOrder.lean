import Mathlib.Data.List.Nodup
import Mathlib.Data.List.Sort
import Mathlib.Order.Basic
import UsageTree.Collation
import UsageTree.Proofs.Attempt

/-!
# The order of names

A list that is ordered by a key says nothing about the order of elements of one key. Two such lists
with the same elements show the same keys from the first place to the last, and differ at most in
which of several elements of one key stands where.

Names stand in a total order in which only a name itself is as far as it: folded names come first,
and of names that are folded alike the names decide. Ordering things by their names fails for a name
with a NUL and for no other reason.

## Main definitions

* `UpToTies` — the agreement of two lists but for the order of elements of one key.
* `Collation.Precedes` — the order of names.

## Main statements

* `UpToTies.of_pairwise` — lists of the same elements agree in this way if both are in order.
* `UpToTies.eq_of_nodup` — where keys are distinct, nothing is left open.
* `Collation.sortBy_eq_ok`, `Collation.sortBy_eq_error` — when things can be ordered, and what comes
  of it.
* `Collation.stable_sortBy` — things that were ordered are in order, and ties keep theirs.
* `Collation.sortBy_related` — ordering other things of the same names.
-/

namespace UsageTree

/-! ## Ties -/

section

variable {α κ : Type}

/-- The lists hold the same elements, and elements of one key at every place. -/
structure UpToTies (key : α → κ) (as bs : List α) : Prop where
  perm : as.Perm bs
  keys : as.map key = bs.map key

namespace UpToTies

variable {key : α → κ} {as bs : List α}

/-- Lists of the same elements that are both in the order of their keys. -/
theorem of_pairwise {r : κ → κ → Prop} (antisymm : ∀ k l, r k l → r l k → k = l)
    (perm : as.Perm bs) (ha : as.Pairwise fun a b => r (key a) (key b))
    (hb : bs.Pairwise fun a b => r (key a) (key b)) : UpToTies key as bs where
  perm := perm
  keys := by
    refine List.Perm.eq_of_pairwise (fun k l _ _ => antisymm k l) ?_ ?_ (perm.map key)
    · exact List.pairwise_map.2 ha
    · exact List.pairwise_map.2 hb

/-- Without two elements of one key the lists are the same. -/
theorem eq_of_nodup (h : UpToTies key as bs) (nodup : (as.map key).Nodup) : as = bs := by
  refine List.ext_getElem h.perm.length_eq fun i hi hj => ?_
  have first : as[i] ∈ as := List.getElem_mem hi
  have second : bs[i] ∈ as := h.perm.mem_iff.2 (List.getElem_mem hj)
  apply List.inj_on_of_nodup_map nodup first second
  have same : (as.map key)[i]? = (bs.map key)[i]? := by rw [h.keys]
  simpa [hi, hj] using same

/-- Sorting by a key, the largest first, settles everything but ties. -/
theorem insertionSort [LinearOrder κ] (key : α → κ) (perm : as.Perm bs) :
    UpToTies key (as.insertionSort fun a b => key b ≤ key a)
      (bs.insertionSort fun a b => key b ≤ key a) := by
  have total : Std.Total fun a b => key b ≤ key a := ⟨fun a b => le_total (key b) (key a)⟩
  have trans : IsTrans α fun a b => key b ≤ key a := ⟨fun a b c hab hbc => hbc.trans hab⟩
  have sorted (cs : List α) := List.pairwise_insertionSort (fun a b => key b ≤ key a) cs
  refine of_pairwise (r := fun k l => l ≤ k) (fun k l hlk hkl => le_antisymm hkl hlk) ?_
    (sorted as) (sorted bs)
  exact (List.perm_insertionSort _ as).trans (perm.trans (List.perm_insertionSort _ bs).symm)

end UpToTies

end

namespace Collation

/-! ## Keys -/

theorem Key.le_total (a b : Key) : a.le b || b.le a := by
  unfold Key.le
  by_cases h : a.folded = b.folded
  · simpa [h] using Text.le_total a.name b.name
  · simpa [h, Ne.symm h] using Text.le_total a.folded b.folded

theorem Key.le_trans {a b c : Key} (hab : a.le b) (hbc : b.le c) : a.le c := by
  unfold Key.le at *
  by_cases h : a.folded = b.folded
  · by_cases h' : b.folded = c.folded
    · simp only [h, h', if_true] at hab hbc ⊢
      exact Text.le_trans hab hbc
    · simpa [h, h'] using hbc
  · by_cases h' : b.folded = c.folded
    · simpa [h, ← h'] using hab
    · simp only [h, h', if_false] at hab hbc
      have far : a.folded ≠ c.folded := fun e => h (Text.le_antisymm hab (e ▸ hbc))
      simpa [far] using Text.le_trans hab hbc

/-- Only equal keys come after each other. -/
theorem Key.le_antisymm {a b : Key} (hab : a.le b) (hba : b.le a) : a = b := by
  obtain ⟨folded, name⟩ := a
  obtain ⟨folded', name'⟩ := b
  unfold Key.le at hab hba
  by_cases h : folded = folded'
  · subst h
    simp only [if_true] at hab hba
    rw [Text.le_antisymm hab hba]
  · simp only [h, Ne.symm h, if_false] at hab hba
    exact absurd (Text.le_antisymm hab hba) h

/-! ## Names -/

/-- What a name is ordered by, whatever it holds. -/
def keyOf (name : Text) : Key := ⟨fold name, name⟩

/-- The name `s` need not come after the name `t`. -/
def Precedes (s t : Text) : Prop := (keyOf s).le (keyOf t)

theorem precedes_of_eq {s t : Text} (h : s = t) : Precedes s t := by
  subst h
  simpa [Precedes] using Key.le_total (keyOf s) (keyOf s)

theorem precedes_antisymm {s t : Text} (hst : Precedes s t) (hts : Precedes t s) : s = t :=
  congrArg Key.name (Key.le_antisymm hst hts)

variable {α : Type} {name : α → Text} {as bs : List α}

theorem keyed_eq (name : α → Text) (a : α) :
    keyed name a = if ('\x00' : CodePoint) ∈ name a then .error .embeddedNul
      else .ok (keyOf (name a), a) := by
  unfold keyed key
  split <;> rfl

/-- Things can be ordered if no name holds a NUL, and are then sorted by their keys. -/
theorem sortBy_eq_ok : sortBy name as = .ok bs ↔
    (∀ a ∈ as, ('\x00' : CodePoint) ∉ name a) ∧
      bs = Sorting.sort (fun a b => (keyOf (name a)).le (keyOf (name b))) as := by
  by_cases clean : ∀ a ∈ as, ('\x00' : CodePoint) ∉ name a
  · have keys : as.mapM (keyed name) = .ok (as.map fun a => (keyOf (name a), a)) := by
      rw [← Attempt.mapM_ok]
      refine Attempt.mapM_congr fun a ha => ?_
      rw [keyed_eq, if_neg (clean a ha)]
    have sorted := Sorting.sort_map (fun p q : Key × α => p.1.le q.1)
      (fun a => (keyOf (name a), a)) as
    rw [sortBy, keys, Attempt.ok_bind, sorted, List.map_map]
    simp only [Function.comp_def, List.map_id', pure, Except.pure, Except.ok.injEq]
    exact ⟨fun h => ⟨clean, h.symm⟩, fun h => h.2.symm⟩
  · refine iff_of_false (fun h => clean fun a ha nul => ?_) fun h => clean h.1
    obtain ⟨keys, hkeys, -⟩ := Attempt.bind_eq_ok.1 h
    obtain ⟨p, -, hp⟩ := Attempt.exists_result_of_mem hkeys ha
    rw [keyed_eq, if_pos nul] at hp
    cases hp

/-- Things cannot be ordered if a name holds a NUL, and for no other reason. -/
theorem sortBy_eq_error {f : Fault} : sortBy name as = .error f ↔
    f = .embeddedNul ∧ ∃ a ∈ as, ('\x00' : CodePoint) ∈ name a := by
  have cause : ∀ f, sortBy name as = .error f →
      f = .embeddedNul ∧ ∃ a ∈ as, ('\x00' : CodePoint) ∈ name a := by
    intro f h
    rcases Attempt.bind_eq_error.1 h with h | ⟨keys, -, h⟩
    · obtain ⟨a, ha, h⟩ := Attempt.exists_of_mapM_eq_error h
      rw [keyed_eq] at h
      split at h
      · rename_i nul
        cases h
        exact ⟨rfl, a, ha, nul⟩
      · cases h
    · cases h
  refine ⟨cause f, ?_⟩
  rintro ⟨rfl, a, ha, nul⟩
  cases h : sortBy name as with
  | ok bs => exact absurd nul ((sortBy_eq_ok.1 h).1 a ha)
  | error f => rw [(cause f h).1]

/-- Changed things are ordered as the things are, by the names that they have then. -/
theorem sortBy_map {β : Type} (g : β → α) (bs : List β) :
    sortBy name (bs.map g) = (sortBy (fun b => name (g b)) bs).map (List.map g) := by
  have keys (b : β) : keyed name (g b) =
      (keyed (fun b => name (g b)) b).map fun p => (p.1, g p.2) := by
    rw [keyed_eq, keyed_eq]
    split <;> rfl
  rw [sortBy, sortBy, Attempt.mapM_map_of_map keys]
  cases bs.mapM (keyed fun b => name (g b)) with
  | error f => rfl
  | ok pairs =>
    simp only [Except.map, Attempt.ok_bind, Sorting.sort_map, pure, Except.pure, List.map_map]
    rfl

/-- Ordering by name neither loses nor adds things. -/
theorem perm_sortBy (h : sortBy name as = .ok bs) : bs.Perm as := by
  obtain ⟨-, rfl⟩ := sortBy_eq_ok.1 h
  exact Sorting.perm_sort _ as

/-- Things are put in the order of their names, and those of one name keep the order `q` that they
were in. -/
theorem stable_sortBy {q : α → α → Prop} (h : sortBy name as = .ok bs) (ordered : as.Pairwise q) :
    bs.Pairwise fun a b => Precedes (name a) (name b) ∧ (name a = name b → q a b) := by
  obtain ⟨-, rfl⟩ := sortBy_eq_ok.1 h
  have total (a b : α) := Key.le_total (keyOf (name a)) (keyOf (name b))
  have trans (a b c : α) := Key.le_trans (a := keyOf (name a)) (b := keyOf (name b))
    (c := keyOf (name c))
  refine (Sorting.pairwise_sort _ total trans ordered).imp fun {a b} ⟨before, tie⟩ => ?_
  exact ⟨before, fun same => tie (precedes_of_eq same.symm)⟩

/-- Things in order: none of them should come before an earlier one. -/
theorem pairwise_sortBy (h : sortBy name as = .ok bs) :
    bs.Pairwise fun a b => Precedes (name a) (name b) :=
  (stable_sortBy h (List.pairwise_of_forall fun _ _ => trivial)).imp And.left

/-- Things with the same names, in whatever order, can be ordered as well, and come to stand beside
those with their names but for ties. -/
theorem sortBy_related {R : α → α → Prop} (named : ∀ a b, R a b → name a = name b)
    {as' bs' : List α} (related : List.Forall₂ R as as') (moved : as'.Perm bs')
    (h : sortBy name as = .ok bs) : ∃ cs, sortBy name bs' = .ok cs ∧
      ∃ mid, List.Forall₂ R bs mid ∧ UpToTies name mid cs := by
  obtain ⟨mid, placed, same⟩ := List.perm_comp_forall₂ (perm_sortBy h) related
  have names : bs.map name = mid.map name := Attempt.map_eq_map_of_forall₂ placed named
  have perm : mid.Perm bs' := same.trans moved
  have clean : ∀ b ∈ bs', ('\x00' : CodePoint) ∉ name b := by
    intro b hb
    have known : name b ∈ bs.map name := names ▸ List.mem_map_of_mem (perm.mem_iff.2 hb)
    obtain ⟨a, ha, same_name⟩ := List.mem_map.1 known
    rw [← same_name]
    exact (sortBy_eq_ok.1 h).1 a ((perm_sortBy h).mem_iff.1 ha)
  obtain ⟨cs, hcs⟩ : ∃ cs, sortBy name bs' = .ok cs := ⟨_, sortBy_eq_ok.2 ⟨clean, rfl⟩⟩
  have ordered : mid.Pairwise fun a b => Precedes (name a) (name b) :=
    List.pairwise_map.1 (names ▸ List.pairwise_map.2 (pairwise_sortBy h))
  refine ⟨cs, hcs, mid, placed, ?_⟩
  exact .of_pairwise (fun _ _ => precedes_antisymm) (perm.trans (perm_sortBy hcs).symm) ordered
    (pairwise_sortBy hcs)

end Collation

end UsageTree
