import Mathlib.Data.List.Infix
import Mathlib.Data.List.Nodup

/-!
# Beginnings of a list

`List.inits` lists the beginnings of a list, the shortest first. Two neighbours in it differ by one
element, and that element is what follows the shorter one in the list.

## Main definitions

* `nextAfter` — the element that follows a beginning.

## Main statements

* `nextAfter_eq_some` — what follows a beginning makes it longer by one.
* `filter_inits_eq`, `filter_steps_eq` — a beginning occurs once, and has one neighbour after it.
-/

namespace UsageTree.Beginnings

variable {α : Type} [DecidableEq α]

/-- The element of a list after the beginning `p`. -/
def nextAfter : (p l : List α) → Option α
  | [], l => l.head?
  | _ :: _, [] => none
  | b :: p, a :: l => if b = a then nextAfter p l else none

theorem nextAfter_eq_some {p l : List α} {a : α} : nextAfter p l = some a ↔ p ++ [a] <+: l := by
  fun_induction nextAfter p l with
  | case1 l => cases l <;> simp [eq_comm]
  | case2 => simp
  | case3 p b l ih => simpa using ih
  | case4 b p c l hbc => simp [hbc]

/-- Nothing follows a beginning only if it is the whole list. -/
theorem nextAfter_eq_none {p l : List α} (h : p <+: l) : nextAfter p l = none ↔ l = p := by
  fun_induction nextAfter p l with
  | case1 l => simp
  | case2 => simp at h
  | case3 p b l ih => simpa using ih (by simpa using h)
  | case4 b p c l hbc => simp [hbc] at h

/-- What follows a beginning is the first element of the rest. -/
theorem head?_drop {p l : List α} (h : p <+: l) : (l.drop p.length).head? = nextAfter p l := by
  obtain ⟨rest, rfl⟩ := h
  induction p with
  | nil => rfl
  | cons b p ih => simpa [nextAfter] using ih

omit [DecidableEq α] in
/-- The first beginning is the empty one. -/
theorem inits_eq_cons (l : List α) : l.inits = [] :: l.inits.tail := by
  cases l <;> simp

omit [DecidableEq α] in
/-- The last beginning is the whole list. -/
theorem getLast?_inits (l : List α) : l.inits.getLast? = some l := by
  induction l with
  | nil => rfl
  | cons a l ih => simp [List.getLast?_cons, ih]

omit [DecidableEq α] in
/-- The beginnings stand in the order of their lengths. -/
theorem getElem?_inits {l p : List α} {k : Nat} :
    l.inits[k]? = some p ↔ k ≤ l.length ∧ p = l.take k := by
  rw [List.getElem?_eq_some_iff]
  simp only [List.getElem_inits, List.length_inits]
  grind

omit [DecidableEq α] in
/-- The beginnings of a beginning are those of the list that are not longer. -/
theorem inits_take (l : List α) (k : Nat) : (l.take k).inits = l.inits.take (k + 1) := by
  induction l generalizing k with
  | nil => simp
  | cons a l ih => cases k <;> simp [ih, List.map_take]

/-- The beginnings of a list and their neighbours. -/
def steps (l : List α) : List (List α × List α) := l.inits.zip l.inits.tail

omit [DecidableEq α] in
omit [DecidableEq α] in
theorem steps_cons (a : α) (l : List α) :
    steps (a :: l) = ([], [a]) :: (steps l).map fun e => (a :: e.1, a :: e.2) := by
  rw [steps, List.inits_cons, List.tail_cons]
  conv_lhs => rw [inits_eq_cons, List.map_cons, List.zip_cons_cons]
  rw [← List.map_cons, ← inits_eq_cons, List.zip_map, steps]
  rfl

omit [DecidableEq α] in
theorem pairwise_inits (l : List α) : l.inits.Pairwise fun p q => p.length < q.length := by
  induction l with
  | nil => simp
  | cons a l ih =>
    rw [List.inits_cons]
    refine List.pairwise_cons.2 ⟨by simp, ?_⟩
    exact List.pairwise_map.2 (ih.imp fun h => by simpa using h)

omit [DecidableEq α] in
theorem nodup_inits (l : List α) : l.inits.Nodup :=
  (pairwise_inits l).imp fun h e => by simp [e] at h

omit [DecidableEq α] in
/-- The beginnings without the empty one. -/
theorem mem_tail_inits {p l : List α} : p ∈ l.inits.tail ↔ p ≠ [] ∧ p <+: l := by
  cases l with
  | nil => simp
  | cons a l =>
    rw [List.inits_cons, List.tail_cons, List.mem_map]
    constructor
    · rintro ⟨q, hq, rfl⟩
      exact ⟨by simp, List.cons_prefix_cons.2 ⟨rfl, (List.mem_inits q l).1 hq⟩⟩
    · rintro ⟨hp, beginning⟩
      obtain ⟨b, q, rfl⟩ := List.exists_cons_of_ne_nil hp
      obtain ⟨rfl, hq⟩ := List.cons_prefix_cons.1 beginning
      exact ⟨q, (List.mem_inits q l).2 hq, rfl⟩

/-- A beginning occurs once among the beginnings. -/
theorem filter_inits_eq (p l : List α) :
    (l.inits.filter fun q => q = p) = if p <+: l then [p] else [] := by
  rw [List.filter_eq, (nodup_inits l).count]
  by_cases h : p <+: l <;> simp [h]

/-- A beginning has one neighbour after it, or none if it is the whole list. -/
theorem filter_steps_eq (p l : List α) :
    ((steps l).filter fun e => e.1 = p).map Prod.snd =
      ((nextAfter p l).map fun a => p ++ [a]).toList := by
  fun_induction nextAfter p l with
  | case1 l =>
    cases l with
    | nil => rfl
    | cons a l => simp [steps_cons, List.filter_map, Function.comp_def]
  | case2 => rfl
  | case3 p b l ih =>
    have ih := congrArg (List.map fun q => b :: q) ih
    rw [steps_cons]
    simpa [List.filter_map, Function.comp_def, Option.toList_map] using ih
  | case4 b p c l hbc =>
    simp [steps_cons, List.filter_map, Function.comp_def, Ne.symm hbc]

/-- A beginning with a neighbour after it is not the whole list. -/
theorem exists_next_of_mem_steps {l : List α} {e : List α × List α} (h : e ∈ steps l) :
    ∃ a, e.1 ++ [a] <+: l := by
  have found : e.2 ∈ ((steps l).filter fun d => d.1 = e.1).map Prod.snd :=
    List.mem_map_of_mem (List.mem_filter.2 ⟨h, by simp⟩)
  rw [filter_steps_eq] at found
  obtain ⟨a, ha, -⟩ := Option.map_eq_some_iff.1 (Option.mem_toList.1 found)
  exact ⟨a, nextAfter_eq_some.1 ha⟩

end UsageTree.Beginnings
