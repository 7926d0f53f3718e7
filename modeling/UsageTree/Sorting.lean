/-!
# Stable sorting

Insertion from the right: an element is put in front of the first one that need not come before
it, so that elements of equal rank keep their order.

## Main definitions

* `Sorting.place` — an element put into a sorted list.
* `Sorting.sort` — a list in the order of a comparison.
* `Sorting.Precedes` — the order that sorting leaves behind.
-/

namespace UsageTree.Sorting

variable {α : Type} (le : α → α → Bool)

/-- The list with `a` in front of the first element `b` with `le a b`. -/
def place (a : α) : List α → List α
  | [] => [a]
  | b :: rest => if le a b then a :: b :: rest else b :: place a rest

/-- The list in the order of `le`; elements that are `le` both ways keep their order. -/
def sort (as : List α) : List α := as.foldr (place le) []

@[simp] theorem sort_cons (a : α) (as : List α) : sort le (a :: as) = place le a (sort le as) := rfl

/-! ## Images -/

theorem place_map {β : Type} (f : β → α) (b : β) (bs : List β) :
    place le (f b) (bs.map f) = (place (fun x y => le (f x) (f y)) b bs).map f := by
  induction bs with
  | nil => rfl
  | cons c bs ih =>
    rw [List.map_cons, place, place]
    split
    · rfl
    · rw [ih, List.map_cons]

/-- Images are sorted as the things they are images of, compared by their images. -/
theorem sort_map {β : Type} (f : β → α) (bs : List β) :
    sort le (bs.map f) = (sort (fun x y => le (f x) (f y)) bs).map f := by
  induction bs with
  | nil => rfl
  | cons b bs ih => rw [List.map_cons, sort_cons, ih, place_map, sort_cons]

/-! ## Elements -/

theorem perm_place (a : α) (as : List α) : (place le a as).Perm (a :: as) := by
  fun_induction place le a as with
  | case1 => exact .refl _
  | case2 => exact .refl _
  | case3 b rest _ ih => exact (ih.cons b).trans (.swap a b rest)

/-- Sorting neither loses nor adds elements. -/
theorem perm_sort (as : List α) : (sort le as).Perm as := by
  induction as with
  | nil => exact .refl _
  | cons a as ih => exact (perm_place le a _).trans (ih.cons a)

@[simp] theorem mem_sort {a : α} {as : List α} : a ∈ sort le as ↔ a ∈ as :=
  (perm_sort le as).mem_iff

/-! ## Order -/

variable {q : α → α → Prop}

/-- By `le` the first need not come after the second, and if it need not come before it either then
it comes first by `q`. -/
def Precedes (q : α → α → Prop) (a b : α) : Prop := le a b ∧ (le b a → q a b)

theorem pairwise_place (total : ∀ a b, le a b || le b a)
    (trans : ∀ a b c, le a b → le b c → le a c) {a : α} {as : List α}
    (sorted : as.Pairwise (Precedes le q)) (first : ∀ b ∈ as, q a b) :
    (place le a as).Pairwise (Precedes le q) := by
  fun_induction place le a as with
  | case1 => simp
  | case2 b rest hab =>
    refine List.pairwise_cons.2 ⟨fun c hc => ⟨?_, fun _ => first c hc⟩, sorted⟩
    rcases List.mem_cons.1 hc with rfl | hc
    · exact hab
    · exact trans _ _ _ hab (List.rel_of_pairwise_cons sorted hc).1
  | case3 b rest hab ih =>
    obtain ⟨hb, hrest⟩ := List.pairwise_cons.1 sorted
    refine List.pairwise_cons.2 ⟨fun c hc => ?_, ih hrest fun c hc => first c (by simp [hc])⟩
    rcases List.mem_cons.1 ((perm_place le a rest).mem_iff.1 hc) with rfl | hc
    · have := total c b
      exact ⟨by simp_all, fun hcb => absurd hcb hab⟩
    · exact hb c hc

/-- A sorted list is in order, wherever the comparison is total and transitive. Elements between
which it makes no difference stay in the order `q` that they were in. -/
theorem pairwise_sort (total : ∀ a b, le a b || le b a)
    (trans : ∀ a b c, le a b → le b c → le a c) {as : List α} (h : as.Pairwise q) :
    (sort le as).Pairwise (Precedes le q) := by
  induction h with
  | nil => exact .nil
  | @cons a as first _ ih =>
    exact pairwise_place le total trans ih fun b hb => first b ((mem_sort le).1 hb)

end UsageTree.Sorting
