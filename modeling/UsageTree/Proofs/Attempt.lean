import Mathlib.Data.List.Perm.Basic
import Mathlib.Data.List.Sort
import UsageTree.Sorting

/-!
# Steps that may fail, over a list

What a list of steps gives, one for every element, when each of them may fail: all results in order,
or the first failure. Where all failures are the same, the order of the steps does not matter, and
the steps may be taken before or after sorting.

## Main definitions

* `Attempt.First` — the fault of the first element that has one.

## Main statements

* `Attempt.mapM_eq_ok`, `Attempt.mapM_eq_error` — success means success at every element, failure
  the failure of the first element that fails.
* `Attempt.exists_mapM_of_perm`, `Attempt.exists_mapM_of_related` — steps in another order, and other
  steps.
* `Attempt.mapM_insertionSort` — steps and sorting commute.
-/

namespace UsageTree

namespace Sorting

variable {α : Type}

/-- Insertion from the right, for a relation that can be decided. -/
theorem sort_eq_insertionSort (r : α → α → Prop) [DecidableRel r] (as : List α) :
    sort (fun a b => decide (r a b)) as = as.insertionSort r := by
  have place_eq (a : α) (bs : List α) :
      place (fun a b => decide (r a b)) a bs = bs.orderedInsert r a := by
    induction bs with
    | nil => rfl
    | cons b bs ih => simp [place, List.orderedInsert, ih]
  induction as with
  | nil => rfl
  | cons a as ih => rw [sort_cons, ih, place_eq, List.insertionSort_cons]

end Sorting

namespace Attempt

variable {ε α β γ : Type}

@[simp] theorem ok_bind (a : α) (f : α → Except ε β) : (Except.ok a >>= f) = f a := rfl

@[simp] theorem error_bind (e : ε) (f : α → Except ε β) :
    ((Except.error e : Except ε α) >>= f) = .error e := rfl

theorem bind_eq_ok {x : Except ε α} {f : α → Except ε β} {b : β} :
    (x >>= f) = .ok b ↔ ∃ a, x = .ok a ∧ f a = .ok b := by
  cases x <;> simp

theorem bind_eq_error {x : Except ε α} {f : α → Except ε β} {e : ε} :
    (x >>= f) = .error e ↔ x = .error e ∨ ∃ a, x = .ok a ∧ f a = .error e := by
  cases x <;> simp

theorem exists_eq_ok_iff {x : Except ε α} : (∃ a, x = .ok a) ↔ ∀ e, x ≠ .error e := by
  cases x <;> simp

theorem ite_eq_ok {p : Prop} [Decidable p] {a b : α} {e : ε} :
    (if p then .ok a else .error e : Except ε α) = .ok b ↔ p ∧ b = a := by
  split <;> simp_all [eq_comm]

theorem ite_eq_error {p : Prop} [Decidable p] {a : α} {e f : ε} :
    (if p then .ok a else .error e : Except ε α) = .error f ↔ f = e ∧ ¬ p := by
  split <;> simp_all [eq_comm]

theorem toOption_eq_some {x : Except ε α} {a : α} : x.toOption = some a ↔ x = .ok a := by
  cases x <;> simp [Except.toOption]

theorem mapError_eq_ok {φ : Type} {f : ε → φ} {x : Except ε α} {a : α} :
    x.mapError f = .ok a ↔ x = .ok a := by
  cases x <;> simp [Except.mapError]

theorem map_eq_ok {f : α → β} {x : Except ε α} {b : β} :
    x.map f = .ok b ↔ ∃ a, x = .ok a ∧ f a = b := by
  cases x <;> simp [Except.map]

theorem map_eq_error {f : α → β} {x : Except ε α} {e : ε} : x.map f = .error e ↔ x = .error e := by
  cases x <;> simp [Except.map]

/-- Something that is known of the result shows that there is one. -/
theorem exists_of_map_toOption {x : Except ε α} {f : α → β} {b : β}
    (h : x.toOption.map f = some b) : ∃ a, x = .ok a ∧ f a = b := by
  obtain ⟨a, ha, hb⟩ := Option.map_eq_some_iff.1 h
  exact ⟨a, toOption_eq_some.1 ha, hb⟩

/-- All steps succeed, each with its own result. -/
theorem mapM_eq_ok {f : α → Except ε β} {as : List α} {bs : List β} :
    as.mapM f = .ok bs ↔ List.Forall₂ (fun a b => f a = .ok b) as bs := by
  induction as generalizing bs with
  | nil => cases bs <;> simp [pure, Except.pure]
  | cons a as ih =>
    rw [List.mapM_cons, bind_eq_ok]
    constructor
    · rintro ⟨b, hb, h⟩
      obtain ⟨cs, hcs, h⟩ := bind_eq_ok.1 h
      cases h
      exact .cons hb (ih.1 hcs)
    · rintro (_ | ⟨hb, hcs⟩)
      exact ⟨_, hb, bind_eq_ok.2 ⟨_, ih.2 hcs, rfl⟩⟩

/-- What stands in the second of two related lists is related to something in the first. -/
theorem exists_left_of_mem {R : α → β → Prop} {as : List α} {bs : List β}
    (h : List.Forall₂ R as bs) {b : β} (hb : b ∈ bs) : ∃ a ∈ as, R a b := by
  induction h with
  | nil => cases hb
  | @cons a c as bs related rest ih =>
    rcases List.mem_cons.1 hb with rfl | hb
    · exact ⟨a, by simp, related⟩
    · obtain ⟨d, hd, hdb⟩ := ih hb
      exact ⟨d, by simp [hd], hdb⟩

theorem exists_right_of_mem {R : α → β → Prop} {as : List α} {bs : List β}
    (h : List.Forall₂ R as bs) {a : α} (ha : a ∈ as) : ∃ b ∈ bs, R a b :=
  exists_left_of_mem (R := flip R) h.flip ha

theorem sublistForall₂_append {R : α → β → Prop} {as as' : List α} {bs bs' : List β}
    (h : List.SublistForall₂ R as bs) (h' : List.SublistForall₂ R as' bs') :
    List.SublistForall₂ R (as ++ as') (bs ++ bs') := by
  obtain ⟨mid, related, within⟩ := List.sublistForall₂_iff.1 h
  obtain ⟨mid', related', within'⟩ := List.sublistForall₂_iff.1 h'
  exact List.sublistForall₂_iff.2 ⟨_, List.rel_append related related', within.append within'⟩

/-- A result of the whole is the result of one of the steps. -/
theorem exists_of_mem_mapM {f : α → Except ε β} {as : List α} {bs : List β}
    (h : as.mapM f = .ok bs) {b : β} (hb : b ∈ bs) : ∃ a ∈ as, f a = .ok b :=
  exists_left_of_mem (mapM_eq_ok.1 h) hb

/-- Every step has its result among those of the whole. -/
theorem exists_result_of_mem {f : α → Except ε β} {as : List α} {bs : List β}
    (h : as.mapM f = .ok bs) {a : α} (ha : a ∈ as) : ∃ b ∈ bs, f a = .ok b :=
  exists_right_of_mem (mapM_eq_ok.1 h) ha

/-- What related elements have in common is the same all along two lists. -/
theorem map_eq_map_of_forall₂ {R : α → β → Prop} {as : List α} {bs : List β}
    (h : List.Forall₂ R as bs) {g : α → γ} {k : β → γ} (kept : ∀ a b, R a b → g a = k b) :
    as.map g = bs.map k := by
  rw [← List.forall₂_eq_eq_eq, List.forall₂_map_left_iff, List.forall₂_map_right_iff]
  exact h.imp kept

/-- What every step keeps is the same in front of all steps and behind them. -/
theorem map_eq_map_of_mapM {f : α → Except ε β} {as : List α} {bs : List β}
    (h : as.mapM f = .ok bs) {g : α → γ} {k : β → γ} (kept : ∀ a b, f a = .ok b → g a = k b) :
    as.map g = bs.map k :=
  map_eq_map_of_forall₂ (mapM_eq_ok.1 h) kept

/-- The first element of a list that has any fault has the fault `e`. -/
def First (fault : α → ε → Prop) (as : List α) (e : ε) : Prop :=
  ∃ before a after, as = before ++ a :: after ∧ (∀ b ∈ before, ∀ e', ¬ fault b e') ∧ fault a e

theorem first_cons {fault : α → ε → Prop} {a : α} {as : List α} {e : ε} :
    First fault (a :: as) e ↔ fault a e ∨ (∀ e', ¬ fault a e') ∧ First fault as e := by
  constructor
  · rintro ⟨before, b, after, split, clean, faulty⟩
    cases before with
    | nil =>
      cases split
      exact .inl faulty
    | cons c before =>
      cases split
      exact .inr ⟨clean a (by simp), before, b, after, rfl, fun d hd => clean d (by simp [hd]),
        faulty⟩
  · rintro (faulty | ⟨clean, before, b, after, rfl, rest, faulty⟩)
    · exact ⟨[], a, as, rfl, by simp, faulty⟩
    · exact ⟨a :: before, b, after, rfl, by simpa [clean] using rest, faulty⟩

theorem First.exists_mem {fault : α → ε → Prop} {as : List α} {e : ε} (h : First fault as e) :
    ∃ a ∈ as, fault a e := by
  obtain ⟨before, a, after, rfl, -, faulty⟩ := h
  exact ⟨a, by simp, faulty⟩

theorem first_congr {fault fault' : α → ε → Prop} {as : List α} {e : ε}
    (h : ∀ a ∈ as, ∀ e', fault a e' ↔ fault' a e') : First fault as e ↔ First fault' as e := by
  induction as with
  | nil => simp [First]
  | cons a as ih =>
    have rest := ih fun b hb => h b (by simp [hb])
    simp only [first_cons, h a (by simp), rest]

/-- There is a first fault if there is any. -/
theorem exists_first_iff {fault : α → ε → Prop} {as : List α} :
    (∃ e, First fault as e) ↔ ∃ a ∈ as, ∃ e, fault a e := by
  constructor
  · rintro ⟨e, first⟩
    obtain ⟨a, ha, faulty⟩ := first.exists_mem
    exact ⟨a, ha, e, faulty⟩
  · rintro ⟨a, ha, faulty⟩
    induction as with
    | nil => cases ha
    | cons b as ih =>
      simp only [first_cons]
      by_cases here : ∃ e, fault b e
      · exact here.imp fun e => .inl
      · have later : a ∈ as := by
          rcases List.mem_cons.1 ha with rfl | later
          · exact absurd faulty here
          · exact later
        exact (ih later).imp fun e first => .inr ⟨not_exists.1 here, first⟩

/-- The whole fails as the first step does that fails. -/
theorem mapM_eq_error {f : α → Except ε β} {as : List α} {e : ε} :
    as.mapM f = .error e ↔ First (fun a e => f a = .error e) as e := by
  induction as with
  | nil => simp [First, pure, Except.pure]
  | cons a as ih =>
    rw [List.mapM_cons, first_cons, ← ih]
    cases f a with
    | error e' => simp
    | ok b => cases as.mapM f <;> simp [pure, Except.pure]

/-- A failure of the whole is the failure of one of the steps. -/
theorem exists_of_mapM_eq_error {f : α → Except ε β} {as : List α} {e : ε}
    (h : as.mapM f = .error e) : ∃ a ∈ as, f a = .error e := (mapM_eq_error.1 h).exists_mem

/-- The whole succeeds where every step does, and only there. -/
theorem exists_mapM_iff {f : α → Except ε β} {as : List α} :
    (∃ bs, as.mapM f = .ok bs) ↔ ∀ a ∈ as, ∃ b, f a = .ok b := by
  constructor
  · rintro ⟨bs, h⟩ a ha
    obtain ⟨b, -, hb⟩ := exists_result_of_mem h ha
    exact ⟨b, hb⟩
  · intro h
    cases hbs : as.mapM f with
    | ok bs => exact ⟨bs, rfl⟩
    | error e =>
      obtain ⟨a, ha, failed⟩ := exists_of_mapM_eq_error hbs
      obtain ⟨b, hb⟩ := h a ha
      cases hb.symm.trans failed

theorem mapM_congr {f g : α → Except ε β} {as : List α} (h : ∀ a ∈ as, f a = g a) :
    as.mapM f = as.mapM g := by
  induction as with
  | nil => rfl
  | cons a as ih =>
    rw [List.mapM_cons, List.mapM_cons, h a (by simp), ih fun b hb => h b (by simp [hb])]

/-- Steps that all succeed. -/
theorem mapM_ok (f : α → β) (as : List α) :
    as.mapM (fun a => (Except.ok (f a) : Except ε β)) = .ok (as.map f) :=
  List.mapM_pure

/-- Steps that give changed results give them for a list as well. -/
theorem mapM_of_map {f : α → Except ε β} {f' : α → Except ε γ} {g : β → γ} {as : List α}
    (same : ∀ a ∈ as, f' a = (f a).map g) : as.mapM f' = (as.mapM f).map (List.map g) := by
  induction as with
  | nil => rfl
  | cons a as ih =>
    rw [List.mapM_cons, List.mapM_cons, same a (by simp), ih fun b hb => same b (by simp [hb])]
    cases f a with
    | error e => rfl
    | ok b => cases as.mapM f <;> rfl

/-- Steps taken on changed elements give the changed results, where each of them does. -/
theorem mapM_map_of_map {α' β' : Type} {f : α → Except ε β} {f' : α' → Except ε β'} {c : α → α'}
    {g : β → β'} (same : ∀ a, f' (c a) = (f a).map g) (as : List α) :
    (as.map c).mapM f' = (as.mapM f).map (List.map g) := by
  rw [List.mapM_map]
  exact mapM_of_map fun a _ => same a

/-- Steps in another order succeed as well, with the same results in another order. -/
theorem exists_mapM_of_perm {f : α → Except ε β} {as cs : List α} {bs : List β}
    (h : as.mapM f = .ok bs) (perm : as.Perm cs) : ∃ ds, cs.mapM f = .ok ds ∧ bs.Perm ds := by
  obtain ⟨ds, steps, same⟩ := List.perm_comp_forall₂ perm.symm (mapM_eq_ok.1 h)
  exact ⟨ds, mapM_eq_ok.2 steps, same.symm⟩

/-- Other steps succeed where the steps do, and their results stand in the same relation as those of
single steps. -/
theorem exists_mapM_of_related {f : α → Except ε β} {g : α → Except ε γ} {R : β → γ → Prop}
    {as : List α} {bs : List β} (h : as.mapM f = .ok bs)
    (related : ∀ a ∈ as, ∀ b, f a = .ok b → ∃ c, g a = .ok c ∧ R b c) :
    ∃ cs, as.mapM g = .ok cs ∧ List.Forall₂ R bs cs := by
  have steps := mapM_eq_ok.1 h
  clear h
  induction steps with
  | nil => exact ⟨[], rfl, .nil⟩
  | @cons a b as bs hb steps ih =>
    obtain ⟨c, hc, first⟩ := related a (by simp) b hb
    obtain ⟨cs, hcs, rest⟩ := ih fun d hd => related d (by simp [hd])
    refine ⟨c :: cs, ?_, .cons first rest⟩
    rw [mapM_eq_ok] at hcs ⊢
    exact .cons hc hcs

/-! ## Sorting -/

variable {r : α → α → Prop} [DecidableRel r] {s : β → β → Prop} [DecidableRel s]

/-- A step taken where its element is inserted, or before. The steps in front of it change places
with it, which cannot be noticed as all failures are `e`. -/
theorem mapM_orderedInsert {f : α → Except ε β} {e : ε} {a : α} (as : List α)
    (only : ∀ c ∈ a :: as, ∀ e', f c = .error e' → e' = e)
    (order : ∀ c ∈ as, ∀ b d, f a = .ok b → f c = .ok d → (s b d ↔ r a c)) :
    (as.orderedInsert r a).mapM f = do
      let b ← f a
      let bs ← as.mapM f
      return bs.orderedInsert s b := by
  induction as with
  | nil => simp
  | cons c as ih =>
    have ih := ih (fun d hd => only d (by grind)) (fun d hd => order d (by simp [hd]))
    have order := order c (by simp)
    cases ha : f a with
    | error e₁ =>
      cases hc : f c with
      | error e₂ =>
        have same : e₂ = e₁ := (only c (by simp) e₂ hc).trans (only a (by simp) e₁ ha).symm
        rw [List.orderedInsert_cons]
        split <;> simp [List.mapM_cons, ha, hc, same]
      | ok d =>
        rw [List.orderedInsert_cons]
        split <;> simp [List.mapM_cons, ih, ha, hc]
    | ok b =>
      cases hc : f c with
      | error e₂ =>
        rw [List.orderedInsert_cons]
        split <;> simp [List.mapM_cons, ha, hc]
      | ok d =>
        have order := order b d ha hc
        rw [List.orderedInsert_cons]
        by_cases hr : r a c
        · simp [List.mapM_cons, ha, hc, hr, order.2 hr]
        · have hs : ¬ s b d := fun hs => hr (order.1 hs)
          simp [List.mapM_cons, ih, ha, hc, hr, hs]

/-- Steps may be taken before sorting or after it, if all failures are the same and results stand in
the order of the elements they come from. -/
theorem mapM_insertionSort {f : α → Except ε β} {e : ε} {as : List α}
    (only : ∀ a ∈ as, ∀ e', f a = .error e' → e' = e)
    (order : ∀ a ∈ as, ∀ c ∈ as, ∀ b d, f a = .ok b → f c = .ok d → (s b d ↔ r a c)) :
    (as.insertionSort r).mapM f = do
      let bs ← as.mapM f
      return bs.insertionSort s := by
  induction as with
  | nil => rfl
  | cons a as ih =>
    have ih := ih (fun c hc => only c (by simp [hc]))
      (fun c hc d hd => order c (by simp [hc]) d (by simp [hd]))
    have inserted := mapM_orderedInsert (s := s) (as.insertionSort r)
      (fun c hc => only c (by simpa using hc))
      (fun c hc => order a (by simp) c (List.mem_cons_of_mem a ((List.mem_insertionSort r).1 hc)))
    rw [List.insertionSort_cons, inserted, ih, List.mapM_cons]
    simp

end Attempt

end UsageTree
