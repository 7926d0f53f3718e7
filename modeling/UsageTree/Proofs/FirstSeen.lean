import Mathlib.Data.List.Induction
import Mathlib.Data.List.Nodup

/-!
# Lists without repetition, in order of first appearance

`List.eraseDups` keeps the first of equal elements. Its laws are stated for a list that grows at its
end, since that is how keys are met.

## Main statements

* `eraseDups_concat` — what one more element changes.
* `eraseDups_map` — images under a function that keeps elements apart.
* `pairwise_eraseDups_flatMap` — elements met in groups are ordered by the first group that has them.
-/

namespace UsageTree.FirstSeen

variable {α β : Type} [BEq α] [LawfulBEq α] [BEq β] [LawfulBEq β]

/-- An element that was met before is not added again. -/
theorem eraseDups_concat (as : List α) (a : α) :
    (as ++ [a]).eraseDups = if a ∈ as then as.eraseDups else as.eraseDups ++ [a] := by
  rw [List.eraseDups_append]
  by_cases h : a ∈ as <;> simp [List.removeAll, h, List.eraseDups_cons]

theorem nodup_eraseDups (as : List α) : as.eraseDups.Nodup := by
  induction as using List.reverseRecOn with
  | nil => simp
  | append_singleton as a ih =>
    rw [eraseDups_concat]
    split
    · exact ih
    · rename_i h
      exact ih.append (List.nodup_singleton a) (by simpa using h)

theorem eraseDups_eq_nil {as : List α} : as.eraseDups = [] ↔ as = [] := by
  simp [List.eq_nil_iff_forall_not_mem]

theorem eraseDups_sublist (as : List α) : as.eraseDups.Sublist as := by
  induction as using List.reverseRecOn with
  | nil => simp
  | append_singleton as a ih =>
    rw [eraseDups_concat]
    split
    · exact ih.trans (List.sublist_append_left as [a])
    · exact ih.append_right [a]

/-- The order of a list decides only the order of what is kept of it. -/
theorem perm_eraseDups {as bs : List α} (h : as.Perm bs) : as.eraseDups.Perm bs.eraseDups := by
  refine (List.perm_ext_iff_of_nodup (nodup_eraseDups as) (nodup_eraseDups bs)).2 fun a => ?_
  rw [List.mem_eraseDups, List.mem_eraseDups, h.mem_iff]

/-- A list that is put together by adding what is not in it yet. -/
theorem foldl_add_eq_eraseDups (as : List α) :
    as.foldl (fun seen a => if a ∈ seen then seen else seen ++ [a]) [] = as.eraseDups := by
  induction as using List.reverseRecOn with
  | nil => rfl
  | append_singleton as a ih => simp [ih, eraseDups_concat]

/-- A function that keeps the elements of a list apart commutes with leaving out repetitions. -/
theorem eraseDups_map (f : α → β) (as : List α)
    (inj : ∀ a ∈ as, ∀ b ∈ as, f a = f b → a = b) :
    (as.map f).eraseDups = as.eraseDups.map f := by
  induction as using List.reverseRecOn with
  | nil => rfl
  | append_singleton as a ih =>
    have known : f a ∈ as.map f ↔ a ∈ as := by
      constructor
      · intro h
        obtain ⟨b, hb, hab⟩ := List.mem_map.1 h
        exact inj b (by simp [hb]) a (by simp) hab ▸ hb
      · exact List.mem_map_of_mem
    have ih := ih fun b hb c hc => inj b (by simp [hb]) c (by simp [hc])
    rw [List.map_append, List.map_singleton, eraseDups_concat, eraseDups_concat, ih]
    by_cases h : a ∈ as <;> simp [h, known]

/-! ## Elements met in groups -/

/-- The place of the first group that has an element. -/
def firstGroup (g : α → List β) (as : List α) (b : β) : Nat :=
  as.findIdx fun a => decide (b ∈ g a)

omit [BEq α] [LawfulBEq α] in
theorem firstGroup_lt_length {g : α → List β} {as : List α} {b : β} :
    firstGroup g as b < as.length ↔ b ∈ as.flatMap g := by
  simp [firstGroup]

omit [BEq α] [LawfulBEq α] in
/-- A group at the end does not change where an element is met first. -/
theorem firstGroup_concat_of_mem {g : α → List β} {as : List α} {b : β} (a : α)
    (h : b ∈ as.flatMap g) : firstGroup g (as ++ [a]) b = firstGroup g as b := by
  have h := firstGroup_lt_length.2 h
  unfold firstGroup at h ⊢
  rw [List.findIdx_append, if_pos h]

omit [BEq α] [LawfulBEq α] in
theorem firstGroup_concat_of_notMem {g : α → List β} {as : List α} {a : α} {b : β}
    (h : b ∉ as.flatMap g) (hb : b ∈ g a) : firstGroup g (as ++ [a]) b = as.length := by
  have h : ¬ firstGroup g as b < as.length := fun lt => h (firstGroup_lt_length.1 lt)
  unfold firstGroup at h ⊢
  rw [List.findIdx_append, if_neg h]
  simp [List.findIdx_cons, hb]

omit [BEq α] [LawfulBEq α] in
/-- Elements stand in the order of the first group that has them, and inside a group in the order
of the group. The induction adds one group at the end: what was met before keeps its place, and all
that is new is met in the last group. -/
theorem pairwise_eraseDups_flatMap (g : α → List β) {R : β → β → Prop}
    (within : ∀ a, (g a).Pairwise R) (as : List α) :
    (as.flatMap g).eraseDups.Pairwise fun b c =>
      firstGroup g as b < firstGroup g as c ∨
        firstGroup g as b = firstGroup g as c ∧ R b c := by
  induction as using List.reverseRecOn with
  | nil => simp
  | append_singleton as a ih =>
    rw [List.flatMap_append, List.flatMap_singleton, List.eraseDups_append]
    have fresh : ∀ c ∈ ((g a).removeAll (as.flatMap g)).eraseDups, c ∉ as.flatMap g ∧ c ∈ g a := by
      intro c hc
      have := List.mem_eraseDups.1 hc
      simp only [List.removeAll, List.mem_filter] at this
      exact ⟨by simpa using this.2, this.1⟩
    refine List.pairwise_append.2 ⟨?_, ?_, ?_⟩
    · refine ih.imp_of_mem fun {b c} hb hc h => ?_
      rw [firstGroup_concat_of_mem a (List.mem_eraseDups.1 hb),
        firstGroup_concat_of_mem a (List.mem_eraseDups.1 hc)]
      exact h
    · have sub : ((g a).removeAll (as.flatMap g)).eraseDups.Sublist (g a) :=
        (eraseDups_sublist _).trans List.filter_sublist
      refine ((within a).sublist sub).imp_of_mem fun {b c} hb hc h => .inr ⟨?_, h⟩
      obtain ⟨hb, hb'⟩ := fresh b hb
      obtain ⟨hc, hc'⟩ := fresh c hc
      rw [firstGroup_concat_of_notMem hb hb', firstGroup_concat_of_notMem hc hc']
    · intro b hb c hc
      have hb := List.mem_eraseDups.1 hb
      obtain ⟨hc, hc'⟩ := fresh c hc
      left
      rw [firstGroup_concat_of_mem a hb, firstGroup_concat_of_notMem hc hc']
      exact firstGroup_lt_length.2 hb

end UsageTree.FirstSeen
