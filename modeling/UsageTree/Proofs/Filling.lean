import UsageTree.Proofs.FirstSeen
import UsageTree.Table

/-!
# Tables filled step by step

A list is worked off from left to right, and every item changes the value under its own key. The
table that comes out is known in full: which keys it has, in which order, and what is under each.

## Main definitions

* `Table.fill` — the table of a list of items.

## Main statements

* `Table.keys_fill` — keys in order of first appearance.
* `Table.find?_fill` — a value is made of the items of its key alone.
* `Table.entries_fill`, `Table.entries_collect` — the pairs of the table.
-/

namespace UsageTree.Table

variable {κ α β : Type} [DecidableEq κ]

/-- The table of the items `xs`: `step` adds an item to the value under its key, and `start` is
there before the first. -/
def fill (key : β → κ) (start : α) (step : α → β → α) (xs : List β) : Table κ α :=
  xs.foldl (fun t x => t.alter (key x) fun o => step (o.getD start) x) empty

variable (key : β → κ) (start : α) (step : α → β → α)

@[simp] theorem fill_nil : fill key start step [] = empty := rfl

theorem fill_append (xs ys : List β) :
    fill key start step (xs ++ ys) =
      ys.foldl (fun t x => t.alter (key x) fun o => step (o.getD start) x)
        (fill key start step xs) := by
  simp [fill]

theorem fill_concat (xs : List β) (x : β) :
    fill key start step (xs ++ [x]) =
      (fill key start step xs).alter (key x) fun o => step (o.getD start) x :=
  fill_append key start step xs [x]

/-- Keys stand in the order in which the items meet them. -/
theorem keys_fill [BEq κ] [LawfulBEq κ] (xs : List β) :
    (fill key start step xs).keys = (xs.map key).eraseDups := by
  induction xs using List.reverseRecOn with
  | nil => rfl
  | append_singleton xs x ih =>
    rw [fill_concat, keys_alter, ih, List.map_append, List.map_singleton,
      FirstSeen.eraseDups_concat]
    simp

theorem nodup_keys_fill (xs : List β) : (fill key start step xs).keys.Nodup := by
  classical
  rw [keys_fill]
  exact FirstSeen.nodup_eraseDups _

/-- Under a key stands what its items make of `start`; the items of other keys play no part. -/
theorem find?_fill (xs : List β) (k : κ) :
    (fill key start step xs).find? k =
      if (xs.filter fun x => key x = k) = [] then none
      else some ((xs.filter fun x => key x = k).foldl step start) := by
  induction xs using List.reverseRecOn with
  | nil => simp
  | append_singleton xs x ih =>
    rw [fill_concat, find?_alter]
    by_cases hk : k = key x
    · subst hk
      have before : ((fill key start step xs).find? (key x)).getD start =
          (xs.filter fun y => key y = key x).foldl step start := by
        rw [ih]
        split
        · rename_i none_before
          rw [none_before]
          rfl
        · rfl
      simp [before]
    · rw [if_neg hk, ih]
      simp [Ne.symm hk]

/-! ## Pairs -/

theorem findEntry_of_mem {es : List (κ × α)} (h : (es.map Prod.fst).Nodup) {k : κ} {v : α}
    (hv : (k, v) ∈ es) : findEntry k es = some v := by
  induction es with
  | nil => simp at hv
  | cons e es ih =>
    obtain ⟨fresh, h⟩ := List.nodup_cons.1 h
    rcases List.mem_cons.1 hv with rfl | hv
    · simp [findEntry]
    · have apart : e.1 ≠ k := fun he => fresh (he ▸ List.mem_map_of_mem hv)
      simp [findEntry, apart, ih h hv]

/-- Where no key is repeated, a value is found under a key exactly if the two are a pair. -/
theorem findEntry_eq_some {es : List (κ × α)} (h : (es.map Prod.fst).Nodup) {k : κ} {v : α} :
    findEntry k es = some v ↔ (k, v) ∈ es := by
  refine ⟨fun found => ?_, findEntry_of_mem h⟩
  have known := (find?_isSome ⟨es⟩ k).1 (Option.isSome_of_eq_some found)
  obtain ⟨⟨k, w⟩, hw, rfl⟩ := List.mem_map.1 known
  cases (findEntry_of_mem h hw).symm.trans found
  exact hw

/-- A table without repeated keys is the list of its keys, each with what is found under it. -/
theorem entries_eq_map_keys {t : Table κ α} (h : t.keys.Nodup) (d : α) :
    t.entries = t.keys.map fun k => (k, (t.find? k).getD d) := by
  conv_lhs => rw [← List.map_id t.entries]
  rw [keys, List.map_map]
  apply List.map_congr_left
  intro e he
  have found : t.find? e.1 = some e.2 := findEntry_of_mem h he
  simp [found]

theorem entries_fill [BEq κ] [LawfulBEq κ] (xs : List β) :
    (fill key start step xs).entries = (xs.map key).eraseDups.map fun k =>
      (k, (xs.filter fun x => key x = k).foldl step start) := by
  rw [entries_eq_map_keys (nodup_keys_fill key start step xs) start, keys_fill]
  apply List.map_congr_left
  intro k hk
  obtain ⟨x, hx, rfl⟩ := List.mem_map.1 (List.mem_eraseDups.1 hk)
  have met : (xs.filter fun y => key y = key x) ≠ [] :=
    List.ne_nil_of_mem (List.mem_filter.2 ⟨hx, by simp⟩)
  rw [find?_fill, if_neg met, Option.getD_some]

/-- Things collected under their keys. -/
theorem entries_collect [BEq κ] [LawfulBEq κ] (pairs : List (κ × α)) :
    (collect pairs).entries.map (fun e => (e.1, e.2.toList)) =
      (pairs.map Prod.fst).eraseDups.map fun k =>
        (k, (pairs.filter fun p => p.1 = k).map Prod.snd) := by
  have filled : collect pairs = fill Prod.fst #[] (fun as p => as.push p.2) pairs := rfl
  rw [filled, entries_fill, List.map_map]
  simp [Function.comp_def]

end UsageTree.Table
