import Mathlib.Tactic.Positivity
import UsageTree.Proofs.ShownSizes
import UsageTree.Proofs.Siblings

/-!
# Larger sizes show larger figures

The figure of a size is what its text means, in bytes. Scaling and rounding keep the order of sizes,
and where the unit changes the smaller size shows at most 1024 of its unit and the larger one at
least 1 of the next. A size is too large to be shown only if all larger ones are; but a negative one
with too many digits is not shown either, whatever is larger.

## Main definitions

* `ByteSize.Climbs` — the way of a number through the units.
* `ByteSize.Means` — what a text means, in bytes.
* `ByteSize.ShownAtMost` — two sizes whose figures are in order.
* `Entry.Descending` — siblings with smaller and smaller figures.

## Main statements

* `ByteSize.Climbs.tenths_le` — of two numbers the larger one ends with the larger figure.
* `ByteSize.figures_inOrder` — figures are in order, for sizes and for siblings.
-/

namespace UsageTree

namespace Binary64

variable {x y : Binary64} {n m k : Nat}

/-! ## Tenths -/

/-- The number of tenths that is shown. -/
def tenths : Binary64 → Nat
  | finite _ m p => halfEven ((m <<< p) * 10) one
  | _ => 0

theorem Reaches.oneDecimal (h : Reaches x n) : x.oneDecimal = tenthsText x.tenths := by
  obtain ⟨m, p, rfl, -⟩ := h
  simp [Binary64.oneDecimal, tenths]

theorem Reaches.le_tenths (h : Reaches x n) : n * 10 ≤ x.tenths := by
  obtain ⟨m, p, rfl, -, large⟩ := h
  apply le_halfEven one_pos
  rw [Nat.mul_right_comm]
  exact Nat.mul_le_mul_right 10 large

theorem Reaches.tenths_le_tenths (hx : Reaches x n) (hy : Reaches y m) (le : x ≤ y) :
    x.tenths ≤ y.tenths := by
  obtain ⟨m, p, rfl, -⟩ := hx
  obtain ⟨m', p', rfl, -⟩ := hy
  refine halfEven_le_halfEven one_pos one_pos (Nat.mul_le_mul_right one ?_)
  exact Nat.mul_le_mul_right 10 (finite_le_finite.1 le)

/-! ## Comparisons -/

theorem Reaches.atLeast_iff (h : Reaches x n) : x.atLeast k ↔ Reaches x k := by
  obtain ⟨m, p, rfl, canonical, -⟩ := h
  simp [Binary64.atLeast, Reaches, canonical]

theorem Reaches.tenths_le (h : Reaches x n) (below : ¬ x.atLeast k) : x.tenths ≤ k * 10 := by
  obtain ⟨m, p, rfl, -⟩ := h
  have less : m <<< p < k * one := by simpa [Binary64.atLeast] using below
  apply halfEven_le one_pos
  rw [Nat.mul_right_comm]
  exact Nat.mul_le_mul_right 10 less.le

theorem Reaches.of_le (hx : Reaches x k) (hy : Reaches y n) (le : x ≤ y) : Reaches y k := by
  obtain ⟨m, p, rfl, -, large⟩ := hx
  obtain ⟨m', p', rfl, canonical, -⟩ := hy
  exact ⟨m', p', rfl, canonical, large.trans (finite_le_finite.1 le)⟩

theorem Reaches.per_le_per (hx : Reaches x n) (hy : Reaches y m) (hk : 0 < k) (le : x ≤ y) :
    x.per k ≤ y.per k := by
  obtain ⟨m, p, rfl, -⟩ := hx
  obtain ⟨m', p', rfl, -⟩ := hy
  exact nearest_le_nearest hk hk (Nat.mul_le_mul_right k (finite_le_finite.1 le))

end Binary64

namespace ByteSize

open Binary64

variable {x y a b : Binary64} {j k n : Nat} {s t : String} {v w : Int}

/-! ## Climbing in order -/

/-- From `x`, with `n` higher units, the number `y` is reached `k` units higher. -/
inductive Climbs : Binary64 → Nat → Nat → Binary64 → Prop
  | last (x : Binary64) : Climbs x 0 0 x
  | stop {x : Binary64} {n : Nat} (below : ¬ x.atLeast 1024) : Climbs x (n + 1) 0 x
  | up {x y : Binary64} {n k : Nat} (reached : x.atLeast 1024) (rest : Climbs (x.per 1024) n k y) :
    Climbs x (n + 1) (k + 1) y

theorem exists_climbs (x : Binary64) (unit : String) (higher : List String) :
    ∃ k y name, Climbs x higher.length k y ∧ (unit :: higher)[k]? = some name ∧
      climb x unit higher = (y, name) := by
  induction higher generalizing x unit with
  | nil => exact ⟨0, x, unit, .last x, rfl, rfl⟩
  | cons next rest ih =>
    rw [climb]
    split
    · rename_i reached
      obtain ⟨k, y, name, climbs, known, climbed⟩ := ih (x.per 1024) next
      exact ⟨k + 1, y, name, .up reached climbs, known, climbed⟩
    · rename_i below
      exact ⟨0, x, unit, .stop below, rfl, rfl⟩

/-- A number of 1024 or more is divided to one of 1 or more. -/
theorem reaches_per (h : Reaches x n) (reached : x.atLeast 1024) : Reaches (x.per 1024) 1 :=
  Reaches.per (h.atLeast_iff.1 reached) (by decide)

theorem Climbs.reaches (h : Climbs x n k y) (hx : Reaches x 1) : Reaches y 1 := by
  induction h with
  | last x => exact hx
  | stop below => exact hx
  | up reached rest ih => exact ih (reaches_per hx reached)

/-- Of two numbers the larger one ends with the larger figure. The induction follows the smaller
number. Where it stops and the other goes on, it shows at most 1024 and the other at least 1 of the
next unit. -/
theorem Climbs.tenths_le (h : Climbs x n j a) (h' : Climbs y n k b) (hx : Reaches x 1)
    (hy : Reaches y 1) (le : x ≤ y) : a.tenths * 1024 ^ j ≤ b.tenths * 1024 ^ k := by
  induction h generalizing y k with
  | last x =>
    cases h' with
    | last y => exact Nat.mul_le_mul_right _ (hx.tenths_le_tenths hy le)
  | stop below =>
    cases h' with
    | stop below' => exact Nat.mul_le_mul_right _ (hx.tenths_le_tenths hy le)
    | @up _ _ _ k reached rest =>
      have least : 10 ≤ b.tenths := (rest.reaches (reaches_per hy reached)).le_tenths
      calc _ ≤ 1024 * 10 * 1024 ^ 0 := Nat.mul_le_mul_right _ (hx.tenths_le below)
        _ ≤ 10 * 1024 ^ (k + 1) := by
          have := Nat.pow_pos (n := k) (by decide : 0 < 1024)
          rw [Nat.pow_succ]
          omega
        _ ≤ b.tenths * 1024 ^ (k + 1) := Nat.mul_le_mul_right _ least
  | up reached rest ih =>
    have reached' := hy.atLeast_iff.2 ((hx.atLeast_iff.1 reached).of_le hy le)
    cases h' with
    | stop below => exact absurd reached' below
    | up _ rest' =>
      have step := ih rest' (reaches_per hx reached) (reaches_per hy reached')
        (hx.per_le_per hy (by decide) le)
      rw [Nat.pow_succ, Nat.pow_succ, ← Nat.mul_assoc, ← Nat.mul_assoc]
      exact Nat.mul_le_mul_right 1024 step

/-! ## Figures -/

/-- The text can be read, and means so many bytes by every reading. -/
def Means (s : String) (bytes : ℚ) : Prop :=
  (∃ number k, Shows s number k) ∧ ∀ number k, Shows s number k → number * 1024 ^ k = bytes

theorem Shows.means {number : ℚ} (h : Shows s number k) : Means s (number * 1024 ^ k) := by
  refine ⟨⟨number, k, h⟩, fun number' k' h' => ?_⟩
  obtain ⟨rfl, rfl⟩ := h.unique h'
  rfl

theorem means_bytes (size : Int) : Means (toString size ++ " B") size := by
  simpa using (shows_bytes size).means

theorem reaches_kilobytes (large : 1024 ≤ v) (inside : v < bound) :
    Reaches (quotient v 1024) 1 := by
  have finite := (lt_bound_iff_of_le large).1 inside
  lift v to Nat using by omega
  rw [← Nat.cast_ofNat, quotient_natCast] at finite ⊢
  refine reaches_nearest (by decide) (by decide) finite ?_
  rw [Nat.one_mul, Nat.mul_comm]
  exact Nat.mul_le_mul_right one (by exact_mod_cast large)

theorem kilobytes_le_kilobytes (large : 1024 ≤ v) (le : v ≤ w) :
    quotient v 1024 ≤ quotient w 1024 := by
  lift v to Nat using by omega
  lift w to Nat using by omega
  rw [← Nat.cast_ofNat, quotient_natCast, quotient_natCast]
  refine nearest_le_nearest (by decide) (by decide) (Nat.mul_le_mul_right _ ?_)
  exact Nat.mul_le_mul_right one (by exact_mod_cast le)

/-- The figure of a scaled size is where climbing ends. -/
theorem exists_means_scaled (h : Reaches x 1) : ∃ k y, Climbs x higherUnits.length k y ∧
    Reaches y 1 ∧ Means (scaledText x) (y.tenths / 10 * 1024 ^ (k + 1)) := by
  obtain ⟨k, y, name, climbs, known, climbed⟩ := exists_climbs x "KB" higherUnits
  have reaches := climbs.reaches h
  refine ⟨k, y, climbs, reaches, ?_⟩
  rw [scaledText, climbed, reaches.oneDecimal]
  exact (shows_tenthsText y.tenths known).means

/-- What is shown for `v` is not more than what is shown for `w`; and if nothing is shown for `v`,
though it has not too many digits, then nothing is shown for `w`. -/
structure ShownAtMost (v w : Int) : Prop where
  figures : ∀ s t, text v = .ok s → text w = .ok t → ∃ p q, Means s p ∧ Means t q ∧ p ≤ q
  fault : -Text.digitBound < v → ∀ f, text v = .error f → text w = .error f

theorem means_le_means (le : v ≤ w) (hv : text v = .ok s) (hw : text w = .ok t) :
    ∃ p q, Means s p ∧ Means t q ∧ p ≤ q := by
  rcases text_eq_ok.1 hv with ⟨small, -, rfl⟩ | ⟨large, inside, rfl⟩ <;>
    rcases text_eq_ok.1 hw with ⟨small', -, rfl⟩ | ⟨large', inside', rfl⟩
  · exact ⟨v, w, means_bytes v, means_bytes w, by exact_mod_cast le⟩
  · obtain ⟨k, y, -, reaches, means⟩ := exists_means_scaled (reaches_kilobytes large' inside')
    refine ⟨v, _, means_bytes v, means, ?_⟩
    have least : (10 : ℚ) ≤ y.tenths := by exact_mod_cast reaches.le_tenths
    calc (v : ℚ) ≤ 10 / 10 * 1024 ^ 1 := by norm_num; exact_mod_cast small.le
      _ ≤ y.tenths / 10 * 1024 ^ (k + 1) := by
        gcongr
        · norm_num
        · exact Nat.le_add_left 1 k
  · omega
  · have kilobytes := reaches_kilobytes large inside
    have kilobytes' := reaches_kilobytes large' inside'
    obtain ⟨j, a, climbs, -, means⟩ := exists_means_scaled kilobytes
    obtain ⟨k, b, climbs', -, means'⟩ := exists_means_scaled kilobytes'
    refine ⟨_, _, means, means', ?_⟩
    have tenths := climbs.tenths_le climbs' kilobytes kilobytes' (kilobytes_le_kilobytes large le)
    have tenths : (a.tenths : ℚ) * 1024 ^ j ≤ b.tenths * 1024 ^ k := by exact_mod_cast tenths
    rw [pow_succ, pow_succ]
    linarith

theorem shownAtMost_of_le (le : v ≤ w) : ShownAtMost v w where
  figures _ _ hv hw := means_le_means le hv hw
  fault short f hf := by
    rcases text_eq_error.1 hf with ⟨-, long⟩ | ⟨rfl, large⟩
    · exact absurd short (Int.not_lt.2 long)
    · exact text_eq_error.2 (.inr ⟨rfl, large.trans le⟩)

end ByteSize

/-! ## Siblings -/

/-- Nothing shown for an entry is less than what is shown for one below it. -/
def Entry.Descending (es : List Entry) : Prop :=
  es.Pairwise fun e f => ByteSize.ShownAtMost f.size e.size

theorem Entry.InOrder.descending {us : List Usage} {es : List Entry} (h : InOrder us es) :
    Descending es := by
  refine h.order.imp fun {e f} order => ByteSize.shownAtMost_of_le ?_
  rcases order with less | ⟨same, -⟩
  · exact less.le
  · exact same.ge

/-- Larger sizes show larger figures, so that siblings, who are sorted by size, show figures that
never rise. -/
theorem ByteSize.figures_inOrder :
    (∀ v w, v ≤ w → ShownAtMost v w) ∧
      ∀ records nodes, Node.report records = .ok nodes → ∀ n ∈ nodes,
        Entry.Descending n.entries ∧ ∀ e ∈ Entry.preorder n.entries, Entry.Descending e.children := by
  refine ⟨fun v w => shownAtMost_of_le, fun records nodes h n hn => ?_⟩
  obtain ⟨us, -, -, made⟩ := Node.exists_usages h hn
  have grown := Entry.grown_of_under made
  refine ⟨grown.inOrder.descending, fun e he => ?_⟩
  obtain ⟨p, -, below⟩ := grown.exists_place he
  exact below.inOrder.descending

/-- The last size below a megabyte and the first megabyte show equal figures in different units. -/
theorem ByteSize.figures_inOrder_aroundMegabyte :
    text 1048575 = .ok "1024.0 KB" ∧ text 1048576 = .ok "1.0 MB" ∧ ShownAtMost 1048575 1048576 ∧
      ∃ n, Node.report Node.tied = .ok [n] ∧ Entry.Descending n.entries ∧
        ∀ e ∈ Entry.preorder n.entries, Entry.Descending e.children := by
  have made : (Node.report Node.tied).toOption.map List.length = some 1 := by decide +kernel
  obtain ⟨nodes, h, single⟩ := Attempt.exists_of_map_toOption made
  obtain ⟨n, rfl⟩ := List.length_eq_one_iff.1 single
  exact ⟨by decide +kernel, by decide +kernel, figures_inOrder.1 _ _ (by decide), n, h,
    figures_inOrder.2 _ _ h n (List.mem_singleton_self n)⟩

/-- A negative size of too many digits is not shown, though a larger one is. -/
theorem ByteSize.unshown_below_zero :
    text (-Text.digitBound) = .error .digitLimit ∧ text 0 = .ok "0 B" ∧
      ¬ ∀ v w f, v ≤ w → text v = .error f → ∃ g, text w = .error g := by
  have unshown : text (-Text.digitBound) = .error .digitLimit :=
    text_eq_error.2 (.inl ⟨rfl, le_rfl⟩)
  have shown : text 0 = .ok "0 B" := by decide +kernel
  refine ⟨unshown, shown, fun raised => ?_⟩
  have order : -(Text.digitBound : Int) ≤ 0 := by omega
  obtain ⟨g, fault⟩ := raised _ _ _ order unshown
  cases shown.symm.trans fault

end UsageTree
