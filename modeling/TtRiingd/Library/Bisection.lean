import Mathlib.Algebra.Order.Field.Basic
import Mathlib.Tactic.Ring

/-!
# Bisection with a tolerance

The search halves an interval a fixed number of times and leaves early at a midpoint whose value is
close enough to the target.
-/

namespace Bisection

variable {K : Type} [Field K] [LinearOrder K]

/-- Where the search ends, and whether it left through its tolerance; `last` is the last midpoint tried. -/
def search (f : K → K) (target tolerance : K) : Nat → K → K → K → K × Bool
  | 0, _, _, last => (last, false)
  | n + 1, low, high, _ =>
      let mid := (low + high) / 2
      if |f mid - target| < tolerance then (mid, true)
      else if f mid < target then search f target tolerance n mid high mid
      else search f target tolerance n low mid mid

variable {f : K → K} {target target' tolerance low high last slope : K}

theorem search_at (n : Nat) (close : |f ((low + high) / 2) - target| < tolerance) :
    search f target tolerance (n + 1) low high last = ((low + high) / 2, true) := by
  rw [search, if_pos close]

theorem search_close (n : Nat) (found : (search f target tolerance n low high last).2 = true) :
    |f (search f target tolerance n low high last).1 - target| < tolerance := by
  fun_induction search f target tolerance n low high last with
  | case1 low high last => contradiction
  | case2 n low high last mid close => exact close
  | case3 n low high last mid far less ih => exact ih found
  | case4 n low high last mid far greater ih => exact ih found

variable [IsStrictOrderedRing K]

theorem midpoint_mem (ordered : low ≤ high) : low ≤ (low + high) / 2 ∧ (low + high) / 2 ≤ high := by
  rw [le_div_iff₀ zero_lt_two, div_le_iff₀ zero_lt_two, mul_two, mul_two]
  exact ⟨add_le_add (le_refl low) ordered, add_le_add ordered (le_refl high)⟩

theorem midpoint_halves (low high : K) :
    (low + high) / 2 - low = (high - low) / 2 ∧ high - (low + high) / 2 = (high - low) / 2 :=
  ⟨by ring, by ring⟩

theorem search_mem (f : K → K) (target tolerance : K) (n : Nat) (above : low ≤ last) (below : last ≤ high) :
    low ≤ (search f target tolerance n low high last).1 ∧
      (search f target tolerance n low high last).1 ≤ high := by
  fun_induction search f target tolerance n low high last with
  | case1 low high last => exact ⟨above, below⟩
  | case2 n low high last mid close => exact midpoint_mem (above.trans below)
  | case3 n low high last mid far less ih =>
      obtain ⟨lower, upper⟩ := midpoint_mem (above.trans below)
      obtain ⟨inside, inside'⟩ := ih (le_refl _) upper
      exact ⟨lower.trans inside, inside'⟩
  | case4 n low high last mid far greater ih =>
      obtain ⟨lower, upper⟩ := midpoint_mem (above.trans below)
      obtain ⟨inside, inside'⟩ := ih lower (le_refl _)
      exact ⟨inside, inside'.trans upper⟩

/-- A larger target is never found further left, whatever the function: two searches that part at a
midpoint part in the order of their targets. -/
theorem search_mono (f : K → K) (tolerance : K) (targets : target ≤ target') (n : Nat) (above : low ≤ last)
    (below : last ≤ high) :
    (search f target tolerance n low high last).1 ≤ (search f target' tolerance n low high last).1 := by
  induction n generalizing low high last with
  | zero => exact le_refl _
  | succ n ih =>
      obtain ⟨lower, upper⟩ := midpoint_mem (above.trans below)
      have right (goal : K) := search_mem f goal tolerance n (le_refl _) upper
      have left (goal : K) := search_mem f goal tolerance n lower (le_refl _)
      simp only [search]
      generalize (low + high) / 2 = mid at lower upper right left ⊢
      by_cases close : |f mid - target| < tolerance
      · rw [if_pos close]
        have near := (abs_lt.mp close).2
        by_cases close' : |f mid - target'| < tolerance
        · rw [if_pos close']
        · -- The second value is too small: had it been too large, it would be closer than the first.
          have less : f mid < target' := by
            by_contra large
            apply close'
            rw [abs_of_nonneg (sub_nonneg.mpr (not_lt.mp large))]
            exact (sub_le_sub_left targets (f mid)).trans_lt near
          rw [if_neg close', if_pos less]
          exact (right target').1
      · rw [if_neg close]
        by_cases less : f mid < target
        · have far : tolerance ≤ target - f mid := by
            rwa [not_lt, abs_of_neg (sub_neg.mpr less), neg_sub] at close
          have far' : ¬ |f mid - target'| < tolerance := by
            rw [not_lt, abs_of_neg (sub_neg.mpr (less.trans_le targets)), neg_sub]
            exact far.trans (sub_le_sub_right targets (f mid))
          rw [if_pos less, if_neg far', if_pos (less.trans_le targets)]
          exact ih (le_refl _) upper
        · rw [if_neg less]
          by_cases close' : |f mid - target'| < tolerance
          · rw [if_pos close']
            exact (left target).2
          · rw [if_neg close']
            by_cases less' : f mid < target'
            · rw [if_pos less']
              exact (left target).2.trans (right target').1
            · rw [if_neg less']
              exact ih lower (le_refl _)

/-- Once the values at the ends of the interval bracket the target and can differ by less than the
tolerance, the next midpoint is close enough. -/
theorem search_found (n : Nat) (ordered : low ≤ high) (lower : f low ≤ target) (upper : target ≤ f high)
    (rise : ∀ s t, low ≤ s → s ≤ t → t ≤ high → f t - f s ≤ slope * (t - s))
    (small : slope * (high - low) < tolerance * 2 ^ n) :
    (search f target tolerance (n + 1) low high last).2 = true := by
  induction n generalizing low high last with
  | zero =>
      obtain ⟨left, right⟩ := midpoint_mem ordered
      obtain ⟨half, half'⟩ := midpoint_halves low high
      have rises := (sub_nonneg.mpr (lower.trans upper)).trans (rise low high (le_refl _) ordered (le_refl _))
      have width : slope * ((high - low) / 2) < tolerance := by
        rw [← mul_div_assoc]
        rw [pow_zero, mul_one] at small
        exact (half_le_self rises).trans_lt small
      have first := rise low _ (le_refl _) left right
      have second := rise _ high left right (le_refl _)
      rw [half] at first
      rw [half'] at second
      rw [search, if_pos]
      apply abs_sub_lt_iff.mpr
      constructor
      · exact ((sub_le_sub_left lower _).trans first).trans_lt width
      · exact ((sub_le_sub_right upper _).trans second).trans_lt width
  | succ n ih =>
      obtain ⟨left, right⟩ := midpoint_mem ordered
      obtain ⟨half, half'⟩ := midpoint_halves low high
      have small' : slope * ((high - low) / 2) < tolerance * 2 ^ n := by
        rw [← mul_div_assoc, div_lt_iff₀ zero_lt_two, mul_assoc, ← pow_succ]
        exact small
      rw [search]
      split
      · rfl
      · split
        · rename_i less
          exact ih right less.le upper (fun s t above => rise s t (left.trans above)) (by rwa [half'])
        · rename_i less
          exact ih left lower (not_lt.mp less)
            (fun s t above ordered below => rise s t above ordered (below.trans right)) (by rwa [half])

theorem search_above (n : Nat) (nonneg : 0 ≤ tolerance) (far : tolerance ≤ f ((low + high) / 2) - target) :
    search f target tolerance (n + 1) low high last =
      search f target tolerance n low ((low + high) / 2) ((low + high) / 2) := by
  rw [search, if_neg (not_lt.mpr (far.trans (le_abs_self _))),
    if_neg (not_lt.mpr (sub_nonneg.mp (nonneg.trans far)))]

theorem search_below (n : Nat) (positive : 0 < tolerance) (far : tolerance ≤ target - f ((low + high) / 2)) :
    search f target tolerance (n + 1) low high last =
      search f target tolerance n ((low + high) / 2) high ((low + high) / 2) := by
  rw [search, abs_sub_comm, if_neg (not_lt.mpr (far.trans (le_abs_self _))),
    if_pos (sub_pos.mp (positive.trans_le far))]

/-- Where the values stay above the target up to the first midpoint, the search runs to its low end. -/
theorem search_low (n : Nat) (ordered : low ≤ high) (nonneg : 0 ≤ tolerance)
    (large : ∀ t, low ≤ t → t ≤ (low + high) / 2 → tolerance ≤ f t - target) :
    (search f target tolerance (n + 1) low high last).1 = low + (high - low) / 2 ^ (n + 1) := by
  induction n generalizing high last with
  | zero =>
      rw [search_above 0 nonneg (large _ (midpoint_mem ordered).1 (le_refl _)), search, zero_add, pow_one,
        ← (midpoint_halves low high).1, add_sub_cancel]
  | succ n ih =>
      obtain ⟨left, -⟩ := midpoint_mem ordered
      rw [search_above (n + 1) nonneg (large _ left (le_refl _)),
        ih left fun t above below => large t above (below.trans (midpoint_mem left).2),
        (midpoint_halves low high).1, div_div, ← pow_succ']

/-- Where the values stay below the target from the first midpoint on, it runs to its high end. -/
theorem search_high (n : Nat) (ordered : low ≤ high) (positive : 0 < tolerance)
    (small : ∀ t, (low + high) / 2 ≤ t → t ≤ high → tolerance ≤ target - f t) :
    (search f target tolerance (n + 1) low high last).1 = high - (high - low) / 2 ^ (n + 1) := by
  induction n generalizing low last with
  | zero =>
      rw [search_below 0 positive (small _ (le_refl _) (midpoint_mem ordered).2), search, zero_add, pow_one,
        ← (midpoint_halves low high).2, sub_sub_cancel]
  | succ n ih =>
      obtain ⟨-, right⟩ := midpoint_mem ordered
      rw [search_below (n + 1) positive (small _ (le_refl _) right),
        ih right fun t above below => small t ((midpoint_mem right).1.trans above) below,
        (midpoint_halves low high).2, div_div, ← pow_succ']

end Bisection
