import Mathlib.Algebra.Order.Floor.Ring
import Mathlib.Algebra.Order.Group.MinMax
import Mathlib.Order.Interval.Set.Basic
import Mathlib.Tactic.Ring

/-!
# Values around a wheel

A value on one turn, from zero to one, that is the same at both ends goes around without a jump: the rate at
which it changes within the turn bounds it on the whole line.
-/

namespace Wheel

variable {α : Type} [Field α] [LinearOrder α]

/-- The value moves by at most `rate` for each turn, and a turn takes it back to where it was. -/
structure Closed (rate : α) (value : α → α) : Prop where
  steady : ∀ x ∈ Set.Icc (0 : α) 1, ∀ y ∈ Set.Icc (0 : α) 1, |value x - value y| ≤ rate * |x - y|
  same : value 0 = value 1

theorem Closed.complement {rate : α} {value : α → α} (closed : Closed rate value) (whole : α) :
    Closed rate fun x => whole - value x := by
  constructor
  · intro x inside y inside'
    rw [sub_sub_sub_cancel_left]
    exact (abs_sub_comm _ _).trans_le (closed.steady x inside y inside')
  · rw [closed.same]

section Turns
variable [IsStrictOrderedRing α] [FloorRing α] {rate : α} {value : α → α}

theorem Closed.rate_nonneg (closed : Closed rate value) : 0 ≤ rate := by
  have whole := closed.steady 0 ⟨le_rfl, zero_le_one⟩ 1 ⟨zero_le_one, le_rfl⟩
  rw [zero_sub, abs_neg, abs_one, mul_one] at whole
  exact (abs_nonneg _).trans whole

theorem fract_mem (x : α) : Int.fract x ∈ Set.Icc (0 : α) 1 := ⟨Int.fract_nonneg x, (Int.fract_lt_one x).le⟩

theorem Closed.forward (closed : Closed rate value) {x y : α} (ordered : x ≤ y) :
    |value (Int.fract x) - value (Int.fract y)| ≤ rate * (y - x) := by
  rcases (Int.floor_mono ordered).eq_or_lt with same | apart
  · have within := closed.steady _ (fract_mem x) _ (fract_mem y)
    have distance : Int.fract x - Int.fract y = x - y := by
      rw [Int.fract, Int.fract, same, sub_sub_sub_cancel_right]
    rwa [distance, abs_sub_comm x y, abs_of_nonneg (sub_nonneg.mpr ordered)] at within
  · -- On to the end of the turn, and on from the start of the last one.
    have leaving := closed.steady _ (fract_mem x) 1 ⟨zero_le_one, le_rfl⟩
    have arriving := closed.steady 0 ⟨le_rfl, zero_le_one⟩ _ (fract_mem y)
    rw [abs_sub_comm (Int.fract x), abs_of_nonneg (sub_nonneg.mpr (fract_mem x).2)] at leaving
    rw [zero_sub, abs_neg, abs_of_nonneg (fract_mem y).1] at arriving
    have turns : (⌊x⌋ : α) + 1 ≤ ⌊y⌋ := by exact_mod_cast apart
    have distance : (1 - Int.fract x) + Int.fract y ≤ y - x := by
      have between : (1 - Int.fract x) + Int.fract y = y - x - (⌊y⌋ - (⌊x⌋ + 1)) := by
        rw [Int.fract, Int.fract]
        ring
      rw [between]
      exact sub_le_self _ (sub_nonneg.mpr turns)
    calc |value (Int.fract x) - value (Int.fract y)|
        = |(value (Int.fract x) - value 1) + (value 0 - value (Int.fract y))| := by rw [closed.same, sub_add_sub_cancel]
      _ ≤ |value (Int.fract x) - value 1| + |value 0 - value (Int.fract y)| := abs_add_le _ _
      _ ≤ rate * (1 - Int.fract x) + rate * Int.fract y := add_le_add leaving arriving
      _ = rate * ((1 - Int.fract x) + Int.fract y) := (mul_add _ _ _).symm
      _ ≤ rate * (y - x) := mul_le_mul_of_nonneg_left distance closed.rate_nonneg

theorem Closed.around (closed : Closed rate value) (x y : α) :
    |value (Int.fract x) - value (Int.fract y)| ≤ rate * |x - y| := by
  rcases le_total x y with ordered | ordered
  · rw [abs_sub_comm x y, abs_of_nonneg (sub_nonneg.mpr ordered)]
    exact closed.forward ordered
  · rw [abs_sub_comm (value _), abs_of_nonneg (sub_nonneg.mpr ordered)]
    exact closed.forward ordered

end Turns

/-! ## Ramps -/

/-- Zero below zero, one above one, and the number itself between. -/
def ramp (x : α) : α := max 0 (min 1 x)

theorem ramp_of_nonpos {x : α} (low : x ≤ 0) : ramp x = 0 := max_eq_left (min_le_of_right_le low)

theorem ramp_of_mem {x : α} (nonneg : 0 ≤ x) (small : x ≤ 1) : ramp x = x := by
  rw [ramp, min_eq_right small, max_eq_right nonneg]

variable [IsStrictOrderedRing α]

theorem ramp_steady (x y : α) : |ramp x - ramp y| ≤ |x - y| := by
  unfold ramp
  calc |max 0 (min 1 x) - max 0 (min 1 y)|
      = |max (min 1 x) 0 - max (min 1 y) 0| := by rw [max_comm 0, max_comm 0]
    _ ≤ |min 1 x - min 1 y| := abs_max_sub_max_le_abs _ _ _
    _ = |min x 1 - min y 1| := by rw [min_comm 1, min_comm 1]
    _ ≤ max |x - y| |(1 : α) - 1| := abs_min_sub_min_le_max _ _ _ _
    _ = |x - y| := by rw [sub_self, abs_zero, max_eq_left (abs_nonneg _)]

theorem ramp_mem (x : α) : ramp x ∈ Set.Icc (0 : α) 1 :=
  ⟨le_max_left 0 _, max_le zero_le_one (min_le_left 1 x)⟩

theorem ramp_of_one_le {x : α} (high : 1 ≤ x) : ramp x = 1 := by
  rw [ramp, min_eq_left high, max_eq_right zero_le_one]

end Wheel
