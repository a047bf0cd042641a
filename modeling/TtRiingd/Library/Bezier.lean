import Mathlib.Algebra.Order.Field.Basic
import Mathlib.Tactic.Ring

/-!
# Cubic Bernstein polynomials

One coordinate of a cubic Bézier curve: where it stays on the unit interval, and how fast it changes.
-/

namespace Bernstein

variable {K : Type} [Field K]

def cubic (a b c d t : K) : K :=
  (1 - t) ^ 3 * a + 3 * (1 - t) ^ 2 * t * b + 3 * (1 - t) * t ^ 2 * c + t ^ 3 * d

@[simp] theorem cubic_zero (a b c d : K) : cubic a b c d 0 = a := by
  simp [cubic]

@[simp] theorem cubic_one (a b c d : K) : cubic a b c d 1 = d := by
  simp [cubic]

theorem cubic_const (a t : K) : cubic a a a a t = a := by
  unfold cubic
  ring

/-- A difference of two values weighs the three steps between the coefficients. -/
theorem cubic_sub (a b c d s t : K) :
    cubic a b c d t - cubic a b c d s = (t - s) *
      (((1 - s) ^ 2 + (1 - s) * (1 - t) + (1 - t) ^ 2) * (b - a) +
        (2 * s * (1 - s) + 2 * t * (1 - t) + s * (1 - t) + t * (1 - s)) * (c - b) +
        (s ^ 2 + s * t + t ^ 2) * (d - c)) := by
  unfold cubic
  ring

variable [LinearOrder K] [IsStrictOrderedRing K] {a b c d a' b' c' d' s t low high : K}

theorem cubic_le_cubic (nonneg : 0 ≤ t) (le_one : t ≤ 1) (first : a ≤ a') (second : b ≤ b')
    (third : c ≤ c') (fourth : d ≤ d') : cubic a b c d t ≤ cubic a' b' c' d' t := by
  have rest : 0 ≤ 1 - t := sub_nonneg.mpr le_one
  have three : (0 : K) ≤ 3 := zero_le_three
  have weight₁ := mul_nonneg (mul_nonneg three (pow_nonneg rest 2)) nonneg
  have weight₂ := mul_nonneg (mul_nonneg three rest) (pow_nonneg nonneg 2)
  unfold cubic
  refine add_le_add (add_le_add (add_le_add ?_ ?_) ?_) ?_
  · exact mul_le_mul_of_nonneg_left first (pow_nonneg rest 3)
  · exact mul_le_mul_of_nonneg_left second weight₁
  · exact mul_le_mul_of_nonneg_left third weight₂
  · exact mul_le_mul_of_nonneg_left fourth (pow_nonneg nonneg 3)

theorem le_cubic (nonneg : 0 ≤ t) (le_one : t ≤ 1) (first : low ≤ a) (second : low ≤ b) (third : low ≤ c)
    (fourth : low ≤ d) : low ≤ cubic a b c d t := by
  have bound := cubic_le_cubic nonneg le_one first second third fourth
  rwa [cubic_const] at bound

theorem cubic_le (nonneg : 0 ≤ t) (le_one : t ≤ 1) (first : a ≤ high) (second : b ≤ high) (third : c ≤ high)
    (fourth : d ≤ high) : cubic a b c d t ≤ high := by
  have bound := cubic_le_cubic nonneg le_one first second third fourth
  rwa [cubic_const] at bound

/-- The weights of the steps in `cubic_sub`. -/
theorem weights_nonneg (nonneg : 0 ≤ s) (ordered : s ≤ t) (le_one : t ≤ 1) :
    0 ≤ (1 - s) ^ 2 + (1 - s) * (1 - t) + (1 - t) ^ 2 ∧
      0 ≤ 2 * s * (1 - s) + 2 * t * (1 - t) + s * (1 - t) + t * (1 - s) ∧ 0 ≤ s ^ 2 + s * t + t ^ 2 := by
  have nonneg' : 0 ≤ t := le_trans nonneg ordered
  have rest : 0 ≤ 1 - t := sub_nonneg.mpr le_one
  have rest' : 0 ≤ 1 - s := sub_nonneg.mpr (le_trans ordered le_one)
  have cross₁ := mul_nonneg (mul_nonneg zero_le_two nonneg) rest'
  have cross₂ := mul_nonneg (mul_nonneg zero_le_two nonneg') rest
  refine ⟨?_, ?_, ?_⟩
  · exact add_nonneg (add_nonneg (sq_nonneg _) (mul_nonneg rest' rest)) (sq_nonneg _)
  · exact add_nonneg (add_nonneg (add_nonneg cross₁ cross₂) (mul_nonneg nonneg rest)) (mul_nonneg nonneg' rest')
  · exact add_nonneg (add_nonneg (sq_nonneg _) (mul_nonneg nonneg nonneg')) (sq_nonneg _)

theorem cubic_mono (nonneg : 0 ≤ s) (ordered : s ≤ t) (le_one : t ≤ 1) (first : a ≤ b) (second : b ≤ c)
    (third : c ≤ d) : cubic a b c d s ≤ cubic a b c d t := by
  obtain ⟨weight₁, weight₂, weight₃⟩ := weights_nonneg nonneg ordered le_one
  rw [← sub_nonneg, cubic_sub]
  apply mul_nonneg (sub_nonneg.mpr ordered)
  refine add_nonneg (add_nonneg ?_ ?_) ?_
  · exact mul_nonneg weight₁ (sub_nonneg.mpr first)
  · exact mul_nonneg weight₂ (sub_nonneg.mpr second)
  · exact mul_nonneg weight₃ (sub_nonneg.mpr third)

/-- The slope is at most three times the distance of the outer coefficients. -/
theorem cubic_sub_le (nonneg : 0 ≤ s) (ordered : s ≤ t) (le_one : t ≤ 1) (first : a ≤ b) (second : b ≤ c)
    (third : c ≤ d) : cubic a b c d t - cubic a b c d s ≤ 3 * (d - a) * (t - s) := by
  obtain ⟨weight₁, weight₂, weight₃⟩ := weights_nonneg nonneg ordered le_one
  have bound₁ : b - a ≤ d - a := sub_le_sub_right (le_trans second third) a
  have bound₂ : c - b ≤ d - a := sub_le_sub third first
  have bound₃ : d - c ≤ d - a := sub_le_sub_left (le_trans first second) d
  rw [cubic_sub]
  calc
    _ ≤ (t - s) *
        (((1 - s) ^ 2 + (1 - s) * (1 - t) + (1 - t) ^ 2) * (d - a) +
          (2 * s * (1 - s) + 2 * t * (1 - t) + s * (1 - t) + t * (1 - s)) * (d - a) +
          (s ^ 2 + s * t + t ^ 2) * (d - a)) := by
      apply mul_le_mul_of_nonneg_left _ (sub_nonneg.mpr ordered)
      refine add_le_add (add_le_add ?_ ?_) ?_
      · exact mul_le_mul_of_nonneg_left bound₁ weight₁
      · exact mul_le_mul_of_nonneg_left bound₂ weight₂
      · exact mul_le_mul_of_nonneg_left bound₃ weight₃
    _ = 3 * (d - a) * (t - s) := by ring

end Bernstein
