import Mathlib.Data.Finset.Max

/-!
# Lists of points on a line

What lies around a point of a linear order when finitely many points are marked on it.
-/

namespace List

variable {α : Type} [LinearOrder α]

theorem exists_neighbours {points : List α} {point low high : α} (lower : low ∈ points)
    (upper : high ∈ points) (above : low ≤ point) (below : point < high) :
    ∃ left ∈ points, ∃ right ∈ points, left ≤ point ∧ point < right ∧
      ∀ other ∈ points, other ≤ left ∨ right ≤ other := by
  obtain ⟨left, leftMem, greatest⟩ := (points.toFinset.filter (· ≤ point)).exists_max_image id
    ⟨low, by simp [lower, above]⟩
  obtain ⟨right, rightMem, least⟩ := (points.toFinset.filter (point < ·)).exists_min_image id
    ⟨high, by simp [upper, below]⟩
  simp only [Finset.mem_filter, List.mem_toFinset, id_eq] at leftMem greatest rightMem least
  refine ⟨left, leftMem.1, right, rightMem.1, leftMem.2, rightMem.2, fun other member => ?_⟩
  rcases le_or_gt other point with before | after
  · exact .inl (greatest other ⟨member, before⟩)
  · exact .inr (least other ⟨member, after⟩)

end List
