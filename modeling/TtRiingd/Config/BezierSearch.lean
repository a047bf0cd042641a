import Mathlib.Data.Fintype.Perm
import Mathlib.Data.List.FinRange
import TtRiingd.Config.ExactCurve
import TtRiingd.Library.Bezier
import TtRiingd.Library.Bisection

/-!
# The search of a Bezier curve

`getSpeedForTemp` is a bisection of the curve's `x` on the unit interval, on the control points as they
are listed. When they are listed by `x` the bisection ends close to the temperature. Only the two
boundary tests read the sorted copy, so a list in another order is searched along another curve.
-/

namespace TtRiingd
open FloatOps

section Coordinates
variable (pts : ControlPoints ℚ)

theorem computeBezierAtT_x (t : ℚ) :
    (computeBezierAtT pts t).x = Bernstein.cubic pts.p0.x pts.p1.x pts.p2.x pts.p3.x t := by
  change (1 - t) * (1 - t) * (1 - t) * pts.p0.x + 3 * ((1 - t) * (1 - t)) * t * pts.p1.x +
    3 * (1 - t) * (t * t) * pts.p2.x + t * t * t * pts.p3.x = _
  unfold Bernstein.cubic
  ring

theorem computeBezierAtT_y (t : ℚ) :
    (computeBezierAtT pts t).y = Bernstein.cubic pts.p0.y pts.p1.y pts.p2.y pts.p3.y t := by
  change (1 - t) * (1 - t) * (1 - t) * pts.p0.y + 3 * ((1 - t) * (1 - t)) * t * pts.p1.y +
    3 * (1 - t) * (t * t) * pts.p2.y + t * t * t * pts.p3.y = _
  unfold Bernstein.cubic
  ring

/-- The parameter at which the loop of `getSpeedForTemp` ends, and whether it left through its test. -/
def ControlPoints.search (temp : ℚ) : ℚ × Bool :=
  Bisection.search (fun t => (computeBezierAtT pts t).x) temp EPSILON MAX_ITERATIONS 0 1 0

end Coordinates

theorem abs_exact (x : ℚ) : FloatOps.abs x = |x| := by
  simp only [FloatOps.abs, lt, ofRat, id, decide_eq_true_eq]
  split
  · rename_i negative
    rw [abs_of_neg negative]
    exact zero_sub x
  · rename_i nonneg
    rw [abs_of_nonneg (not_lt.mp nonneg)]

theorem bisect_succ (pts : ControlPoints ℚ) (temp : ℚ) (remaining : Nat) (tLow tHigh last : ℚ) :
    bisect pts temp (remaining + 1) tLow tHigh last =
      (let tMid := (tLow + tHigh) / 2
      if |(computeBezierAtT pts tMid).x - temp| < EPSILON then (computeBezierAtT pts tMid).y
      else if (computeBezierAtT pts tMid).x < temp then bisect pts temp remaining tMid tHigh tMid
      else bisect pts temp remaining tLow tMid tMid) := by
  have half : (tLow + tHigh) / 2 = (tLow + tHigh) * (1 / 2) := by ring
  rw [half]
  simp only [bisect, abs_exact, lt, decide_eq_true_eq]
  rfl

theorem bisect_eq_search (pts : ControlPoints ℚ) (temp : ℚ) (remaining : Nat) (tLow tHigh tMid : ℚ) :
    bisect pts temp remaining tLow tHigh tMid =
      (computeBezierAtT pts (Bisection.search (fun t => (computeBezierAtT pts t).x) temp EPSILON remaining
        tLow tHigh tMid).1).y := by
  induction remaining generalizing tLow tHigh tMid with
  | zero => rfl
  | succ remaining ih =>
      rw [bisect_succ, Bisection.search]
      simp only [ih]
      split
      · rfl
      · split <;> rfl

theorem getSpeedForTemp_eq (pts : ControlPoints ℚ) (temp : ℚ) :
    getSpeedForTemp pts temp = (computeBezierAtT pts (pts.search temp).1).y :=
  bisect_eq_search pts temp MAX_ITERATIONS 0 1 0

theorem ControlPoints.search_mem (pts : ControlPoints ℚ) (temp : ℚ) :
    0 ≤ (pts.search temp).1 ∧ (pts.search temp).1 ≤ 1 :=
  Bisection.search_mem _ temp EPSILON MAX_ITERATIONS (le_refl 0) zero_le_one

theorem ControlPoints.search_close {pts : ControlPoints ℚ} {temp : ℚ} (found : (pts.search temp).2 = true) :
    |(computeBezierAtT pts (pts.search temp).1).x - temp| < EPSILON := by
  unfold ControlPoints.search at found ⊢
  have close := Bisection.search_close MAX_ITERATIONS found
  exact close

/-! ## Where the loop ends -/

section Ends
variable {pts : ControlPoints ℚ} {temp : ℚ}

theorem epsilon_eq : (EPSILON : ℚ) = 1 / 100 := rfl

theorem getSpeedForTemp_half (close : |(computeBezierAtT pts (1 / 2)).x - temp| < 1 / 100) :
    getSpeedForTemp pts temp = (computeBezierAtT pts (1 / 2)).y := by
  rw [getSpeedForTemp_eq, ControlPoints.search, MAX_ITERATIONS, epsilon_eq, Bisection.search_at 99, zero_add]
  rw [zero_add]
  exact close

theorem getSpeedForTemp_quarter (far : 1 / 100 ≤ (computeBezierAtT pts (1 / 2)).x - temp)
    (close : |(computeBezierAtT pts (1 / 4)).x - temp| < 1 / 100) :
    getSpeedForTemp pts temp = (computeBezierAtT pts (1 / 4)).y := by
  have quarter : (0 + (0 + 1) / 2) / 2 = (1 / 4 : ℚ) := by norm_num
  rw [getSpeedForTemp_eq, ControlPoints.search, MAX_ITERATIONS, epsilon_eq, Bisection.search_above 99,
    Bisection.search_at 98, quarter]
  · rw [quarter]
    exact close
  · norm_num
  · rw [zero_add]
    exact far

theorem getSpeedForTemp_threeQuarters (far : 1 / 100 ≤ temp - (computeBezierAtT pts (1 / 2)).x)
    (close : |(computeBezierAtT pts (3 / 4)).x - temp| < 1 / 100) :
    getSpeedForTemp pts temp = (computeBezierAtT pts (3 / 4)).y := by
  have threeQuarters : ((0 + 1) / 2 + 1) / 2 = (3 / 4 : ℚ) := by norm_num
  rw [getSpeedForTemp_eq, ControlPoints.search, MAX_ITERATIONS, epsilon_eq, Bisection.search_below 99,
    Bisection.search_at 98, threeQuarters]
  · rw [threeQuarters]
    exact close
  · norm_num
  · rw [zero_add]
    exact far

/-- Where the curve's `x` stays above the temperature on the first half, the loop never leaves through its
test and ends next to the first listed point. -/
theorem getSpeedForTemp_low (large : ∀ t, 0 ≤ t → t ≤ 1 / 2 → 1 / 100 ≤ (computeBezierAtT pts t).x - temp) :
    getSpeedForTemp pts temp = (computeBezierAtT pts (1 / 2 ^ 100)).y := by
  have ends : (pts.search temp).1 = 0 + (1 - 0) / 2 ^ (99 + 1) := by
    apply Bisection.search_low 99 zero_le_one (by norm_num [epsilon_eq])
    rw [zero_add]
    exact large
  rw [getSpeedForTemp_eq, ends, zero_add, sub_zero]

/-- Where it stays below on the second half, the loop ends next to the last one. -/
theorem getSpeedForTemp_high (small : ∀ t, 1 / 2 ≤ t → t ≤ 1 → 1 / 100 ≤ temp - (computeBezierAtT pts t).x) :
    getSpeedForTemp pts temp = (computeBezierAtT pts (1 - 1 / 2 ^ 100)).y := by
  have ends : (pts.search temp).1 = 1 - (1 - 0) / 2 ^ (99 + 1) := by
    apply Bisection.search_high 99 zero_le_one (by norm_num [epsilon_eq])
    rw [zero_add]
    exact small
  rw [getSpeedForTemp_eq, ends, sub_zero]

end Ends

/-! ## Points listed by temperature -/

def ControlPoints.toList {F : Type} (pts : ControlPoints F) : List (Point F) := [pts.p0, pts.p1, pts.p2, pts.p3]

def ControlPoints.SortedX (pts : ControlPoints ℚ) : Prop :=
  pts.p0.x ≤ pts.p1.x ∧ pts.p1.x ≤ pts.p2.x ∧ pts.p2.x ≤ pts.p3.x

section Sorted
variable {pts : ControlPoints ℚ}

theorem ControlPoints.SortedX.pairwise (sorted : pts.SortedX) : pts.toList.Pairwise Point.Before := by
  obtain ⟨first, second, third⟩ := sorted
  simp only [toList, List.pairwise_cons, List.mem_cons, List.not_mem_nil, or_false, forall_eq_or_imp, forall_eq,
    Point.before_iff]
  exact ⟨⟨first, first.trans second, (first.trans second).trans third⟩, ⟨second, second.trans third⟩, third,
    by simp⟩

theorem bezier_sorted (sorted : pts.SortedX) (id : String) (temperature : ℚ) :
    (CurveCfg.bezier id pts.toList).calculateSpeed temperature =
      .ok (if temperature ≤ pts.p0.x then clampedSpeed pts.p0.y
        else if pts.p3.x ≤ temperature then clampedSpeed pts.p3.y
        else clampedSpeed (computeBezierAtT pts (pts.search temperature).1).y) := by
  obtain ⟨low, second, third, high, order, exact⟩ :=
    bezier_calculateSpeed id pts.p0 pts.p1 pts.p2 pts.p3 temperature
  have same : pts.toList = [low, second, third, high] := sorted.pairwise.insertionSort_eq.symm.trans order
  simp only [ControlPoints.toList, List.cons.injEq, and_true] at same
  obtain ⟨rfl, -, -, rfl⟩ := same
  rw [← getSpeedForTemp_eq]
  exact exact

theorem search_leaves_through_tolerance (sorted : pts.SortedX)
    (bounded : ∀ point ∈ pts.toList, |point.x| ≤ 10 ^ 6) {temperature : ℚ} (above : pts.p0.x < temperature) (below : temperature < pts.p3.x) :
    (pts.search temperature).2 = true := by
  obtain ⟨first, second, third⟩ := sorted
  have left := (abs_le.mp (bounded pts.p0 (by simp [ControlPoints.toList]))).1
  have right := (abs_le.mp (bounded pts.p3 (by simp [ControlPoints.toList]))).2
  have slope : 3 * (pts.p3.x - pts.p0.x) * (1 - 0) < 1 / 100 * 2 ^ 99 := by linarith
  unfold ControlPoints.search
  simp only [computeBezierAtT_x]
  apply Bisection.search_found 99 zero_le_one _ _ _ slope
  · rw [Bernstein.cubic_zero]
    exact above.le
  · rw [Bernstein.cubic_one]
    exact below.le
  · intro s t nonneg ordered le_one
    exact Bernstein.cubic_sub_le nonneg ordered le_one first second third

theorem calculateSpeed_on_curve (sorted : pts.SortedX) (bounded : ∀ point ∈ pts.toList, |point.x| ≤ 10 ^ 6)
    {temperature : ℚ} (above : pts.p0.x < temperature) (below : temperature < pts.p3.x) (id : String) :
    ∃ t, pts.search temperature = (t, true) ∧ 0 ≤ t ∧ t ≤ 1 ∧
      |(computeBezierAtT pts t).x - temperature| < EPSILON ∧
      getSpeedForTemp pts temperature = (computeBezierAtT pts t).y ∧
      (CurveCfg.bezier id pts.toList).calculateSpeed temperature =
        .ok (clampedSpeed (computeBezierAtT pts t).y) := by
  have found := search_leaves_through_tolerance sorted bounded above below
  obtain ⟨nonneg, le_one⟩ := pts.search_mem temperature
  refine ⟨(pts.search temperature).1, Prod.ext rfl found, nonneg, le_one, ?_, getSpeedForTemp_eq pts _, ?_⟩
  · exact ControlPoints.search_close found
  · rw [bezier_sorted sorted, if_neg (not_le.mpr above), if_neg (not_le.mpr below)]

theorem risingCurve_found :
    let pts : ControlPoints ℚ := ⟨⟨30, 20⟩, ⟨50, 40⟩, ⟨70, 80⟩, ⟨90, 100⟩⟩
    ∃ t, pts.search 75 = (t, true) ∧ 0 ≤ t ∧ t ≤ 1 ∧ |(computeBezierAtT pts t).x - 75| < EPSILON ∧
      getSpeedForTemp pts 75 = (computeBezierAtT pts t).y ∧
      (CurveCfg.bezier "cpu" pts.toList).calculateSpeed 75 = .ok (clampedSpeed (computeBezierAtT pts t).y) :=
  calculateSpeed_on_curve ⟨by norm_num, by norm_num, by norm_num⟩ (by simp [ControlPoints.toList]; norm_num)
    (by norm_num) (by norm_num) "cpu"

end Sorted

/-! ## Points listed in another order -/

/-- Listing the points in this order gives the same result as listing them by temperature. -/
def OrderIgnored (points : Fin 4 → Point ℚ) (order : Equiv.Perm (Fin 4)) (temperature : ℚ) : Prop :=
  ∀ id, (CurveCfg.bezier id (List.ofFn (points ∘ order))).calculateSpeed temperature =
    (CurveCfg.bezier id (List.ofFn points)).calculateSpeed temperature

theorem bezier_inside {p0 p1 p2 p3 low second third high : Point ℚ} {temperature : ℚ}
    (sorted : [p0, p1, p2, p3].insertionSort Point.Before = [low, second, third, high])
    (above : low.x < temperature) (below : temperature < high.x) (id : String) :
    (CurveCfg.bezier id [p0, p1, p2, p3]).calculateSpeed temperature =
      .ok (clampedSpeed (getSpeedForTemp ⟨p0, p1, p2, p3⟩ temperature)) := by
  obtain ⟨_, _, _, _, order, exact⟩ := bezier_calculateSpeed id p0 p1 p2 p3 temperature
  rw [sorted] at order
  cases order
  rw [exact, if_neg (not_le.mpr above), if_neg (not_le.mpr below)]

section Orders
variable {points : Fin 4 → Point ℚ}

theorem insertionSort_ofFn (increasing : StrictMono fun i => (points i).x) (order : Equiv.Perm (Fin 4)) :
    (List.ofFn (points ∘ order)).insertionSort Point.Before = List.ofFn points := by
  have total : Std.Total Point.Before := ⟨fun a b => by
    simpa only [Point.before_iff] using le_total a.x b.x⟩
  have transitive : IsTrans (Point ℚ) Point.Before := ⟨fun a b c => by
    simpa only [Point.before_iff] using le_trans⟩
  have sorted := List.pairwise_insertionSort Point.Before (List.ofFn (points ∘ order))
  have listed : (List.ofFn points).Pairwise Point.Before := by
    rw [List.pairwise_ofFn]
    intro i j less
    rw [Point.before_iff]
    exact (increasing less).le
  have perm := (List.perm_insertionSort Point.Before (List.ofFn (points ∘ order))).trans
    (order.ofFn_comp_perm points)
  refine perm.eq_of_pairwise (fun a b first second before after => ?_) sorted listed
  have member : a ∈ List.ofFn points := perm.mem_iff.mp first
  obtain ⟨i, rfl⟩ := List.mem_ofFn.mp member
  obtain ⟨j, rfl⟩ := List.mem_ofFn.mp second
  rw [Point.before_iff] at before after
  have same : i = j := increasing.injective (before.antisymm after)
  rw [same]

/-- Outside the interior the sorted copy decides. -/
theorem bezier_outside (increasing : StrictMono fun i => (points i).x) (order : Equiv.Perm (Fin 4)) (id : String)
    {temperature : ℚ} (outside : temperature ≤ (points 0).x ∨ (points 3).x ≤ temperature) :
    (CurveCfg.bezier id (List.ofFn (points ∘ order))).calculateSpeed temperature =
      .ok (if temperature ≤ (points 0).x then clampedSpeed (points 0).y else clampedSpeed (points 3).y) := by
  obtain ⟨low, second, third, high, sorted, exact⟩ :=
    bezier_calculateSpeed id (points (order 0)) (points (order 1)) (points (order 2)) (points (order 3))
      temperature
  have listed : List.ofFn points = [low, second, third, high] :=
    (insertionSort_ofFn increasing order).symm.trans sorted
  simp only [List.ofFn_succ, List.ofFn_zero, List.cons.injEq] at listed
  obtain ⟨rfl, -, -, rfl, -⟩ := listed
  refine exact.trans ?_
  split
  · rfl
  · rename_i above
    have beyond := outside.resolve_left above
    exact congrArg _ (if_pos beyond)

/-- Inside it the search reads the points as they are listed. -/
theorem bezier_between (increasing : StrictMono fun i => (points i).x) (order : Equiv.Perm (Fin 4)) (id : String)
    {temperature : ℚ} (above : (points 0).x < temperature) (below : temperature < (points 3).x) :
    (CurveCfg.bezier id (List.ofFn (points ∘ order))).calculateSpeed temperature =
      .ok (clampedSpeed (getSpeedForTemp
        ⟨points (order 0), points (order 1), points (order 2), points (order 3)⟩ temperature)) :=
  bezier_inside (insertionSort_ofFn increasing order) above below id

theorem OrderIgnored.outside (increasing : StrictMono fun i => (points i).x) (order : Equiv.Perm (Fin 4))
    {temperature : ℚ} (outside : temperature ≤ (points 0).x ∨ (points 3).x ≤ temperature) :
    OrderIgnored points order temperature := by
  intro id
  rw [bezier_outside increasing order id outside]
  exact (bezier_outside increasing 1 id outside).symm

end Orders

/-- The inner two points stay between the outer two. -/
abbrev KeepsInner (order : Equiv.Perm (Fin 4)) : Prop := order 1 = 1 ∧ order 2 = 2 ∨ order 1 = 2 ∧ order 2 = 1

def isInner (i : Fin 4) : Nat := if i = 1 ∨ i = 2 then 1 else 0

/-- How much the middle of the curve weighs the inner two points, out of eight. -/
def innerWeight (order : Equiv.Perm (Fin 4)) : Nat :=
  isInner (order 0) + 3 * isInner (order 1) + 3 * isInner (order 2) + isInner (order 3)

/-- Points so close to each other that the search ends at the middle of the curve, in any order. -/
def closePoints (i : Fin 4) : Point ℚ := ⟨i.val / 1000, 100 * isInner i⟩

theorem closePoints_increasing : StrictMono fun i => (closePoints i).x := by
  intro i j less
  exact div_lt_div_of_pos_right (Nat.cast_lt.mpr less) (by norm_num)

theorem closePoints_speed (order : Equiv.Perm (Fin 4)) :
    (CurveCfg.bezier "" (List.ofFn (closePoints ∘ order))).calculateSpeed (1 / 1000) =
      .ok (clampedSpeed (25 / 2 * innerWeight order : ℚ)) := by
  have low (i : Fin 4) : 0 ≤ (closePoints i).x := div_nonneg (Nat.cast_nonneg _) (by norm_num)
  have high (i : Fin 4) : (closePoints i).x ≤ 3 / 1000 :=
    div_le_div_of_nonneg_right (Nat.cast_le.mpr (Nat.le_of_lt_succ i.isLt)) (by norm_num)
  rw [bezier_between closePoints_increasing order "" (by norm_num [closePoints]) (by norm_num [closePoints]),
    getSpeedForTemp_half]
  · rw [computeBezierAtT_y]
    simp only [closePoints, Bernstein.cubic, innerWeight]
    push_cast
    ring_nf
  · rw [computeBezierAtT_x]
    have above := Bernstein.le_cubic one_half_pos.le one_half_lt_one.le (low (order 0)) (low (order 1))
      (low (order 2)) (low (order 3))
    have below := Bernstein.cubic_le one_half_pos.le one_half_lt_one.le (high (order 0)) (high (order 1))
      (high (order 2)) (high (order 3))
    exact abs_lt.mpr ⟨by linarith, by linarith⟩

theorem closePoints_order_matters (order : Equiv.Perm (Fin 4)) (outer : ¬ KeepsInner order) :
    (CurveCfg.bezier "" (List.ofFn (closePoints ∘ order))).calculateSpeed (1 / 1000) ≠
      (CurveCfg.bezier "" (List.ofFn closePoints)).calculateSpeed (1 / 1000) := by
  have light : innerWeight order ≤ 4 := by
    revert order
    decide
  have slow : clampedSpeed (25 / 2 * innerWeight order : ℚ) ≤ 50 := by
    have fifty : clampedSpeed (50 : ℚ) = 50 := clampedSpeed_floor 50 (by norm_num) (by norm_num) (by norm_num)
    have light' : (innerWeight order : ℚ) ≤ 4 := by exact_mod_cast light
    rw [← fifty]
    exact clampedSpeed_mono (by linarith)
  have fast : clampedSpeed (25 / 2 * innerWeight 1 : ℚ) = 75 := by
    rw [show innerWeight 1 = 6 by decide]
    exact clampedSpeed_floor 75 (by norm_num) (by norm_num) (by norm_num)
  intro same
  have speeds := (closePoints_speed order).symm.trans (same.trans (closePoints_speed 1))
  rw [fast] at speeds
  rw [Except.ok.inj speeds] at slow
  exact absurd slow (by decide)

/-- Points on which the other orders that keep the inner two go wrong at one temperature. -/
def steepPoints : Fin 4 → Point ℚ
  | 0 => ⟨0, 0⟩
  | 1 => ⟨1 / 100, 100⟩
  | 2 => ⟨1 / 50, 0⟩
  | 3 => ⟨11 / 100, 100⟩

theorem steepPoints_increasing : StrictMono fun i => (steepPoints i).x := by
  apply Fin.strictMono_iff_lt_succ.mpr
  intro i
  match i with
  | 0 => exact show (0 : ℚ) < 1 / 100 by norm_num
  | 1 => exact show (1 / 100 : ℚ) < 1 / 50 by norm_num
  | 2 => exact show (1 / 50 : ℚ) < 11 / 100 by norm_num

theorem exchanged_above (inner other : ℚ) {t : ℚ} (low : 1 / 100 ≤ inner) (sum : inner + other = 3 / 100)
    (nonneg : 0 ≤ t) (half : t ≤ 1 / 2) : 1 / 40 ≤ Bernstein.cubic (11 / 100) inner other 0 t := by
  have factored : Bernstein.cubic (11 / 100) inner other 0 t - 1 / 40 =
      (1 / 2 - t) * (17 - 26 * t + 14 * t ^ 2 + 600 * (inner - 1 / 100) * (t * (1 - t))) / 100 := by
    rw [eq_sub_of_add_eq' sum]
    unfold Bernstein.cubic
    ring
  have quadratic : 0 ≤ 17 - 26 * t + 14 * t ^ 2 := by nlinarith only [sq_nonneg (14 * t - 13)]
  have inside : 0 ≤ t * (1 - t) := mul_nonneg nonneg (by linarith)
  have weight : 0 ≤ 600 * (inner - 1 / 100) := by linarith
  rw [← sub_nonneg, factored]
  exact div_nonneg (mul_nonneg (sub_nonneg.mpr half) (add_nonneg quadratic (mul_nonneg weight inside))) (by norm_num)

/-- With the outer points exchanged the curve comes near the temperature only beyond its middle, and the search
turns the other way. -/
theorem steepPoints_exchanged (order : Equiv.Perm (Fin 4)) (inner : KeepsInner order) (first : order 0 = 3)
    (last : order 3 = 0) :
    (CurveCfg.bezier "" (List.ofFn (steepPoints ∘ order))).calculateSpeed (3 / 200) = .ok 99 := by
  rw [bezier_between steepPoints_increasing order "" (by norm_num [steepPoints]) (by norm_num [steepPoints]), first,
    last]
  rcases inner with ⟨second, third⟩ | ⟨second, third⟩
  · rw [second, third, getSpeedForTemp_low]
    · rw [computeBezierAtT_y]
      exact congrArg _ (clampedSpeed_floor 99 (by norm_num [Bernstein.cubic, steepPoints])
        (by norm_num [Bernstein.cubic, steepPoints]) (by norm_num [Bernstein.cubic, steepPoints]))
    · intro t nonneg half
      have above := exchanged_above (1 / 100) (1 / 50) (by norm_num) (by norm_num) nonneg half
      rw [computeBezierAtT_x]
      simp only [steepPoints]
      linarith
  · rw [second, third, getSpeedForTemp_low]
    · rw [computeBezierAtT_y]
      exact congrArg _ (clampedSpeed_floor 99 (by norm_num [Bernstein.cubic, steepPoints])
        (by norm_num [Bernstein.cubic, steepPoints]) (by norm_num [Bernstein.cubic, steepPoints]))
    · intro t nonneg half
      have above := exchanged_above (1 / 50) (1 / 100) (by norm_num) (by norm_num) nonneg half
      rw [computeBezierAtT_x]
      simp only [steepPoints]
      linarith

theorem steepPoints_kept (order : Equiv.Perm (Fin 4)) (inner : KeepsInner order) (first : order 0 = 0)
    (last : order 3 = 3) :
    (CurveCfg.bezier "" (List.ofFn (steepPoints ∘ order))).calculateSpeed (3 / 200) =
      .ok (if order 1 = 1 then 43 else 15) := by
  rw [bezier_between steepPoints_increasing order "" (by norm_num [steepPoints]) (by norm_num [steepPoints]), first,
    last]
  rcases inner with ⟨second, third⟩ | ⟨second, third⟩
  · rw [second, third, getSpeedForTemp_quarter]
    · rw [computeBezierAtT_y]
      exact congrArg _ (clampedSpeed_floor 43 (by norm_num [Bernstein.cubic, steepPoints])
        (by norm_num [Bernstein.cubic, steepPoints]) (by norm_num [Bernstein.cubic, steepPoints]))
    · rw [computeBezierAtT_x]
      norm_num [Bernstein.cubic, steepPoints]
    · rw [computeBezierAtT_x, abs_lt]
      norm_num [Bernstein.cubic, steepPoints]
  · rw [second, third, getSpeedForTemp_quarter]
    · rw [computeBezierAtT_y]
      exact congrArg _ (clampedSpeed_floor 15 (by norm_num [Bernstein.cubic, steepPoints])
        (by norm_num [Bernstein.cubic, steepPoints]) (by norm_num [Bernstein.cubic, steepPoints]))
    · rw [computeBezierAtT_x]
      norm_num [Bernstein.cubic, steepPoints]
    · rw [computeBezierAtT_x, abs_lt]
      norm_num [Bernstein.cubic, steepPoints]

theorem steepPoints_order_matters (order : Equiv.Perm (Fin 4)) (inner : KeepsInner order) (other : order ≠ 1) :
    (CurveCfg.bezier "" (List.ofFn (steepPoints ∘ order))).calculateSpeed (3 / 200) ≠
      (CurveCfg.bezier "" (List.ofFn steepPoints)).calculateSpeed (3 / 200) := by
  have listed := steepPoints_kept 1 (.inl ⟨rfl, rfl⟩) rfl rfl
  have outer : order 0 = 3 ∧ order 3 = 0 ∨ order 0 = 0 ∧ order 3 = 3 ∧ order 1 ≠ 1 := by
    revert order
    decide
  intro same
  rcases outer with ⟨first, last⟩ | ⟨first, last, swapped⟩
  · have speeds := (steepPoints_exchanged order inner first last).symm.trans (same.trans listed)
    exact absurd (Except.ok.inj speeds) (by decide)
  · have speeds := (steepPoints_kept order inner first last).symm.trans (same.trans listed)
    rw [if_neg swapped] at speeds
    exact absurd (Except.ok.inj speeds) (by decide)

theorem orderIgnored_iff (order : Equiv.Perm (Fin 4)) :
    (∀ points, StrictMono (fun i => (points i).x) → ∀ temperature,
      temperature ≤ (points 0).x ∨ (points 3).x ≤ temperature → OrderIgnored points order temperature) ∧
    ((∀ points, StrictMono (fun i => (points i).x) → ∀ temperature,
      (points 0).x < temperature → temperature < (points 3).x → OrderIgnored points order temperature) ↔
        order = 1) := by
  constructor
  · intro points increasing temperature outside
    exact .outside increasing order outside
  · constructor
    · intro ignored
      by_contra other
      by_cases inner : KeepsInner order
      · have same := ignored steepPoints steepPoints_increasing (3 / 200) (by norm_num [steepPoints])
          (by norm_num [steepPoints]) ""
        exact steepPoints_order_matters order inner other same
      · have same := ignored closePoints closePoints_increasing (1 / 1000) (by norm_num [closePoints])
          (by norm_num [closePoints]) ""
        exact closePoints_order_matters order inner same
    · rintro rfl points increasing temperature above below id
      rfl

/-- Listed backwards, a rising curve slows the fan down where it is hot. -/
theorem reversed_points_slow_down :
    let points : List (Point ℚ) := [⟨30, 20⟩, ⟨50, 40⟩, ⟨70, 80⟩, ⟨90, 100⟩]
    points.Pairwise (fun a b => a.x < b.x) ∧ points.reverse.Perm points ∧
      (CurveCfg.bezier "cpu" points).calculateSpeed 75 = .ok 81 ∧
      (CurveCfg.bezier "cpu" points.reverse).calculateSpeed 75 = .ok 20 := by
  have rising : [⟨30, 20⟩, ⟨50, 40⟩, ⟨70, 80⟩, ⟨90, 100⟩].insertionSort Point.Before =
      [⟨30, 20⟩, ⟨50, 40⟩, ⟨70, 80⟩, ⟨90, 100⟩] := by
    norm_num [Point.before_iff]
  have falling : [⟨90, 100⟩, ⟨70, 80⟩, ⟨50, 40⟩, ⟨30, 20⟩].insertionSort Point.Before =
      [⟨30, 20⟩, ⟨50, 40⟩, ⟨70, 80⟩, ⟨90, 100⟩] := by
    norm_num [Point.before_iff]
  refine ⟨by norm_num, List.reverse_perm _, ?_, ?_⟩
  · refine (bezier_inside rising (by norm_num) (by norm_num) "cpu").trans ?_
    rw [getSpeedForTemp_threeQuarters]
    · rw [computeBezierAtT_y]
      exact congrArg _ (clampedSpeed_floor 81 (by norm_num [Bernstein.cubic]) (by norm_num [Bernstein.cubic])
        (by norm_num [Bernstein.cubic]))
    · rw [computeBezierAtT_x]
      norm_num [Bernstein.cubic]
    · rw [computeBezierAtT_x]
      norm_num [Bernstein.cubic]
  · refine (bezier_inside falling (by norm_num) (by norm_num) "cpu").trans ?_
    rw [getSpeedForTemp_high]
    · rw [computeBezierAtT_y]
      exact congrArg _ (clampedSpeed_floor 20 (by norm_num [Bernstein.cubic]) (by norm_num [Bernstein.cubic])
        (by norm_num [Bernstein.cubic]))
    · intro t half le_one
      have linear : Bernstein.cubic 90 70 50 30 t = 90 - 60 * t := by
        unfold Bernstein.cubic
        ring
      rw [computeBezierAtT_x, linear]
      linarith

end TtRiingd
