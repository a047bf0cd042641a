import TtRiingd.Config.CurveRange

/-!
# Curves over exact numbers

At the rationals `calculateSpeed` is an ordinary function: a line on each segment of a step curve, and
for a Bezier curve the clamped height of a point that the boundary tests or the search choose. On finite
temperatures and points the curves over `F32` agree with it.
-/

namespace TtRiingd
open FloatOps

/-! ## Rounding to a speed -/

theorem truncateU8_mono {x y : ℚ} (ordered : x ≤ y) : truncateU8 x ≤ truncateU8 y := by
  rw [UInt8.le_iff_toNat_le, truncateU8_toNat, truncateU8_toNat]
  have floors : ⌊x⌋ ≤ ⌊y⌋ := Int.floor_mono ordered
  omega

theorem truncateU8_speed (speed : UInt8) : truncateU8 (speed.toNat : ℚ) = speed := by
  have bound : speed.toNat < 256 := speed.toNat_lt
  rw [← UInt8.toNat_inj, truncateU8_toNat, Int.floor_natCast, Int.toNat_natCast]
  omega

theorem clampedSpeed_eq (y : ℚ) : clampedSpeed y = truncateU8 (max 0 (min y 100)) := by
  apply congrArg truncateU8
  simp only [clamp, lt, ofRat, id, decide_eq_true_eq]
  split
  · rename_i negative
    rw [max_eq_left (min_le_of_left_le negative.le)]
  · split
    · rename_i nonneg large
      rw [min_eq_right large.le]
      rfl
    · rename_i nonneg small
      rw [min_eq_left (not_lt.mp small), max_eq_right (not_lt.mp nonneg)]

theorem clampedSpeed_mono {y y' : ℚ} (ordered : y ≤ y') : clampedSpeed y ≤ clampedSpeed y' := by
  rw [clampedSpeed_eq, clampedSpeed_eq]
  exact truncateU8_mono (max_le_max_left _ (min_le_min_right _ ordered))

theorem clampedSpeed_floor {y : ℚ} (speed : Nat) (lower : speed ≤ y) (upper : y < speed + 1) (bound : y ≤ 100) :
    clampedSpeed y = UInt8.ofNat speed := by
  have small : speed ≤ 100 := by exact_mod_cast lower.trans bound
  have floor : ⌊y⌋ = (speed : Int) := Int.floor_eq_iff.mpr ⟨by exact_mod_cast lower, by exact_mod_cast upper⟩
  have nonneg : 0 ≤ y := (Nat.cast_nonneg speed).trans lower
  rw [clampedSpeed_eq, min_eq_left bound, max_eq_right nonneg, ← UInt8.toNat_inj, truncateU8_toNat, floor,
    Int.toNat_natCast, UInt8.toNat_ofNat_of_lt' (by change speed < 256; omega)]
  omega

/-! ## Step curves -/

theorem scanSegments_eq_firstSegment (temperature : ℚ) (tmps : List ℚ) (spds : List UInt8) :
    scanSegments temperature tmps spds =
      (firstSegment temperature tmps spds).map fun segment => truncateU8 (segment.speedAt temperature) := by
  fun_induction firstSegment temperature tmps spds with
  | case1 low high tmps slow fast spds inside =>
      rw [scanSegments, if_pos (by simpa [le, lt] using inside)]
      rfl
  | case2 low high tmps slow fast spds outside ih =>
      rw [← ih, scanSegments, if_neg (by simpa [le, lt] using outside)]
  | case3 tmps spds short => exact scanSegments_short temperature (length_le_one_of_short short)

/-! ## Bezier curves -/

/-- The comparison of the sort. -/
abbrev Point.Before (a b : Point ℚ) : Prop := le a.x b.x = true

theorem Point.before_iff (a b : Point ℚ) : a.Before b ↔ a.x ≤ b.x := decide_eq_true_iff

theorem bezier_calculateSpeed (id : String) (p0 p1 p2 p3 : Point ℚ) (temperature : ℚ) :
    ∃ low second third high, [p0, p1, p2, p3].insertionSort Point.Before = [low, second, third, high] ∧
      (CurveCfg.bezier id [p0, p1, p2, p3]).calculateSpeed temperature =
        .ok (if temperature ≤ low.x then clampedSpeed low.y
          else if high.x ≤ temperature then clampedSpeed high.y
          else clampedSpeed (getSpeedForTemp ⟨p0, p1, p2, p3⟩ temperature)) := by
  obtain ⟨low, second, third, high, sorted⟩ :=
    List.length_eq_four.mp (List.length_insertionSort Point.Before [p0, p1, p2, p3])
  refine ⟨low, second, third, high, sorted, ?_⟩
  simp only [CurveCfg.calculateSpeed, sorted]
  simp only [isNan, List.any_cons, List.any_nil, Bool.or_self, Bool.false_eq_true, if_false, le,
    decide_eq_true_eq]
  split
  · rfl
  · split <;> rfl

/-! ## The curves over `F32` -/

def ControlPoints.mapNumbers {F G : Type} (f : F → G) (pts : ControlPoints F) : ControlPoints G :=
  ⟨pts.p0.mapNumbers f, pts.p1.mapNumbers f, pts.p2.mapNumbers f, pts.p3.mapNumbers f⟩

theorem computeBezierAtT_fin (pts : ControlPoints ℚ) (t : ℚ) :
    computeBezierAtT (pts.mapNumbers F32.fin) (.fin t) = (computeBezierAtT pts t).mapNumbers F32.fin := by
  simp only [computeBezierAtT, ControlPoints.mapNumbers, Point.mapNumbers, F32.ofRat_eq, F32.fin_sub,
    F32.fin_mul, F32.fin_add]
  rfl

theorem abs_fin (x : ℚ) : FloatOps.abs (F32.fin x) = .fin (FloatOps.abs x) := by
  simp only [FloatOps.abs, F32.ofRat_eq, F32.lt_fin, F32.fin_sub]
  exact (apply_ite F32.fin _ _ _).symm

theorem bisect_fin (pts : ControlPoints ℚ) (temp : ℚ) (remaining : Nat) (tLow tHigh tMid : ℚ) :
    bisect (pts.mapNumbers F32.fin) (.fin temp) remaining (.fin tLow) (.fin tHigh) (.fin tMid) =
      .fin (bisect pts temp remaining tLow tHigh tMid) := by
  induction remaining generalizing tLow tHigh tMid with
  | zero => simp only [bisect, computeBezierAtT_fin, Point.mapNumbers]
  | succ remaining ih =>
      have epsilon : (EPSILON : F32) = .fin (1 / 100) := rfl
      simp only [bisect, epsilon, F32.ofRat_eq, F32.fin_add, F32.fin_mul, computeBezierAtT_fin,
        Point.mapNumbers, F32.fin_sub, abs_fin, F32.lt_fin, ih, ← apply_ite F32.fin]
      rfl

theorem getSpeedForTemp_fin (pts : ControlPoints ℚ) (temp : ℚ) :
    getSpeedForTemp (pts.mapNumbers F32.fin) (.fin temp) = .fin (getSpeedForTemp pts temp) :=
  bisect_fin pts temp MAX_ITERATIONS 0 1 0

theorem clampedSpeed_fin (y : ℚ) : clampedSpeed (F32.fin y) = clampedSpeed y := by
  have clamped : clamp (F32.fin y) (ofRat 0) (ofRat 100) = .fin (clamp y (ofRat 0) (ofRat 100)) := by
    simp only [clamp, apply_ite F32.fin]
    rfl
  rw [clampedSpeed, clamped]
  rfl

theorem calculateSpeed_fin (curve : CurveCfg ℚ) (temperature : ℚ) :
    (curve.mapNumbers F32.fin).calculateSpeed (.fin temperature) = curve.calculateSpeed temperature := by
  cases curve with
  | constant id speed => rfl
  | stepCurve id tmps spds =>
      have scanned := scanSegments_exact temperature tmps spds
      rw [← scanSegments_eq_firstSegment] at scanned
      cases tmps with
      | nil => rfl
      | cons first rest =>
          rw [List.map_cons] at scanned
          simp only [CurveCfg.mapNumbers, CurveCfg.calculateSpeed, scanned, List.map_cons, List.length_cons,
            List.length_map, F32.lt_fin]
          rfl
  | bezier id points =>
      by_cases length : points.length = 4
      · obtain ⟨p0, p1, p2, p3, rfl⟩ := List.length_eq_four.mp length
        obtain ⟨low, second, third, high, sorted, exact⟩ := bezier_calculateSpeed id p0 p1 p2 p3 temperature
        have sorted' := List.map_insertionSort Point.Before (fun a b => le a.x b.x = true)
          (Point.mapNumbers F32.fin) [p0, p1, p2, p3] (by simp [Point.mapNumbers, Point.before_iff])
        simp only [sorted, List.map_cons, List.map_nil] at sorted'
        have searched := getSpeedForTemp_fin ⟨p0, p1, p2, p3⟩ temperature
        have nan (x : ℚ) : isNan (F32.fin x) = false := rfl
        simp only [ControlPoints.mapNumbers] at searched
        rw [exact]
        simp only [CurveCfg.mapNumbers, CurveCfg.calculateSpeed, List.map_cons, List.map_nil, ← sorted',
          searched]
        simp only [Point.mapNumbers, nan, List.any_cons, List.any_nil, Bool.or_self, Bool.false_eq_true,
          if_false, F32.le_fin, clampedSpeed_fin, decide_eq_true_eq, ← apply_ite Except.ok]
      · have length' : (points.map (Point.mapNumbers F32.fin)).length ≠ 4 := by rwa [List.length_map]
        exact (calculateSpeed_bezier_length length' _).trans (calculateSpeed_bezier_length length _).symm

end TtRiingd
