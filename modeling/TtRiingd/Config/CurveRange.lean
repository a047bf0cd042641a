import Mathlib.Data.Finset.Order
import Mathlib.Tactic.Linarith
import Mathlib.Tactic.Ring
import TtRiingd.Config.Curve
import TtRiingd.Library.Order

/-!
# What evaluating a curve can end with

The comparison of two points is the only step of `calculateSpeed` that can panic. What it returns is
a percentage for every Bezier curve, which clamps; the other two kinds return what they are given.
-/

namespace TtRiingd
open FloatOps

/-! ## Panics -/

def CurveCfg.HasNanPoint (curve : CurveCfg F32) : Prop :=
  ∃ id points, curve = .bezier id points ∧ points.length = 4 ∧ ∃ point ∈ points, point.x = .nan

theorem isNan_iff (x : F32) : isNan x = true ↔ x = .nan := by
  change (x == .nan) = true ↔ _
  exact beq_iff_eq

theorem calculateSpeed_stepCurve_ne_panic (id : String) (tmps : List F32) (spds : List UInt8)
    (reading : F32) : (CurveCfg.stepCurve id tmps spds).calculateSpeed reading ≠ .error .panic := by
  cases tmps with
  | nil =>
      simp only [CurveCfg.calculateSpeed]
      split <;> simp
  | cons first rest =>
      simp only [CurveCfg.calculateSpeed]
      split
      · simp
      · split
        · simp
        · split <;> simp

section Points
variable {F : Type} [FloatOps F] {id : String} {points : List (Point F)}

theorem calculateSpeed_bezier_length (wrong : points.length ≠ 4) (temperature : F) :
    (CurveCfg.bezier id points).calculateSpeed temperature =
      .error (.error (anyhow "Bezier curve must have exactly 4 control points")) := by
  rcases points with _ | ⟨p0, _ | ⟨p1, _ | ⟨p2, _ | ⟨p3, _ | ⟨p4, rest⟩⟩⟩⟩⟩
  case cons.cons.cons.cons.nil => exact absurd rfl wrong
  all_goals rfl

theorem four_points_of_ok {temperature : F} {speed : UInt8}
    (computed : (CurveCfg.bezier id points).calculateSpeed temperature = .ok speed) :
    ∃ p0 p1 p2 p3, points = [p0, p1, p2, p3] := by
  apply List.length_eq_four.mp
  by_contra wrong
  rw [calculateSpeed_bezier_length wrong] at computed
  contradiction

end Points

theorem calculateSpeed_bezier_panics {id : String} {points : List (Point F32)} {reading : F32} :
    (CurveCfg.bezier id points).calculateSpeed reading = .error .panic ↔
      points.length = 4 ∧ ∃ point ∈ points, point.x = .nan := by
  by_cases length : points.length = 4
  · obtain ⟨p0, p1, p2, p3, rfl⟩ := List.length_eq_four.mp length
    have four : ([p0, p1, p2, p3].insertionSort fun a b => le a.x b.x = true).length = 4 :=
      List.length_insertionSort _ _
    obtain ⟨low, second, third, high, sorted⟩ := List.length_eq_four.mp four
    simp only [CurveCfg.calculateSpeed, sorted]
    constructor
    · intro panics
      split at panics
      · rename_i nan
        simp only [List.any_eq_true, isNan_iff] at nan
        exact ⟨rfl, nan⟩
      · split at panics
        · contradiction
        · split at panics <;> contradiction
    · rintro ⟨-, nan⟩
      rw [if_pos]
      simpa only [List.any_eq_true, isNan_iff] using nan
  · simp [calculateSpeed_bezier_length length, length]

theorem calculateSpeed_panics_iff (curve : CurveCfg F32) (reading : F32) :
    curve.calculateSpeed reading = .error .panic ↔ curve.HasNanPoint := by
  unfold CurveCfg.HasNanPoint
  cases curve with
  | constant id speed => simp [CurveCfg.calculateSpeed]
  | stepCurve id tmps spds => simp [calculateSpeed_stepCurve_ne_panic]
  | bezier id points => simp [calculateSpeed_bezier_panics]

/-! ## Exact numbers -/

def Point.mapNumbers {F G : Type} (f : F → G) (point : Point F) : Point G := ⟨f point.x, f point.y⟩

def CurveCfg.mapNumbers {F G : Type} (f : F → G) : CurveCfg F → CurveCfg G
  | .constant id speed => .constant id speed
  | .stepCurve id tmps spds => .stepCurve id (tmps.map f) spds
  | .bezier id points => .bezier id (points.map (Point.mapNumbers f))

structure Segment where
  low : ℚ
  high : ℚ
  slow : UInt8
  fast : UInt8

def Segment.speedAt (segment : Segment) (temperature : ℚ) : ℚ :=
  let t := (temperature - segment.low) / (segment.high - segment.low)
  segment.slow.toNat * (1 - t) + segment.fast.toNat * t

/-- The first segment of a step curve that the temperature falls into. -/
def firstSegment (temperature : ℚ) : List ℚ → List UInt8 → Option Segment
  | low :: high :: tmps, slow :: fast :: spds =>
      if low ≤ temperature ∧ temperature < high then some ⟨low, high, slow, fast⟩
      else firstSegment temperature (high :: tmps) (fast :: spds)
  | _, _ => none

theorem length_le_one_of_short {α β : Type} {xs : List α} {ys : List β}
    (short : ∀ x x' xs' y y' ys', xs = x :: x' :: xs' → ys = y :: y' :: ys' → False) :
    xs.length ≤ 1 ∨ ys.length ≤ 1 := by
  rcases xs with _ | ⟨x, _ | ⟨x', xs'⟩⟩
  · exact .inl (Nat.zero_le 1)
  · exact .inl (le_refl 1)
  · rcases ys with _ | ⟨y, _ | ⟨y', ys'⟩⟩
    · exact .inr (Nat.zero_le 1)
    · exact .inr (le_refl 1)
    · exact (short x x' xs' y y' ys' rfl rfl).elim

theorem scanSegments_short {F : Type} [FloatOps F] (temperature : F) {tmps : List F} {spds : List UInt8}
    (short : tmps.length ≤ 1 ∨ spds.length ≤ 1) : scanSegments temperature tmps spds = none := by
  rcases tmps with _ | ⟨low, _ | ⟨high, tmps⟩⟩
  · rfl
  · rfl
  · rcases spds with _ | ⟨slow, _ | ⟨fast, spds⟩⟩
    · rfl
    · rfl
    · simp at short

theorem firstSegment_short (temperature : ℚ) {tmps : List ℚ} {spds : List UInt8}
    (short : tmps.length ≤ 1 ∨ spds.length ≤ 1) : firstSegment temperature tmps spds = none := by
  rcases tmps with _ | ⟨low, _ | ⟨high, tmps⟩⟩
  · rfl
  · rfl
  · rcases spds with _ | ⟨slow, _ | ⟨fast, spds⟩⟩
    · rfl
    · rfl
    · simp at short

theorem scanSegments_exact (temperature : ℚ) (tmps : List ℚ) (spds : List UInt8) :
    scanSegments (.fin temperature) (tmps.map F32.fin) spds =
      (firstSegment temperature tmps spds).map fun segment => truncateU8 (segment.speedAt temperature) := by
  fun_induction firstSegment temperature tmps spds with
  | case1 low high tmps slow fast spds inside =>
      have apart : high - low ≠ 0 := by linarith [inside.1, inside.2]
      simp [scanSegments, inside.1, inside.2, apart, Segment.speedAt]
  | case2 low high tmps slow fast spds outside ih =>
      rw [← ih]
      simp [scanSegments, outside]
  | case3 tmps spds short =>
      apply scanSegments_short
      rw [List.length_map]
      exact length_le_one_of_short short

theorem firstSegment_mem {temperature : ℚ} {tmps : List ℚ} {spds : List UInt8} {segment : Segment}
    (found : firstSegment temperature tmps spds = some segment) :
    segment.low ∈ tmps ∧ segment.high ∈ tmps ∧ segment.low ≤ temperature ∧ temperature < segment.high := by
  fun_induction firstSegment temperature tmps spds with
  | case1 low high tmps slow fast spds inside =>
      cases found
      exact ⟨by simp, by simp, inside⟩
  | case2 low high tmps slow fast spds outside ih =>
      obtain ⟨lower, upper, inside⟩ := ih found
      exact ⟨.tail _ lower, .tail _ upper, inside⟩
  | case3 tmps spds short => contradiction

/-- Which segment is first depends only on which of the marked temperatures are below. -/
theorem firstSegment_congr {temperature other : ℚ} {tmps : List ℚ}
    (same : ∀ mark ∈ tmps, mark ≤ temperature ↔ mark ≤ other) (spds : List UInt8) :
    firstSegment temperature tmps spds = firstSegment other tmps spds := by
  fun_induction firstSegment temperature tmps spds with
  | case1 low high tmps slow fast spds inside =>
      have lower := (same low (by simp)).mp inside.1
      have upper : other < high := by
        rw [← not_le, ← same high (by simp), not_le]
        exact inside.2
      simp [firstSegment, lower, upper]
  | case2 low high tmps slow fast spds outside ih =>
      rw [ih fun mark member => same mark (.tail _ member), firstSegment, if_neg]
      rwa [← same low (by simp), ← not_le, ← same high (by simp), not_le]
  | case3 tmps spds short => exact (firstSegment_short other (length_le_one_of_short short)).symm

theorem Segment.speedAt_between (segment : Segment) (left right ratio : ℚ) :
    segment.speedAt (left + ratio * (right - left)) =
      segment.speedAt left + ratio * (segment.speedAt right - segment.speedAt left) := by
  unfold Segment.speedAt
  ring

theorem truncateU8_toNat (x : ℚ) : (truncateU8 x).toNat = min 255 ⌊x⌋.toNat := by
  unfold truncateU8
  split
  · rename_i negative
    have floor : ⌊x⌋ < 0 := Int.floor_lt.mpr (by exact_mod_cast negative)
    rw [Int.toNat_of_nonpos floor.le]
    rfl
  · split
    · rename_i large
      have floor : 255 ≤ ⌊x⌋ := Int.le_floor.mpr (by exact_mod_cast large)
      rw [min_eq_left (by omega)]
      rfl
    · rename_i small
      have floor : ⌊x⌋ < 255 := Int.floor_lt.mpr (by exact_mod_cast not_le.mp small)
      have fits : ⌊x⌋.toNat < UInt8.size := by
        change ⌊x⌋.toNat < 256
        omega
      rw [UInt8.toNat_ofNat_of_lt' fits, min_eq_right (by omega)]

theorem truncateU8_le_hundred (x : ℚ) : truncateU8 x ≤ 100 ↔ x < 101 := by
  have floor : ⌊x⌋ < 101 ↔ x < 101 := by exact_mod_cast (Int.floor_lt : ⌊x⌋ < (101 : ℤ) ↔ _)
  rw [UInt8.le_iff_toNat_le, truncateU8_toNat, ← floor]
  change min 255 ⌊x⌋.toNat ≤ 100 ↔ _
  omega

/-- A line that starts below 101 and ends at most there stays below it before its end. -/
theorem Segment.speedAt_lt_iff {segment : Segment} {left right : ℚ} (apart : left < right) :
    (∀ temperature, left ≤ temperature → temperature < right → segment.speedAt temperature < 101) ↔
      segment.speedAt left < 101 ∧ segment.speedAt right ≤ 101 := by
  constructor
  · intro below
    have start := below left (le_refl _) apart
    refine ⟨start, ?_⟩
    by_contra above
    rw [not_le] at above
    -- Where the line meets 101.
    let ratio := (101 - segment.speedAt left) / (segment.speedAt right - segment.speedAt left)
    have rise : 0 < segment.speedAt right - segment.speedAt left := by linarith
    have positive : 0 < ratio := div_pos (by linarith) rise
    have proper : ratio < 1 := (div_lt_one rise).mpr (by linarith)
    have meets := below (left + ratio * (right - left)) (by nlinarith) (by nlinarith)
    rw [segment.speedAt_between, div_mul_cancel₀ _ rise.ne'] at meets
    linarith
  · rintro ⟨start, finish⟩ temperature lower upper
    let ratio := (temperature - left) / (right - left)
    have length : 0 < right - left := by linarith
    have nonneg : 0 ≤ ratio := div_nonneg (by linarith) length.le
    have proper : ratio < 1 := (div_lt_one length).mpr (by linarith)
    have place : left + ratio * (right - left) = temperature := by
      rw [div_mul_cancel₀ _ length.ne']
      ring
    rw [← place, segment.speedAt_between]
    nlinarith

/-! ## Percentages -/

def CurveCfg.SpeedsInPercent (curve : CurveCfg F32) : Prop :=
  ∀ (temperature : ℚ) (speed : UInt8), curve.calculateSpeed (.fin temperature) = .ok speed → speed ≤ 100

/-- On each stretch between two neighbouring temperatures of the curve, the first segment that spans it
starts below 101 and does not end above it. -/
structure StepInPercent (tmps : List ℚ) (spds : List UInt8) : Prop where
  before : ∀ speed ∈ spds.head?, speed ≤ 100
  after : ∀ speed ∈ spds.getLast?, speed ≤ 100
  between : ∀ left ∈ tmps, ∀ right ∈ tmps, left < right → (∀ mark ∈ tmps, mark ≤ left ∨ right ≤ mark) →
    ∀ segment ∈ firstSegment left tmps spds, segment.speedAt left < 101 ∧ segment.speedAt right ≤ 101

theorem calculateSpeed_step_exact {id : String} {tmps : List ℚ} {spds : List UInt8} {first : ℚ}
    {rest : List ℚ} (nonempty : tmps = first :: rest) (equal : tmps.length = spds.length)
    (temperature : ℚ) :
    (CurveCfg.stepCurve id (tmps.map F32.fin) spds).calculateSpeed (.fin temperature) =
      match firstSegment temperature tmps spds with
      | some segment => .ok (truncateU8 (segment.speedAt temperature))
      | none =>
          match (if temperature < first then spds.head? else spds.getLast?) with
          | some speed => .ok speed
          | none => .error (.error (anyhow "Empty speeds vector")) := by
  have scanned := scanSegments_exact temperature tmps spds
  subst nonempty
  have lengths : (F32.fin first :: rest.map F32.fin).length = spds.length := by simpa using equal
  simp only [CurveCfg.calculateSpeed, List.map_cons, lengths, ne_eq, not_true_eq_false, if_false,
    F32.lt_fin, decide_eq_true_eq] at scanned ⊢
  rw [scanned]
  cases firstSegment temperature (first :: rest) spds with
  | none => rfl
  | some segment => rfl

section Steps
variable {tmps : List ℚ} {spds : List UInt8} {first : ℚ} {rest : List ℚ}

theorem firstSegment_below {temperature : ℚ} (below : ∀ mark ∈ tmps, temperature < mark) :
    firstSegment temperature tmps spds = none := by
  cases found : firstSegment temperature tmps spds with
  | none => rfl
  | some segment =>
      obtain ⟨lower, -, inside, -⟩ := firstSegment_mem found
      exact absurd inside (not_le.mpr (below _ lower))

theorem firstSegment_above {temperature : ℚ} (above : ∀ mark ∈ tmps, mark ≤ temperature) :
    firstSegment temperature tmps spds = none := by
  cases found : firstSegment temperature tmps spds with
  | none => rfl
  | some segment =>
      obtain ⟨-, upper, -, inside⟩ := firstSegment_mem found
      exact absurd inside (not_lt.mpr (above _ upper))

theorem firstSegment_stretch {left right temperature : ℚ} (spds : List UInt8)
    (neighbours : ∀ mark ∈ tmps, mark ≤ left ∨ right ≤ mark) (lower : left ≤ temperature)
    (upper : temperature < right) : firstSegment left tmps spds = firstSegment temperature tmps spds := by
  refine firstSegment_congr (fun mark member => ?_) spds
  rcases neighbours mark member with below | above
  · exact ⟨fun _ => below.trans lower, fun _ => below⟩
  · exact ⟨fun le => le.trans lower, fun le => absurd (upper.trans_le above) (not_lt.mpr le)⟩

theorem StepInPercent.of_speeds {id : String} (nonempty : tmps = first :: rest)
    (equal : tmps.length = spds.length)
    (percent : (CurveCfg.stepCurve id (tmps.map F32.fin) spds).SpeedsInPercent) : StepInPercent tmps spds := by
  have speeds (temperature : ℚ) := percent temperature
  simp only [calculateSpeed_step_exact nonempty equal] at speeds
  constructor
  · intro speed head
    obtain ⟨top, highest⟩ := (tmps.map Neg.neg).toFinset.exists_le
    have below : ∀ mark ∈ tmps, -top - 1 < mark := fun mark member => by
      linarith [highest (-mark) (List.mem_toFinset.mpr (List.mem_map_of_mem member))]
    have start : -top - 1 < first := below first (by simp [nonempty])
    apply speeds (-top - 1) speed
    simp only [firstSegment_below below, if_pos start, Option.mem_def.mp head]
  · intro speed last
    obtain ⟨top, highest⟩ := tmps.toFinset.exists_le
    have above : ∀ mark ∈ tmps, mark ≤ top := fun mark member => highest mark (List.mem_toFinset.mpr member)
    have start : ¬ top < first := not_lt.mpr (above first (by simp [nonempty]))
    apply speeds top speed
    simp only [firstSegment_above above, if_neg start, Option.mem_def.mp last]
  · intro left leftMem right rightMem apart neighbours segment found
    refine (Segment.speedAt_lt_iff apart).mp fun temperature lower upper => ?_
    have same := firstSegment_stretch spds neighbours lower upper
    rw [← truncateU8_le_hundred]
    apply speeds temperature _
    rw [← same, Option.mem_def.mp found]

theorem StepInPercent.speeds (bounded : StepInPercent tmps spds) {id : String} (nonempty : tmps = first :: rest)
    (equal : tmps.length = spds.length) :
    (CurveCfg.stepCurve id (tmps.map F32.fin) spds).SpeedsInPercent := by
  intro temperature speed computed
  rw [calculateSpeed_step_exact nonempty equal] at computed
  cases found : firstSegment temperature tmps spds with
  | none =>
      simp only [found] at computed
      split at computed
      · rename_i outer chosen
        cases computed
        split at chosen
        · exact bounded.before speed chosen
        · exact bounded.after speed chosen
      · contradiction
  | some segment =>
      simp only [found, Except.ok.injEq] at computed
      obtain ⟨lower, upper, above, below⟩ := firstSegment_mem found
      obtain ⟨left, leftMem, right, rightMem, start, finish, neighbours⟩ :=
        List.exists_neighbours lower upper above below
      have same := firstSegment_stretch spds neighbours start finish
      have line := bounded.between left leftMem right rightMem (start.trans_lt finish) neighbours segment
        (by rw [same, found]; rfl)
      rw [← computed, truncateU8_le_hundred]
      exact (Segment.speedAt_lt_iff (start.trans_lt finish)).mpr line temperature start finish

theorem firstSegment_speeds {temperature : ℚ} {segment : Segment}
    (found : firstSegment temperature tmps spds = some segment) :
    segment.slow ∈ spds ∧ segment.fast ∈ spds := by
  fun_induction firstSegment temperature tmps spds with
  | case1 low high tmps slow fast spds inside =>
      cases found
      exact ⟨by simp, by simp⟩
  | case2 low high tmps slow fast spds outside ih =>
      obtain ⟨slower, faster⟩ := ih found
      exact ⟨.tail _ slower, .tail _ faster⟩
  | case3 tmps spds short => contradiction

theorem Segment.speedAt_le {segment : Segment} {temperature : ℚ} (slow : segment.slow ≤ 100)
    (fast : segment.fast ≤ 100) (above : segment.low ≤ temperature) (below : temperature ≤ segment.high)
    (apart : segment.low < segment.high) : segment.speedAt temperature ≤ 100 := by
  have length : 0 < segment.high - segment.low := by linarith
  have nonneg : 0 ≤ (temperature - segment.low) / (segment.high - segment.low) :=
    div_nonneg (by linarith) length.le
  have proper : (temperature - segment.low) / (segment.high - segment.low) ≤ 1 :=
    (div_le_one length).mpr (by linarith)
  have slow' : (segment.slow.toNat : ℚ) ≤ 100 := by exact_mod_cast UInt8.le_iff_toNat_le.mp slow
  have fast' : (segment.fast.toNat : ℚ) ≤ 100 := by exact_mod_cast UInt8.le_iff_toNat_le.mp fast
  unfold Segment.speedAt
  nlinarith

/-- Speeds that are percentages stay so between the temperatures. -/
theorem StepInPercent.of_forall (percent : ∀ speed ∈ spds, speed ≤ 100) : StepInPercent tmps spds := by
  constructor
  · exact fun speed head => percent speed (List.mem_of_head? head)
  · exact fun speed last => percent speed (List.mem_of_getLast? last)
  · intro left leftMem right rightMem apart neighbours segment found
    obtain ⟨slow, fast⟩ := firstSegment_speeds (Option.mem_def.mp found)
    obtain ⟨-, upper, above, below⟩ := firstSegment_mem (Option.mem_def.mp found)
    have inside : right ≤ segment.high := (neighbours _ upper).resolve_left (not_le.mpr below)
    have bound {temperature : ℚ} (lower : left ≤ temperature) (higher : temperature ≤ right) :
        segment.speedAt temperature ≤ 100 :=
      Segment.speedAt_le (percent _ slow) (percent _ fast) (above.trans lower) (higher.trans inside)
        (above.trans_lt below)
    exact ⟨(bound (le_refl _) apart.le).trans_lt (by norm_num),
      (bound apart.le (le_refl _)).trans (by norm_num)⟩

end Steps

theorem clampedSpeed_le_hundred (y : F32) : clampedSpeed y ≤ 100 := by
  have small (x : ℚ) (below : x < 101) : toU8 (F32.fin x) ≤ 100 := (truncateU8_le_hundred x).mpr below
  unfold clampedSpeed clamp
  cases y with
  | nan => decide
  | negInf => exact small 0 (by norm_num)
  | posInf => exact small 100 (by norm_num)
  | fin x =>
      simp only [F32.ofRat_eq, F32.lt_fin, decide_eq_true_eq]
      split
      · exact small 0 (by norm_num)
      · split
        · exact small 100 (by norm_num)
        · exact small x (by linarith)

theorem bezier_speedsInPercent (id : String) (points : List (Point F32)) :
    (CurveCfg.bezier id points).SpeedsInPercent := by
  intro temperature speed computed
  obtain ⟨p0, p1, p2, p3, rfl⟩ := four_points_of_ok computed
  simp only [CurveCfg.calculateSpeed] at computed
  split at computed
  · contradiction
  · split at computed
    · split at computed
      · cases computed
        exact clampedSpeed_le_hundred _
      · split at computed <;> cases computed <;> exact clampedSpeed_le_hundred _
    · contradiction

def CurveCfg.BoundedToPercent : CurveCfg ℚ → Prop
  | .constant _ speed => speed ≤ 100
  | .stepCurve _ tmps spds => tmps.length = spds.length → StepInPercent tmps spds
  | .bezier _ _ => True

theorem speedsInPercent_iff (curve : CurveCfg ℚ) :
    (curve.mapNumbers F32.fin).SpeedsInPercent ↔ curve.BoundedToPercent := by
  cases curve with
  | constant id speed =>
      constructor
      · exact fun percent => percent 0 speed rfl
      · intro bounded temperature other computed
        cases computed
        exact bounded
  | bezier id points => exact iff_of_true (bezier_speedsInPercent id _) trivial
  | stepCurve id tmps spds =>
      by_cases equal : tmps.length = spds.length
      · cases tmps with
        | nil =>
            obtain rfl : spds = [] := List.length_eq_zero_iff.mp equal.symm
            exact iff_of_true (fun _ _ computed => nomatch computed)
              fun _ => ⟨by simp, by simp, by simp⟩
        | cons first rest =>
            exact ⟨fun percent _ => .of_speeds rfl equal percent, fun bounded => (bounded equal).speeds rfl equal⟩
      · refine iff_of_true (fun temperature speed computed => ?_) fun same => absurd same equal
        simp [CurveCfg.mapNumbers, CurveCfg.calculateSpeed, equal] at computed

end TtRiingd
