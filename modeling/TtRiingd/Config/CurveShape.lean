import TtRiingd.Config.BezierSearch

/-!
# Shape of the curves

Curves whose configuration rises with the temperature rise themselves, and no curve leaves the range of
its configured speeds, whatever the order of its points.
-/

namespace TtRiingd
open FloatOps

/-! ## Rising Bezier curves -/

def ControlPoints.SortedY (pts : ControlPoints ℚ) : Prop :=
  pts.p0.y ≤ pts.p1.y ∧ pts.p1.y ≤ pts.p2.y ∧ pts.p2.y ≤ pts.p3.y

section Bezier
variable {pts : ControlPoints ℚ}

theorem ControlPoints.search_mono (pts : ControlPoints ℚ) {lower upper : ℚ} (ordered : lower ≤ upper) :
    (pts.search lower).1 ≤ (pts.search upper).1 :=
  Bisection.search_mono _ EPSILON ordered MAX_ITERATIONS (le_refl 0) zero_le_one

theorem computeBezierAtT_y_mono (sorted : pts.SortedY) {s t : ℚ} (nonneg : 0 ≤ s) (ordered : s ≤ t)
    (le_one : t ≤ 1) :
    (computeBezierAtT pts s).y ≤ (computeBezierAtT pts t).y := by
  rw [computeBezierAtT_y, computeBezierAtT_y]
  exact Bernstein.cubic_mono nonneg ordered le_one sorted.1 sorted.2.1 sorted.2.2

theorem le_computeBezierAtT_y (sorted : pts.SortedY) {t : ℚ} (nonneg : 0 ≤ t) (le_one : t ≤ 1) :
    pts.p0.y ≤ (computeBezierAtT pts t).y ∧ (computeBezierAtT pts t).y ≤ pts.p3.y := by
  have start := computeBezierAtT_y_mono sorted (le_refl 0) nonneg le_one
  have finish := computeBezierAtT_y_mono sorted nonneg le_one (le_refl 1)
  simp only [computeBezierAtT_y, Bernstein.cubic_zero, Bernstein.cubic_one] at start finish ⊢
  exact ⟨start, finish⟩

theorem bezier_monotone (sortedX : pts.SortedX) (sortedY : pts.SortedY) (id : String) {lower upper : ℚ}
    (ordered : lower ≤ upper) :
    ∃ slow fast, (CurveCfg.bezier id pts.toList).calculateSpeed lower = .ok slow ∧
      (CurveCfg.bezier id pts.toList).calculateSpeed upper = .ok fast ∧ slow ≤ fast := by
  refine ⟨_, _, bezier_sorted sortedX id lower, bezier_sorted sortedX id upper, ?_⟩
  obtain ⟨nonneg, le_one⟩ := pts.search_mem lower
  obtain ⟨nonneg', le_one'⟩ := pts.search_mem upper
  have between := le_computeBezierAtT_y sortedY nonneg le_one
  have between' := le_computeBezierAtT_y sortedY nonneg' le_one'
  by_cases before : lower ≤ pts.p0.x
  · rw [if_pos before]
    split
    · exact UInt8.le_refl _
    · split
      · exact clampedSpeed_mono (between'.1.trans between'.2)
      · exact clampedSpeed_mono between'.1
  · have before' : ¬ upper ≤ pts.p0.x := fun le => before (ordered.trans le)
    rw [if_neg before, if_neg before']
    by_cases after : pts.p3.x ≤ lower
    · rw [if_pos after, if_pos (after.trans ordered)]
      exact UInt8.le_refl _
    · rw [if_neg after]
      split
      · exact clampedSpeed_mono between.2
      · exact clampedSpeed_mono (computeBezierAtT_y_mono sortedY nonneg (pts.search_mono ordered) le_one')

end Bezier

theorem risingCurve_monotone :
    ∃ slow fast,
      (CurveCfg.bezier "cpu" [⟨30, 20⟩, ⟨50, 40⟩, ⟨50, 80⟩, ⟨90, 100⟩]).calculateSpeed (40 : ℚ) = .ok slow ∧
      (CurveCfg.bezier "cpu" [⟨30, 20⟩, ⟨50, 40⟩, ⟨50, 80⟩, ⟨90, 100⟩]).calculateSpeed (75 : ℚ) = .ok fast ∧
      slow ≤ fast :=
  @bezier_monotone ⟨⟨30, 20⟩, ⟨50, 40⟩, ⟨50, 80⟩, ⟨90, 100⟩⟩ ⟨by norm_num, by norm_num, by norm_num⟩
    ⟨by norm_num, by norm_num, by norm_num⟩ "cpu" 40 75 (by norm_num)

/-! ## Segments of a step curve -/

namespace Segment
variable (segment : Segment)

@[simp] theorem speedAt_low : segment.speedAt segment.low = segment.slow.toNat := by
  simp [speedAt]

theorem speedAt_high (apart : segment.low < segment.high) : segment.speedAt segment.high = segment.fast.toNat := by
  have ratio : (segment.high - segment.low) / (segment.high - segment.low) = 1 :=
    div_self (sub_pos.mpr apart).ne'
  simp [speedAt, ratio]

variable {segment} {lower upper : ℚ}

theorem ratio_le (apart : segment.low < segment.high) (ordered : lower ≤ upper) :
    (lower - segment.low) / (segment.high - segment.low) ≤
      (upper - segment.low) / (segment.high - segment.low) := by
  have length := sub_pos.mpr apart
  gcongr

theorem speedAt_rises (apart : segment.low < segment.high) (rising : segment.slow ≤ segment.fast)
    (ordered : lower ≤ upper) : segment.speedAt lower ≤ segment.speedAt upper := by
  have speeds : (segment.slow.toNat : ℚ) ≤ segment.fast.toNat := by
    exact_mod_cast UInt8.le_iff_toNat_le.mp rising
  have ratio := ratio_le apart ordered
  unfold speedAt
  nlinarith only [speeds, ratio]

theorem speedAt_falls (apart : segment.low < segment.high) (falling : segment.fast ≤ segment.slow)
    (ordered : lower ≤ upper) : segment.speedAt upper ≤ segment.speedAt lower := by
  have speeds : (segment.fast.toNat : ℚ) ≤ segment.slow.toNat := by
    exact_mod_cast UInt8.le_iff_toNat_le.mp falling
  have ratio := ratio_le apart ordered
  unfold speedAt
  nlinarith only [speeds, ratio]

def Between (segment : Segment) (speed : UInt8) : Prop :=
  segment.slow ≤ speed ∧ speed ≤ segment.fast ∨ segment.fast ≤ speed ∧ speed ≤ segment.slow

theorem truncate_between {temperature : ℚ} (above : segment.low ≤ temperature)
    (below : temperature < segment.high) :
    segment.Between (truncateU8 (segment.speedAt temperature)) := by
  have apart := above.trans_lt below
  have slow : truncateU8 (segment.speedAt segment.low) = segment.slow := by
    rw [speedAt_low, truncateU8_speed]
  have fast : truncateU8 (segment.speedAt segment.high) = segment.fast := by
    rw [speedAt_high segment apart, truncateU8_speed]
  rcases UInt8.le_total segment.slow segment.fast with rising | falling
  · left
    have lower := truncateU8_mono (speedAt_rises apart rising above)
    have upper := truncateU8_mono (speedAt_rises apart rising below.le)
    exact ⟨slow ▸ lower, fast ▸ upper⟩
  · right
    have lower := truncateU8_mono (speedAt_falls apart falling below.le)
    have upper := truncateU8_mono (speedAt_falls apart falling above)
    exact ⟨fast ▸ lower, slow ▸ upper⟩

end Segment

/-! ## Rising step curves -/

theorem stepCurve_calculateSpeed {tmps : List ℚ} {spds : List UInt8} (id : String) {first : ℚ} {rest : List ℚ}
    (nonempty : tmps = first :: rest) (equal : tmps.length = spds.length) (temperature : ℚ) :
    (CurveCfg.stepCurve id tmps spds).calculateSpeed temperature =
      match firstSegment temperature tmps spds with
      | some segment => .ok (truncateU8 (segment.speedAt temperature))
      | none =>
          match (if temperature < first then spds.head? else spds.getLast?) with
          | some speed => .ok speed
          | none => .error (.error (anyhow "Empty speeds vector")) := by
  rw [← calculateSpeed_fin]
  exact calculateSpeed_step_exact nonempty equal temperature

/-- What a step curve with rising temperatures returns. -/
def stepSpeed (temperature : ℚ) : List ℚ → List UInt8 → Option UInt8
  | low :: high :: tmps, slow :: fast :: spds =>
      if temperature < low then some slow
      else if temperature < high then some (truncateU8 (Segment.speedAt ⟨low, high, slow, fast⟩ temperature))
      else stepSpeed temperature (high :: tmps) (fast :: spds)
  | _, spds => spds.head?

theorem stepSpeed_eq {temperature : ℚ} {tmps : List ℚ} {spds : List UInt8} {first : ℚ} {rest : List ℚ}
    (nonempty : tmps = first :: rest) (equal : tmps.length = spds.length) (sorted : tmps.Pairwise (· ≤ ·)) :
    (match firstSegment temperature tmps spds with
      | some segment => some (truncateU8 (segment.speedAt temperature))
      | none => if temperature < first then spds.head? else spds.getLast?) = stepSpeed temperature tmps spds := by
  fun_induction stepSpeed temperature tmps spds generalizing first rest with
  | case1 low high tmps slow fast spds before =>
      cases nonempty
      have below : ∀ mark ∈ low :: high :: tmps, temperature < mark := by
        intro mark member
        rcases List.mem_cons.mp member with rfl | later
        · exact before
        · exact before.trans_le (List.rel_of_pairwise_cons sorted later)
      rw [firstSegment_below below, if_pos before]
      rfl
  | case2 low high tmps slow fast spds above inside =>
      rw [firstSegment, if_pos ⟨not_lt.mp above, inside⟩]
  | case3 low high tmps slow fast spds above beyond ih =>
      cases nonempty
      rw [← ih rfl (by simpa using equal) sorted.of_cons, firstSegment, if_neg fun inside => beyond inside.2,
        if_neg above, if_neg beyond, List.getLast?_cons_cons]
  | case4 tmps spds short =>
      have few := length_le_one_of_short short
      rw [firstSegment_short temperature few]
      have one : spds.length = 1 := by
        rw [nonempty, List.length_cons] at equal few
        omega
      obtain ⟨slow, rfl⟩ := List.length_eq_one_iff.mp one
      exact ite_self _

section Rising
variable {tmps : List ℚ} {spds : List UInt8}

theorem head_le_stepSpeed {temperature : ℚ} {slow speed : UInt8} (rising : spds.Pairwise (· ≤ ·))
    (head : spds.head? = some slow) (returned : stepSpeed temperature tmps spds = some speed) : slow ≤ speed := by
  fun_induction stepSpeed temperature tmps spds generalizing slow with
  | case1 low high tmps first fast spds before =>
      cases head
      cases returned
      exact UInt8.le_refl _
  | case2 low high tmps first fast spds above inside =>
      cases head
      cases returned
      have le : first ≤ fast := List.rel_of_pairwise_cons rising (by simp)
      have apart : low < high := (not_lt.mp above).trans_lt inside
      have rises := truncateU8_mono
        (@Segment.speedAt_rises ⟨low, high, first, fast⟩ _ _ apart le (not_lt.mp above))
      rwa [Segment.speedAt_low, truncateU8_speed] at rises
  | case3 low high tmps first fast spds above beyond ih =>
      cases head
      exact UInt8.le_trans (List.rel_of_pairwise_cons rising (by simp)) (ih rising.of_cons rfl returned)
  | case4 tmps spds short =>
      rw [head] at returned
      cases returned
      exact UInt8.le_refl _

theorem stepSpeed_mono {lower upper : ℚ} {slow fast : UInt8} (sorted : tmps.Pairwise (· ≤ ·))
    (rising : spds.Pairwise (· ≤ ·)) (ordered : lower ≤ upper) (before : stepSpeed lower tmps spds = some slow)
    (after : stepSpeed upper tmps spds = some fast) : slow ≤ fast := by
  fun_induction stepSpeed lower tmps spds with
  | case1 low high tmps first second spds below =>
      cases before
      exact head_le_stepSpeed rising rfl after
  | case2 low high tmps first second spds above inside =>
      cases before
      have apart : low < high := (not_lt.mp above).trans_lt inside
      have le : first ≤ second := List.rel_of_pairwise_cons rising (by simp)
      have rises {temperature : ℚ} (later : lower ≤ temperature) :=
        truncateU8_mono (@Segment.speedAt_rises ⟨low, high, first, second⟩ _ _ apart le later)
      rw [stepSpeed, if_neg fun less => above (ordered.trans_lt less)] at after
      split at after
      · cases after
        exact rises ordered
      · have end_of_segment := rises inside.le
        rw [Segment.speedAt_high _ apart, truncateU8_speed] at end_of_segment
        exact UInt8.le_trans end_of_segment (head_le_stepSpeed rising.of_cons rfl after)
  | case3 low high tmps first second spds above beyond ih =>
      rw [stepSpeed, if_neg fun less => above (ordered.trans_lt less),
        if_neg fun less => beyond (ordered.trans_lt less)] at after
      exact ih sorted.of_cons rising.of_cons before after
  | case4 tmps spds short =>
      exact head_le_stepSpeed rising before after

theorem exists_stepSpeed {first : ℚ} {rest : List ℚ} (temperature : ℚ) (nonempty : tmps = first :: rest)
    (equal : tmps.length = spds.length) : ∃ speed, stepSpeed temperature tmps spds = some speed := by
  fun_induction stepSpeed temperature tmps spds generalizing first rest with
  | case1 => exact ⟨_, rfl⟩
  | case2 => exact ⟨_, rfl⟩
  | case3 low high tmps slow fast spds above beyond ih => exact ih rfl (by simpa using equal)
  | case4 tmps spds short =>
      cases spds with
      | nil => simp [nonempty] at equal
      | cons slow spds => exact ⟨slow, rfl⟩

theorem stepCurve_sorted {first : ℚ} {rest : List ℚ} (id : String) (temperature : ℚ)
    (nonempty : tmps = first :: rest) (equal : tmps.length = spds.length) (sorted : tmps.Pairwise (· ≤ ·)) :
    ∃ speed, stepSpeed temperature tmps spds = some speed ∧
      (CurveCfg.stepCurve id tmps spds).calculateSpeed temperature = .ok speed := by
  obtain ⟨speed, returned⟩ := exists_stepSpeed temperature nonempty equal
  refine ⟨speed, returned, ?_⟩
  rw [← stepSpeed_eq nonempty equal sorted] at returned
  rw [stepCurve_calculateSpeed id nonempty equal]
  cases found : firstSegment temperature tmps spds with
  | some segment =>
      rw [found] at returned
      cases returned
      rfl
  | none =>
      rw [found] at returned
      simp only at returned ⊢
      rw [returned]

theorem stepCurve_monotone (nonempty : tmps ≠ []) (equal : tmps.length = spds.length)
    (sorted : tmps.Pairwise (· ≤ ·)) (rising : spds.Pairwise (· ≤ ·)) (id : String) {lower upper : ℚ}
    (ordered : lower ≤ upper) :
    ∃ slow fast, (CurveCfg.stepCurve id tmps spds).calculateSpeed lower = .ok slow ∧
      (CurveCfg.stepCurve id tmps spds).calculateSpeed upper = .ok fast ∧ slow ≤ fast := by
  obtain ⟨first, rest, shape⟩ := List.exists_cons_of_ne_nil nonempty
  obtain ⟨slow, before, ok⟩ := stepCurve_sorted id lower shape equal sorted
  obtain ⟨fast, after, ok'⟩ := stepCurve_sorted id upper shape equal sorted
  exact ⟨slow, fast, ok, ok', stepSpeed_mono sorted rising ordered before after⟩

end Rising

theorem risingSteps_monotone :
    ∃ slow fast, (CurveCfg.stepCurve "gpu" [30, 50, 50, 70] [20, 40, 60, 60]).calculateSpeed (35 : ℚ) = .ok slow ∧
      (CurveCfg.stepCurve "gpu" [30, 50, 50, 70] [20, 40, 60, 60]).calculateSpeed (50 : ℚ) = .ok fast ∧
      slow ≤ fast :=
  stepCurve_monotone (by simp) rfl (by norm_num) (by decide) "gpu" (by norm_num)

/-! ## Configured speeds -/

def CurveCfg.configuredSpeeds : CurveCfg ℚ → List UInt8
  | .constant _ speed => [speed]
  | .stepCurve _ _ spds => spds
  | .bezier _ points => points.map fun point => clampedSpeed point.y

/-- Between the smallest and the largest of the speeds. -/
def WithinSpeeds (speeds : List UInt8) (speed : UInt8) : Prop :=
  ∃ slowest ∈ speeds, ∃ fastest ∈ speeds, (∀ other ∈ speeds, slowest ≤ other ∧ other ≤ fastest) ∧
    slowest ≤ speed ∧ speed ≤ fastest

theorem WithinSpeeds.of_bounds {speeds : List UInt8} {speed low high : UInt8} (lowMem : low ∈ speeds)
    (highMem : high ∈ speeds) (above : low ≤ speed) (below : speed ≤ high) : WithinSpeeds speeds speed := by
  obtain ⟨slowest, slowMem, least⟩ := speeds.toFinset.exists_min_image UInt8.toNat
    ⟨low, List.mem_toFinset.mpr lowMem⟩
  obtain ⟨fastest, fastMem, greatest⟩ := speeds.toFinset.exists_max_image UInt8.toNat
    ⟨high, List.mem_toFinset.mpr highMem⟩
  simp only [List.mem_toFinset, ← UInt8.le_iff_toNat_le] at slowMem least fastMem greatest
  exact ⟨slowest, slowMem, fastest, fastMem, fun other member => ⟨least other member, greatest other member⟩,
    UInt8.le_trans (least low lowMem) above, UInt8.le_trans below (greatest high highMem)⟩

theorem WithinSpeeds.of_mem {speeds : List UInt8} {speed : UInt8} (member : speed ∈ speeds) :
    WithinSpeeds speeds speed :=
  .of_bounds member member (UInt8.le_refl _) (UInt8.le_refl _)

theorem Segment.Between.within {speeds : List UInt8} {segment : Segment} {speed : UInt8}
    (between : segment.Between speed) (slow : segment.slow ∈ speeds) (fast : segment.fast ∈ speeds) :
    WithinSpeeds speeds speed := by
  rcases between with ⟨above, below⟩ | ⟨above, below⟩
  · exact .of_bounds slow fast above below
  · exact .of_bounds fast slow above below

theorem bezier_point_within (pts : ControlPoints ℚ) {t : ℚ} (nonneg : 0 ≤ t) (le_one : t ≤ 1) :
    WithinSpeeds (pts.toList.map fun point => clampedSpeed point.y) (clampedSpeed (computeBezierAtT pts t).y) := by
  have nonempty : pts.toList.toFinset.Nonempty := ⟨pts.p0, by simp [ControlPoints.toList]⟩
  obtain ⟨lowest, lowMem, least⟩ := pts.toList.toFinset.exists_min_image Point.y nonempty
  obtain ⟨highest, highMem, greatest⟩ := pts.toList.toFinset.exists_max_image Point.y nonempty
  simp only [List.mem_toFinset] at lowMem least highMem greatest
  simp only [ControlPoints.toList, List.mem_cons, List.not_mem_nil, or_false, forall_eq_or_imp, forall_eq]
    at least greatest
  rw [computeBezierAtT_y]
  apply WithinSpeeds.of_bounds (List.mem_map_of_mem lowMem) (List.mem_map_of_mem highMem)
  · exact clampedSpeed_mono (Bernstein.le_cubic nonneg le_one least.1 least.2.1 least.2.2.1 least.2.2.2)
  · exact clampedSpeed_mono
      (Bernstein.cubic_le nonneg le_one greatest.1 greatest.2.1 greatest.2.2.1 greatest.2.2.2)

theorem bezier_within {id : String} {points : List (Point ℚ)} {temperature : ℚ} {speed : UInt8}
    (computed : (CurveCfg.bezier id points).calculateSpeed temperature = .ok speed) :
    WithinSpeeds (points.map fun point => clampedSpeed point.y) speed := by
  obtain ⟨p0, p1, p2, p3, rfl⟩ := four_points_of_ok computed
  obtain ⟨low, second, third, high, sorted, exact⟩ := bezier_calculateSpeed id p0 p1 p2 p3 temperature
  have control (point : Point ℚ) (member : point ∈ [low, second, third, high]) :
      WithinSpeeds ([p0, p1, p2, p3].map fun point => clampedSpeed point.y) (clampedSpeed point.y) := by
    rw [← sorted, List.mem_insertionSort] at member
    exact .of_mem (List.mem_map_of_mem member)
  rw [exact] at computed
  cases computed
  split
  · exact control low (by simp)
  · split
    · exact control high (by simp)
    · obtain ⟨nonneg, le_one⟩ := ControlPoints.search_mem ⟨p0, p1, p2, p3⟩ temperature
      rw [getSpeedForTemp_eq]
      exact bezier_point_within ⟨p0, p1, p2, p3⟩ nonneg le_one

def InInterval (tmps : List ℚ) (temperature : ℚ) (i : Nat) : Prop :=
  ∃ low ∈ tmps[i]?, ∃ high ∈ tmps[i + 1]?, low ≤ temperature ∧ temperature < high

theorem firstSegment_at {tmps : List ℚ} {spds : List UInt8} {temperature : ℚ} {i : Nat}
    (equal : tmps.length = spds.length) (inside : InInterval tmps temperature i)
    (first : ∀ j < i, ¬ InInterval tmps temperature j) :
    ∃ segment, firstSegment temperature tmps spds = some segment ∧ spds[i]? = some segment.slow ∧
      spds[i + 1]? = some segment.fast := by
  fun_induction firstSegment temperature tmps spds generalizing i with
  | case1 low high tmps slow fast spds here =>
      have start : i = 0 := by
        by_contra later
        exact first 0 (Nat.pos_of_ne_zero later) ⟨low, rfl, high, rfl, here⟩
      subst start
      exact ⟨_, rfl, rfl, rfl⟩
  | case2 low high tmps slow fast spds outside ih =>
      cases i with
      | zero =>
          obtain ⟨_, ⟨⟩, _, ⟨⟩, here⟩ := inside
          exact absurd here outside
      | succ i =>
          exact ih (by simpa using equal) inside fun j less => first (j + 1) (by omega)
  | case3 tmps spds short =>
      obtain ⟨low, lowMem, high, highMem, -⟩ := inside
      obtain ⟨bound, -⟩ := List.getElem?_eq_some_iff.mp highMem
      have few := length_le_one_of_short short
      omega

theorem stepCurve_ok {id : String} {tmps : List ℚ} {spds : List UInt8} {temperature : ℚ} {speed : UInt8}
    (computed : (CurveCfg.stepCurve id tmps spds).calculateSpeed temperature = .ok speed) :
    tmps.length = spds.length ∧ ∃ first rest, tmps = first :: rest := by
  by_cases equal : tmps.length = spds.length
  · cases tmps with
    | nil =>
        rw [List.length_nil] at equal
        simp [CurveCfg.calculateSpeed, ← equal] at computed
    | cons first rest => exact ⟨equal, first, rest, rfl⟩
  · simp [CurveCfg.calculateSpeed, equal] at computed

theorem stepCurve_within {id : String} {tmps : List ℚ} {spds : List UInt8} {temperature : ℚ} {speed : UInt8}
    (computed : (CurveCfg.stepCurve id tmps spds).calculateSpeed temperature = .ok speed) :
    WithinSpeeds spds speed := by
  obtain ⟨equal, first, rest, nonempty⟩ := stepCurve_ok computed
  rw [stepCurve_calculateSpeed id nonempty equal] at computed
  cases found : firstSegment temperature tmps spds with
  | some segment =>
      rw [found] at computed
      cases computed
      obtain ⟨slow, fast⟩ := firstSegment_speeds found
      obtain ⟨-, -, above, below⟩ := firstSegment_mem found
      exact (Segment.truncate_between above below).within slow fast
  | none =>
      simp only [found] at computed
      split at computed
      · rename_i outer chosen
        cases computed
        split at chosen
        · exact .of_mem (List.mem_of_head? chosen)
        · exact .of_mem (List.mem_of_getLast? chosen)
      · contradiction

theorem calculateSpeed_within (curve : CurveCfg ℚ) (temperature : ℚ) (speed : UInt8)
    (computed : curve.calculateSpeed temperature = .ok speed) :
    WithinSpeeds curve.configuredSpeeds speed ∧
      ∀ id tmps spds i, curve = .stepCurve id tmps spds → InInterval tmps temperature i →
        (∀ j < i, ¬ InInterval tmps temperature j) →
        ∃ slow ∈ spds[i]?, ∃ fast ∈ spds[i + 1]?,
          slow ≤ speed ∧ speed ≤ fast ∨ fast ≤ speed ∧ speed ≤ slow := by
  constructor
  · cases curve with
    | constant id constant =>
        cases computed
        exact .of_mem (List.mem_singleton.mpr rfl)
    | stepCurve id tmps spds => exact stepCurve_within computed
    | bezier id points => exact bezier_within computed
  · rintro id tmps spds i rfl inside first
    obtain ⟨equal, start, rest, nonempty⟩ := stepCurve_ok computed
    obtain ⟨segment, found, slow, fast⟩ := firstSegment_at equal inside first
    obtain ⟨-, -, above, below⟩ := firstSegment_mem found
    rw [stepCurve_calculateSpeed id nonempty equal, found] at computed
    cases computed
    exact ⟨segment.slow, slow, segment.fast, fast, Segment.truncate_between above below⟩

theorem unorderedSteps_within :
    let curve : CurveCfg ℚ := .stepCurve "gpu" [70, 30, 50] [40, 10, 90]
    curve.calculateSpeed 40 = .ok 50 ∧ WithinSpeeds curve.configuredSpeeds 50 ∧
      ∀ id tmps spds i, curve = .stepCurve id tmps spds → InInterval tmps 40 i →
        (∀ j < i, ¬ InInterval tmps 40 j) →
        ∃ slow ∈ spds[i]?, ∃ fast ∈ spds[i + 1]?, slow ≤ 50 ∧ 50 ≤ fast ∨ fast ≤ 50 ∧ 50 ≤ slow := by
  have computed : (CurveCfg.stepCurve "gpu" [70, 30, 50] [40, 10, 90]).calculateSpeed (40 : ℚ) = .ok 50 := by
    have halfway : Segment.speedAt ⟨30, 50, 10, 90⟩ 40 = ((50 : UInt8).toNat : ℚ) := by
      simp only [Segment.speedAt, UInt8.reduceToNat]
      norm_num
    have segment : firstSegment 40 [70, 30, 50] [40, 10, 90] = some ⟨30, 50, 10, 90⟩ := by
      norm_num [firstSegment]
    rw [stepCurve_calculateSpeed _ rfl rfl, segment]
    exact congrArg _ ((congrArg truncateU8 halfway).trans (truncateU8_speed 50))
  exact ⟨computed, calculateSpeed_within _ 40 50 computed⟩

end TtRiingd
