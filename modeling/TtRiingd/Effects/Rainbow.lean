import TtRiingd.Effects.EffectRunner
import Mathlib.Data.List.Pairwise

/-!
# The rainbow

The three channels of a hue are ramps around the colour wheel, so no two frames of a rainbow are further
apart than the time between them allows, also where one turn ends and the next begins.
-/

namespace TtRiingd
open FloatOps Wheel

namespace F32

theorem truncRem_of_floor {a b : ℚ} (positive : 0 < b) (turns : ℕ) (low : turns * b ≤ a)
    (high : a < (turns + 1) * b) : truncRem a b = a - b * turns := by
  have nonneg : 0 ≤ a / b := (div_nonneg (mul_nonneg (Nat.cast_nonneg turns) positive.le) positive.le).trans
    (div_le_div_of_nonneg_right low positive.le)
  have floor : ⌊a / b⌋ = turns :=
    Int.floor_eq_iff.mpr ⟨by exact_mod_cast (le_div_iff₀ positive).mpr low,
      by exact_mod_cast (div_lt_iff₀ positive).mpr high⟩
  rw [truncRem, if_pos nonneg, floor, Int.cast_natCast]

theorem truncRem_one {a : ℚ} (nonneg : 0 ≤ a) : truncRem a 1 = Int.fract a := by
  rw [truncRem, div_one, if_pos nonneg, one_mul, Int.self_sub_floor]

@[simp] theorem rem_fin {a b : ℚ} (nonzero : b ≠ 0) : (fin a).rem (fin b) = fin (truncRem a b) := if_neg nonzero

@[simp] theorem round_fin (a : ℚ) : (fin a).round = fin (roundAway a) := rfl

@[simp] theorem abs_fin (a : ℚ) : FloatOps.abs (fin a) = fin |a| := by
  rw [FloatOps.abs, ofRat_eq, lt_fin]
  by_cases negative : a < 0
  · rw [if_pos (decide_eq_true negative), fin_sub, zero_sub, abs_of_neg negative]
  · rw [if_neg (by simpa using negative), abs_of_nonneg (not_lt.mp negative)]

theorem toU32_le {a : ℚ} (nonneg : 0 ≤ a) (small : a < 360) {bound : UInt32} :
    (fin a).toU32 ≤ bound ↔ a < bound.toNat + 1 := by
  have floor : ⌊a⌋ < 360 := Int.floor_lt.mpr (by exact_mod_cast small)
  have floor_nonneg : 0 ≤ ⌊a⌋ := Int.floor_nonneg.mpr nonneg
  have cast : (fin a).toU32 = UInt32.ofNat ⌊a⌋.toNat := by
    rw [toU32, if_neg nonneg.not_gt, if_neg (by linarith)]
  have number : (UInt32.ofNat ⌊a⌋.toNat).toNat = ⌊a⌋.toNat :=
    UInt32.toNat_ofNat_of_lt' (by change _ < 4294967296; omega)
  have below : ⌊a⌋ < bound.toNat + 1 ↔ a < bound.toNat + 1 := by
    exact_mod_cast (Int.floor_lt : ⌊a⌋ < (bound.toNat + 1 : ℤ) ↔ _)
  rw [cast, UInt32.le_iff_toNat_le, number, ← below]
  omega

end F32

/-! ## A hue -/

/-- The hue is `6 * turn` sixths of a turn. A component grows for a sixth, is full for two around its centre,
and fades for a sixth. -/
def component (center turn : ℚ) : ℚ := ramp (2 - |6 * turn - center|)

-- Red is the only component that is full where a turn ends: it is what is missing around its opposite.
def redAt (turn : ℚ) : ℚ := 1 - component 3 turn

def greenAt (turn : ℚ) : ℚ := component 2 turn

def blueAt (turn : ℚ) : ℚ := component 4 turn

section Sixths
variable {center turn : ℚ}

theorem component_before (early : 6 * turn ≤ center - 2) : component center turn = 0 := by
  apply ramp_of_nonpos
  rw [abs_of_nonpos (by linarith)]
  linarith

theorem component_rising (low : center - 2 ≤ 6 * turn) (high : 6 * turn ≤ center - 1) :
    component center turn = 6 * turn - (center - 2) := by
  rw [component, abs_of_nonpos (by linarith), ramp_of_mem (by linarith) (by linarith)]
  ring

theorem component_full (low : center - 1 ≤ 6 * turn) (high : 6 * turn ≤ center + 1) : component center turn = 1 := by
  have near : |6 * turn - center| ≤ 1 := abs_le.mpr ⟨by linarith, by linarith⟩
  exact ramp_of_one_le (by linarith)

theorem component_falling (low : center + 1 ≤ 6 * turn) (high : 6 * turn ≤ center + 2) :
    component center turn = center + 2 - 6 * turn := by
  rw [component, abs_of_nonneg (by linarith), ramp_of_mem (by linarith) (by linarith)]
  ring

theorem component_after (late : center + 2 ≤ 6 * turn) : component center turn = 0 := by
  apply ramp_of_nonpos
  rw [abs_of_nonneg (by linarith)]
  linarith

theorem component_closed (low : 2 ≤ center) (high : center ≤ 4) : Closed 6 (component center) := by
  constructor
  · intro x _ y _
    calc |component center x - component center y|
        ≤ |(2 - |6 * x - center|) - (2 - |6 * y - center|)| := ramp_steady _ _
      _ = |(|6 * y - center|) - (|6 * x - center|)| := by rw [sub_sub_sub_cancel_left]
      _ ≤ |(6 * y - center) - (6 * x - center)| := abs_abs_sub_abs_le_abs_sub _ _
      _ = |6 * (y - x)| := by rw [sub_sub_sub_cancel_right, mul_sub]
      _ = 6 * |x - y| := by rw [abs_mul, abs_of_pos (by norm_num : (0 : ℚ) < 6), abs_sub_comm]
  · rw [component_before (by linarith), component_after (by linarith)]

theorem component_mem (center turn : ℚ) : component center turn ∈ Set.Icc (0 : ℚ) 1 := ramp_mem _

end Sixths

theorem redAt_closed : Closed 6 redAt := (component_closed (by norm_num) (by norm_num)).complement 1

theorem redAt_mem (turn : ℚ) : redAt turn ∈ Set.Icc (0 : ℚ) 1 := by
  have opposite := component_mem 3 turn
  exact ⟨sub_nonneg.mpr opposite.2, sub_le_self 1 opposite.1⟩

theorem greenAt_closed : Closed 6 greenAt := component_closed le_rfl (by norm_num)

theorem blueAt_closed : Closed 6 blueAt := component_closed (by norm_num) le_rfl

def level (value : ℚ) : UInt8 := truncateU8 (F32.roundAway (value * 255))

def hueRgb (turn : ℚ) : Rgb := ⟨level (redAt turn), level (greenAt turn), level (blueAt turn)⟩

/-- The second largest component, where it lies `offset` from the full one of its pair of sixths. -/
def secondAt (turn : ℚ) : ℚ := 1 - |F32.truncRem (6 * turn) 2 - 1|

theorem secondAt_rising {turn start : ℚ} (pair : ℕ) (even : start = pair * 2) (low : start ≤ 6 * turn)
    (high : 6 * turn < start + 1) : secondAt turn = 6 * turn - start := by
  subst even
  rw [secondAt, F32.truncRem_of_floor two_pos pair low (by linarith), abs_of_nonpos (by linarith)]
  ring

theorem secondAt_falling {turn start : ℚ} (pair : ℕ) (even : start = pair * 2) (low : start + 1 ≤ 6 * turn)
    (high : 6 * turn < start + 2) : secondAt turn = start + 2 - 6 * turn := by
  subst even
  rw [secondAt, F32.truncRem_of_floor two_pos pair (by linarith) (by linarith),
    abs_of_nonneg (by linarith)]
  ring

theorem hueColor_eq {turn : ℚ} (nonneg : 0 ≤ turn) (small : turn < 1) :
    hueColor (F32.fin (turn * 360)).toU32 (.fin 1) (.fin (secondAt turn)) =
      (.fin (redAt turn), .fin (greenAt turn), .fin (blueAt turn)) := by
  have sector (bound : UInt32) (sixth : ℕ) (degrees : bound.toNat + 1 = sixth * 60) :
      (F32.fin (turn * 360)).toU32 ≤ bound ↔ 6 * turn < sixth := by
    have degrees : (bound.toNat : ℚ) + 1 = sixth * 60 := by exact_mod_cast degrees
    have scaled : turn * 360 = 6 * turn * 60 := by ring
    rw [F32.toU32_le (by linarith) (by linarith), degrees, scaled]
    exact mul_lt_mul_iff_left₀ (by norm_num)
  simp only [hueColor, sector 59 1 rfl, sector 119 2 rfl, sector 179 3 rfl, sector 239 4 rfl, sector 299 5 rfl,
    Nat.cast_ofNat, Nat.cast_one, F32.ofRat_eq, redAt, greenAt, blueAt]
  split_ifs with one two three four five
  · have second := secondAt_rising 0 (by norm_num : (0 : ℚ) = _) (by linarith) (by linarith)
    rw [component_before (by linarith), component_rising (by linarith) (by linarith), component_before (by linarith),
      second]
    norm_num
  · have second := secondAt_falling 0 (by norm_num : (0 : ℚ) = _) (by linarith) (by linarith)
    rw [component_rising (by linarith) (by linarith), component_full (by linarith) (by linarith),
      component_before (by linarith), second]
    norm_num
    ring
  · have second := secondAt_rising 1 (by norm_num : (2 : ℚ) = _) (by linarith) (by linarith)
    rw [component_full (by linarith) (by linarith), component_full (by linarith) (by linarith),
      component_rising (by linarith) (by linarith), second]
    norm_num
  · have second := secondAt_falling 1 (by norm_num : (2 : ℚ) = _) (by linarith) (by linarith)
    rw [component_full (by linarith) (by linarith), component_falling (by linarith) (by linarith),
      component_full (by linarith) (by linarith), second]
    norm_num
  · have second := secondAt_rising 2 (by norm_num : (4 : ℚ) = _) (by linarith) (by linarith)
    rw [component_falling (by linarith) (by linarith), component_after (by linarith),
      component_full (by linarith) (by linarith), second]
    norm_num
    ring
  · have second := secondAt_falling 2 (by norm_num : (4 : ℚ) = _) (by linarith) (by linarith)
    rw [component_after (by linarith), component_after (by linarith), component_falling (by linarith) (by linarith),
      second]
    norm_num

theorem hsvToRgb_turn {turn : ℚ} (nonneg : 0 ≤ turn) (small : turn < 1) :
    hsvToRgb (.fin (turn * 360)) (.fin 1) (.fin 1) = hueRgb turn := by
  have whole : F32.truncRem (turn * 360) 360 = turn * 360 := by
    rw [F32.truncRem_of_floor (by norm_num) 0 (by push_cast; linarith) (by push_cast; linarith)]
    norm_num
  have sixths : turn * 360 / 60 = 6 * turn := by ring
  have second : (1 : ℚ) * 1 * (1 - |F32.truncRem (6 * turn) 2 - 1|) = secondAt turn := by rw [secondAt, one_mul, one_mul]
  simp only [hsvToRgb, F32.ofRat_eq, F32.rem_fin (by norm_num : (360 : ℚ) ≠ 0), whole,
    F32.fin_div _ _ (by norm_num : (60 : ℚ) ≠ 0), sixths, F32.rem_fin (by norm_num : (2 : ℚ) ≠ 0), F32.fin_sub,
    F32.abs_fin, F32.fin_mul, second]
  rw [mul_one, hueColor_eq nonneg small]
  simp only [F32.fin_add, F32.fin_mul, F32.round_fin, F32.toU8_fin, sub_self, add_zero]
  rfl

/-! ## Levels -/

theorem roundAway_mono {a b : ℚ} (nonneg : 0 ≤ a) (ordered : a ≤ b) : F32.roundAway a ≤ F32.roundAway b := by
  rw [F32.roundAway, if_pos nonneg, F32.roundAway, if_pos (nonneg.trans ordered)]
  exact Int.floor_mono (by linarith)

theorem level_toNat {value : ℚ} (nonneg : 0 ≤ value) (small : value ≤ 1) :
    ((level value).toNat : ℤ) = ⌊value * 255 + 1 / 2⌋ := by
  have low : 0 ≤ ⌊value * 255 + 1 / 2⌋ := Int.floor_nonneg.mpr (by linarith)
  have high : ⌊value * 255 + 1 / 2⌋ < 256 := Int.floor_lt.mpr (by push_cast; linarith)
  rw [level, truncateU8_toNat, F32.roundAway, if_pos (by linarith), Int.floor_intCast]
  omega

theorem level_near {first second : ℚ} (first_nonneg : 0 ≤ first) (first_le : first ≤ 1) (second_nonneg : 0 ≤ second)
    (second_le : second ≤ 1) :
    |((level first).toNat : ℚ) - (level second).toNat| ≤ 255 * |first - second| + 1 := by
  have one : ((level first).toNat : ℚ) = ⌊first * 255 + 1 / 2⌋ := by exact_mod_cast level_toNat first_nonneg first_le
  have two : ((level second).toNat : ℚ) = ⌊second * 255 + 1 / 2⌋ := by
    exact_mod_cast level_toNat second_nonneg second_le
  have one_le := Int.floor_le (first * 255 + 1 / 2)
  have one_lt := Int.lt_floor_add_one (first * 255 + 1 / 2)
  have two_le := Int.floor_le (second * 255 + 1 / 2)
  have two_lt := Int.lt_floor_add_one (second * 255 + 1 / 2)
  have above := le_abs_self (first - second)
  have below := neg_abs_le (first - second)
  rw [one, two]
  exact abs_le.mpr ⟨by linarith, by linarith⟩

theorem level_one : level 1 = 255 := by
  have whole := level_toNat zero_le_one (le_refl (1 : ℚ))
  norm_num at whole
  exact UInt8.toNat_inj.mp (by exact_mod_cast whole)

theorem level_zero : level 0 = 0 := by
  have none := level_toNat (le_refl (0 : ℚ)) zero_le_one
  norm_num at none
  exact UInt8.toNat_inj.mp none

/-- The largest difference of the channels of two colours. -/
def Rgb.distance (first second : Rgb) : ℚ :=
  max |(first.red.toNat : ℚ) - second.red.toNat|
    (max |(first.green.toNat : ℚ) - second.green.toNat| |(first.blue.toNat : ℚ) - second.blue.toNat|)

def Rgb.parts : List (Rgb → UInt8) := [Rgb.red, Rgb.green, Rgb.blue]

def Rgb.Has (rgb : Rgb) (value : UInt8) : Prop := ∃ channel ∈ Rgb.parts, channel rgb = value

/-- One channel is full and one is off. -/
def Rgb.Vivid (rgb : Rgb) : Prop := rgb.Has 255 ∧ rgb.Has 0

theorem hueRgb_vivid (turn : ℚ) : (hueRgb turn).Vivid := by
  have red (value : ℚ) (same : redAt turn = value) : (hueRgb turn).Has (level value) :=
    ⟨Rgb.red, by simp [Rgb.parts], by rw [hueRgb, same]⟩
  have green (value : ℚ) (same : greenAt turn = value) : (hueRgb turn).Has (level value) :=
    ⟨Rgb.green, by simp [Rgb.parts], by rw [hueRgb, same]⟩
  have blue (value : ℚ) (same : blueAt turn = value) : (hueRgb turn).Has (level value) :=
    ⟨Rgb.blue, by simp [Rgb.parts], by rw [hueRgb, same]⟩
  unfold Rgb.Vivid
  rw [← level_one, ← level_zero]
  constructor
  · -- Red around the ends of the turn, green in its second and third sixths, blue in the next two.
    rcases le_total (6 * turn) 1 with early | later
    · exact red 1 (by rw [redAt, component_before (by linarith), sub_zero])
    · rcases le_total (6 * turn) 3 with early | later
      · exact green 1 (component_full (by linarith) (by linarith))
      · rcases le_total (6 * turn) 5 with early | later
        · exact blue 1 (component_full (by linarith) (by linarith))
        · exact red 1 (by rw [redAt, component_after (by linarith), sub_zero])
  · rcases le_total (6 * turn) 2 with early | later
    · exact blue 0 (component_before (by linarith))
    · rcases le_total (6 * turn) 4 with early | later
      · exact red 0 (by rw [redAt, component_full (by linarith) (by linarith), sub_self])
      · exact green 0 (component_after (by linarith))

theorem hueRgb_distance (first second : ℚ) :
    (hueRgb (Int.fract first)).distance (hueRgb (Int.fract second)) ≤ 1530 * |first - second| + 1 := by
  have channel {value : ℚ → ℚ} (closed : Closed 6 value) (inside : ∀ turn, value turn ∈ Set.Icc (0 : ℚ) 1) :
      |((level (value (Int.fract first))).toNat : ℚ) - (level (value (Int.fract second))).toNat| ≤
        1530 * |first - second| + 1 := by
    have rounded := level_near (inside (Int.fract first)).1 (inside (Int.fract first)).2 (inside (Int.fract second)).1
      (inside (Int.fract second)).2
    have around := closed.around first second
    linarith
  exact max_le (channel redAt_closed redAt_mem)
    (max_le (channel greenAt_closed (component_mem 2)) (channel blueAt_closed (component_mem 4)))

/-! ## Frames of one stream -/

namespace EffectRunner
variable (sin : F32 → F32)

theorem RgbStream.frames_eq (stream : RgbStream) (polls : List Poll) :
    ∃ start, stream.frames sin polls =
      polls.map fun poll => (poll.read, colorAt sin (poll.read - start) stream.runner) := by
  have started (runner : EffectRunner) (start : Nat) (polls : List Poll) :
      (RgbStream.mk runner (some start)).frames sin polls =
        polls.map fun poll => (poll.read, colorAt sin (poll.read - start) runner) := by
    induction polls with
    | nil => rfl
    | cons poll later keeps => exact congrArg (_ :: ·) keeps
  obtain ⟨runner, _ | start⟩ := stream
  · cases polls with
    | nil => exact ⟨0, rfl⟩
    | cons poll later => exact ⟨poll.now, congrArg (_ :: ·) (started runner poll.now later)⟩
  · exact ⟨start, started runner start polls⟩

theorem progress_eq {period : Nat} (positive : 0 < period) (elapsed : Nat) :
    progress elapsed period = .fin (Int.fract (elapsed / 1000000000 / period)) := by
  have nonzero : (period : ℚ) ≠ 0 := by exact_mod_cast positive.ne'
  have nonneg : (0 : ℚ) ≤ elapsed / 1000000000 / period := by positivity
  rw [progress, asSecs, F32.ofRat_eq, F32.ofRat_eq, F32.ofRat_eq, F32.fin_div _ _ nonzero,
    F32.rem_fin one_ne_zero, F32.truncRem_one nonneg]

/-- A period of zero divides by zero. -/
theorem progress_zero (elapsed : Nat) : progress elapsed 0 = .nan := by
  have infinite : F32.infinity ((elapsed : ℚ) / 1000000000) = .posInf ∨
      F32.infinity ((elapsed : ℚ) / 1000000000) = .nan := by
    unfold F32.infinity
    split_ifs with positive negative
    · exact .inl rfl
    · exact absurd negative (not_lt.mpr (by positivity))
    · exact .inr rfl
  have quotient : asSecs elapsed / ofRat ((0 : Nat) : ℚ) = F32.infinity ((elapsed : ℚ) / 1000000000) := by
    rw [Nat.cast_zero]
    rfl
  rw [progress, quotient]
  rcases infinite with infinite | infinite
  · rw [infinite]
    rfl
  · rw [infinite]
    rfl

theorem colorAt_rainbow {period : Nat} (positive : 0 < period) (elapsed : Nat) :
    colorAt sin elapsed (.rainbow period) = hueRgb (Int.fract (elapsed / 1000000000 / period)) := by
  rw [colorAt, progress_eq positive, F32.ofRat_eq, F32.ofRat_eq, F32.fin_mul]
  exact hsvToRgb_turn (Int.fract_nonneg _) (Int.fract_lt_one _)

theorem colorAt_rainbow_zero (elapsed : Nat) : colorAt sin elapsed (.rainbow 0) = ⟨255, 0, 0⟩ := by
  rw [colorAt, progress_zero]
  decide +kernel

theorem colorAt_rainbow_vivid (period elapsed : Nat) : (colorAt sin elapsed (.rainbow period)).Vivid := by
  rcases Nat.eq_zero_or_pos period with rfl | positive
  · rw [colorAt_rainbow_zero]
    exact ⟨⟨Rgb.red, List.mem_cons_self, rfl⟩, ⟨Rgb.green, by simp [Rgb.parts], rfl⟩⟩
  · rw [colorAt_rainbow sin positive]
    exact hueRgb_vivid _

/-- The clock may stand before the start, where `elapsed` saturates. -/
theorem elapsed_near (first second start : Nat) :
    |((first - start : Nat) : ℚ) - (second - start : Nat)| ≤ |(first : ℚ) - second| := by
  have saturated (clock : Nat) : ((clock - start : Nat) : ℚ) = max ((clock : ℚ) - start) 0 := by
    rcases le_total start clock with after | before
    · rw [Nat.cast_sub after, max_eq_left (sub_nonneg.mpr (by exact_mod_cast after))]
    · rw [Nat.sub_eq_zero_of_le before, Nat.cast_zero, max_eq_right (sub_nonpos.mpr (by exact_mod_cast before))]
  calc |((first - start : Nat) : ℚ) - (second - start : Nat)|
      = |max ((first : ℚ) - start) 0 - max ((second : ℚ) - start) 0| := by rw [saturated, saturated]
    _ ≤ |((first : ℚ) - start) - (second - start)| := abs_max_sub_max_le_abs _ _ _
    _ = |(first : ℚ) - second| := by rw [sub_sub_sub_cancel_right]

theorem colorAt_rainbow_distance (period first second : Nat) :
    (colorAt sin first (.rainbow period)).distance (colorAt sin second (.rainbow period)) * (period * 1000000000) ≤
      1530 * |(first : ℚ) - second| + period * 1000000000 := by
  rcases Nat.eq_zero_or_pos period with zero | positive
  · rw [zero, Nat.cast_zero, zero_mul, mul_zero, add_zero]
    positivity
  · have scale : (0 : ℚ) < period * 1000000000 := by positivity
    have apart : (first : ℚ) / 1000000000 / period - second / 1000000000 / period =
        (first - second) / (period * 1000000000) := by
      rw [div_div, div_div, mul_comm, sub_div]
    rw [colorAt_rainbow sin positive, colorAt_rainbow sin positive]
    calc (hueRgb _).distance (hueRgb _) * (period * 1000000000)
        ≤ (1530 * |((first : ℚ) - second) / (period * 1000000000)| + 1) * (period * 1000000000) :=
          mul_le_mul_of_nonneg_right (apart ▸ hueRgb_distance _ _) scale.le
      _ = 1530 * |(first : ℚ) - second| + period * 1000000000 := by
          rw [abs_div, abs_of_pos scale]
          field_simp

theorem rainbow_turns (period : Nat) (polls : List Poll) :
    let frames := (RgbStream.mk (.rainbow period) none).frames sin polls
    (∀ frame ∈ frames, frame.2.Vivid) ∧
    (frames.Pairwise fun first second => first.2.distance second.2 * (period * 1000000000) ≤
      1530 * |(first.1 : ℚ) - second.1| + period * 1000000000) ∧
    (period = 0 → ∀ frame ∈ frames, frame.2 = ⟨255, 0, 0⟩) := by
  intro frames
  obtain ⟨start, all⟩ := RgbStream.frames_eq sin ⟨.rainbow period, none⟩ polls
  have all : frames = _ := all
  have shown : ∀ frame ∈ frames, ∃ elapsed, frame.2 = colorAt sin elapsed (.rainbow period) := by
    intro frame listed
    rw [all] at listed
    obtain ⟨poll, _, rfl⟩ := List.mem_map.mp listed
    exact ⟨_, rfl⟩
  refine ⟨?_, ?_, ?_⟩
  · intro frame listed
    obtain ⟨elapsed, same⟩ := shown frame listed
    rw [same]
    exact colorAt_rainbow_vivid sin period elapsed
  · rw [all, List.pairwise_map]
    apply List.pairwise_of_forall
    intro first second
    have near := elapsed_near first.read second.read start
    exact (colorAt_rainbow_distance sin period _ _).trans (by linarith)
  · rintro rfl frame listed
    obtain ⟨elapsed, same⟩ := shown frame listed
    rw [same, colorAt_rainbow_zero]

end EffectRunner

end TtRiingd
