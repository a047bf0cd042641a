import TtRiingd.Effects.Rainbow

/-!
# Breathing and fading, and what every effect shows

Both scale the colour of their effect by a wave. The sine of the standard library is a parameter: what it
gives for a number is a number from -1 to 1, and NaN for NaN.
-/

namespace TtRiingd
open FloatOps

structure Sine (sin : F32 → F32) : Prop where
  bounded : ∀ a, ∃ b, sin (.fin a) = .fin b ∧ |b| ≤ 1
  nan : sin .nan = .nan

/-! ## A scaled channel -/

def scaled (factor : ℚ) (channel : UInt8) : UInt8 :=
  truncateU8 (F32.roundAway (max 0 (min (channel.toNat * factor) 255)))

theorem clamp_fin (a : ℚ) : clamp (F32.fin a) (ofRat 0) (ofRat 255) = .fin (max 0 (min a 255)) := by
  simp only [clamp, F32.ofRat_eq, F32.lt_fin, decide_eq_true_eq]
  split_ifs with negative large
  · rw [max_eq_left (min_le_of_left_le negative.le)]
  · rw [min_eq_right large.le, max_eq_right (by norm_num)]
  · rw [min_eq_left (not_lt.mp large), max_eq_right (not_lt.mp negative)]

theorem scaleRgb_fin (rgb : Rgb) (factor : ℚ) :
    scaleRgb rgb (.fin factor) = ⟨scaled factor rgb.red, scaled factor rgb.green, scaled factor rgb.blue⟩ := by
  simp only [scaleRgb, F32.ofRat_eq, F32.fin_mul]
  rw [← F32.ofRat_eq 0, ← F32.ofRat_eq 255, clamp_fin, clamp_fin, clamp_fin]
  rfl

theorem scaleRgb_nan (rgb : Rgb) : scaleRgb rgb .nan = ⟨0, 0, 0⟩ := rfl

theorem truncateU8_roundAway_mono {a b : ℚ} (nonneg : 0 ≤ a) (ordered : a ≤ b) :
    truncateU8 (F32.roundAway a) ≤ truncateU8 (F32.roundAway b) :=
  truncateU8_mono (by exact_mod_cast roundAway_mono nonneg ordered)

theorem scaled_mono {factor larger : ℚ} {channel brighter : UInt8} (nonneg : 0 ≤ factor) (grows : factor ≤ larger)
    (ordered : channel ≤ brighter) : scaled factor channel ≤ scaled larger brighter := by
  have ordered : (channel.toNat : ℚ) ≤ brighter.toNat := by exact_mod_cast UInt8.le_iff_toNat_le.mp ordered
  apply truncateU8_roundAway_mono (le_max_left _ _)
  apply max_le_max_left
  apply min_le_min_right
  exact mul_le_mul ordered grows nonneg (Nat.cast_nonneg _)

theorem scaled_one (channel : UInt8) : scaled 1 channel = channel := by
  have bound : (channel.toNat : ℚ) ≤ 255 := by exact_mod_cast Nat.le_of_lt_succ channel.toNat_lt
  have whole : F32.roundAway (channel.toNat : ℚ) = channel.toNat := by
    rw [F32.roundAway, if_pos (Nat.cast_nonneg _)]
    exact Int.floor_eq_iff.mpr ⟨by push_cast; linarith, by push_cast; linarith⟩
  rw [scaled, mul_one, min_eq_left bound, max_eq_right (Nat.cast_nonneg _), whole, Int.cast_natCast,
    truncateU8_speed]

/-! ## Shades -/

/-- `shown` is a dimmed `color`: no channel is brighter than in the colour or below its least share of it, and
none overtakes another. -/
structure Rgb.Shade (least : ℚ) (color shown : Rgb) : Prop where
  within : ∀ channel ∈ Rgb.parts, scaled least (channel color) ≤ channel shown ∧ channel shown ≤ channel color
  ordered : ∀ channel ∈ Rgb.parts, ∀ other ∈ Rgb.parts,
    channel color ≤ other color → channel shown ≤ other shown

theorem scaleRgb_channel (rgb : Rgb) (factor : ℚ) {channel : Rgb → UInt8} (listed : channel ∈ Rgb.parts) :
    channel (scaleRgb rgb (.fin factor)) = scaled factor (channel rgb) := by
  rw [scaleRgb_fin]
  simp only [Rgb.parts, List.mem_cons, List.not_mem_nil, or_false] at listed
  rcases listed with rfl | rfl | rfl
  · rfl
  · rfl
  · rfl

theorem shade_scaleRgb (rgb : Rgb) {least factor : ℚ} (nonneg : 0 ≤ least) (low : least ≤ factor) (high : factor ≤ 1) :
    rgb.Shade least (scaleRgb rgb (.fin factor)) := by
  constructor
  · intro channel listed
    rw [scaleRgb_channel rgb factor listed]
    have dimmed := scaled_mono (nonneg.trans low) high (UInt8.le_refl (channel rgb))
    rw [scaled_one] at dimmed
    exact ⟨scaled_mono nonneg low (UInt8.le_refl _), dimmed⟩
  · intro channel listed other listed' ordered
    rw [scaleRgb_channel rgb factor listed, scaleRgb_channel rgb factor listed']
    exact scaled_mono (nonneg.trans low) le_rfl ordered

/-! ## Frames -/

namespace EffectRunner
variable {sin : F32 → F32}

/-- The brightness of a wave that is `height` high. -/
theorem brightness_mem {least most height : ℚ} (ordered : least ≤ most) (small : |height| ≤ 1) :
    least + (most - least) * (height + 1) * (1 / 2) ∈ Set.Icc least most := by
  have bounds := abs_le.mp small
  constructor
  · have raised : 0 ≤ (most - least) * (height + 1) := mul_nonneg (by linarith) (by linarith)
    linarith
  · have lowered : 0 ≤ (most - least) * (1 - height) := mul_nonneg (by linarith) (by linarith)
    linarith

theorem colorAt_breathe (sine : Sine sin) (rgb : Rgb) {least most : ℚ} (nonneg : 0 ≤ least) (ordered : least ≤ most)
    (high : most ≤ 1) {period : Nat} (positive : 0 < period) (elapsed : Nat) :
    rgb.Shade least (colorAt sin elapsed (.breathe rgb least most period)) := by
  obtain ⟨height, wave, small⟩ := sine.bounded
    (Int.fract ((elapsed : ℚ) / 1000000000 / period) * (13176795 / 2097152))
  have inside := brightness_mem ordered small
  simp only [colorAt, progress_eq positive, tau, F32.ofRat_eq, F32.fin_mul, wave, F32.fin_add, F32.fin_sub]
  exact shade_scaleRgb rgb nonneg inside.1 (inside.2.trans high)

theorem colorAt_breathe_zero (sine : Sine sin) (rgb : Rgb) (least most : ℚ) (elapsed : Nat) :
    colorAt sin elapsed (.breathe rgb least most 0) = ⟨0, 0, 0⟩ := by
  have wave : sin (F32.nan * tau) = .nan := sine.nan
  rw [colorAt, progress_zero, wave]
  exact scaleRgb_nan rgb

end EffectRunner

/-- What the fans of a configured effect may be shown. -/
def EffectCfg.Shows (rgb : Rgb) : EffectCfg → Prop
  | .constantColor _ color => rgb = color
  | .rainbow _ _ => rgb.Vivid
  | .breathing _ color duration => if duration = 0 then rgb = ⟨0, 0, 0⟩ else color.Shade (1 / 5) rgb
  | .fade _ color duration => if duration = 0 then rgb = ⟨0, 0, 0⟩ else color.Shade 0 rgb

theorem EffectCfg.shows_breathe {sin : F32 → F32} (sine : Sine sin) (color : Rgb) {least : ℚ} (nonneg : 0 ≤ least)
    (small : least ≤ 1) (duration : UInt16) (elapsed : Nat) :
    let rgb := EffectRunner.colorAt sin elapsed (.breathe color least 1 duration.toNat)
    if duration = 0 then rgb = ⟨0, 0, 0⟩ else color.Shade least rgb := by
  intro rgb
  split_ifs with zero
  · subst zero
    exact EffectRunner.colorAt_breathe_zero sine color least 1 elapsed
  · have positive : 0 < duration.toNat := Nat.pos_of_ne_zero fun none => zero (UInt16.toNat_inj.mp none)
    exact EffectRunner.colorAt_breathe sine color nonneg small le_rfl positive elapsed

theorem EffectCfg.shows_colorAt {sin : F32 → F32} (sine : Sine sin) {effect : EffectCfg} {runner : EffectRunner}
    (made : effect.intoRunner = .ok runner) (elapsed : Nat) : effect.Shows (runner.colorAt sin elapsed) := by
  cases effect with
  | constantColor id rgb =>
      cases made
      rfl
  | rainbow id duration =>
      cases made
      exact EffectRunner.colorAt_rainbow_vivid sin duration.toNat elapsed
  | breathing id color duration =>
      cases made
      exact shows_breathe sine color (by norm_num) (by norm_num) duration elapsed
  | fade id color duration =>
      cases made
      exact shows_breathe sine color le_rfl zero_le_one duration elapsed

end TtRiingd
