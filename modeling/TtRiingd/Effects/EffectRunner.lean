import TtRiingd.Config.ExactCurve
import TtRiingd.Config.Mappings
import TtRiingd.Library.Wheel

/-!
# The colours of the effects

A runner yields a colour whenever it is asked for one, from the time that has passed since it was asked for
the first one. Times are nanoseconds of the clock.
-/

namespace TtRiingd
open FloatOps

/-! ## More of `f32` -/

namespace F32

/-- The operator `%`: the remainder has the sign of the dividend. -/
def truncRem (a b : ℚ) : ℚ := a - b * (if 0 ≤ a / b then ⌊a / b⌋ else ⌈a / b⌉ : ℤ)

def rem : F32 → F32 → F32
  | fin a, fin b => if b = 0 then nan else fin (truncRem a b)
  | fin a, posInf | fin a, negInf => fin a
  | _, _ => nan

/-- To the nearest integer, halves away from zero. -/
def roundAway (a : ℚ) : ℤ := if 0 ≤ a then ⌊a + 1 / 2⌋ else ⌈a - 1 / 2⌉

def round : F32 → F32
  | fin a => fin (roundAway a)
  | other => other

def toU32 : F32 → UInt32
  | nan | negInf => 0
  | fin a => if a < 0 then 0 else if 4294967295 ≤ a then 4294967295 else UInt32.ofNat ⌊a⌋.toNat
  | posInf => 4294967295

end F32

/-! ## The streams -/

/-- The match of `hsv_to_rgb`. -/
def hueColor (h : UInt32) (c x : F32) : F32 × F32 × F32 :=
  if h ≤ 59 then (c, x, ofRat 0)
  else if h ≤ 119 then (x, c, ofRat 0)
  else if h ≤ 179 then (ofRat 0, c, x)
  else if h ≤ 239 then (ofRat 0, x, c)
  else if h ≤ 299 then (x, ofRat 0, c)
  else (c, ofRat 0, x)

def hsvToRgb (h s v : F32) : Rgb :=
  let h := h.rem (ofRat 360)
  let c := v * s
  let x := c * (ofRat 1 - abs ((h / ofRat 60).rem (ofRat 2) - ofRat 1))
  let (r1, g1, b1) := hueColor h.toU32 c x
  let m := v - c
  ⟨toU8 ((r1 + m) * ofRat 255).round, toU8 ((g1 + m) * ofRat 255).round, toU8 ((b1 + m) * ofRat 255).round⟩

def scaleRgb (rgb : Rgb) (factor : F32) : Rgb :=
  let scale (channel : UInt8) := toU8 (clamp (ofRat channel.toNat * factor) (ofRat 0) (ofRat 255)).round
  ⟨scale rgb.red, scale rgb.green, scale rgb.blue⟩

def asSecs (nanos : Nat) : F32 := ofRat (nanos / 1000000000)

/-- `std::f32::consts::TAU`. -/
def tau : F32 := ofRat (13176795 / 2097152)

namespace EffectRunner
variable (sin : F32 → F32)

def progress (elapsed period : Nat) : F32 := (asSecs elapsed / ofRat period).rem (ofRat 1)

/-- What the loop of a runner yields, `elapsed` after its start. Periods are whole seconds. -/
def colorAt (elapsed : Nat) : EffectRunner → Rgb
  | constant rgb => rgb
  | rainbow period => hsvToRgb (progress elapsed period * ofRat 360) (ofRat 1) (ofRat 1)
  | breathe rgb min max period =>
      let phase := sin (progress elapsed period * tau)
      scaleRgb rgb (ofRat min + (ofRat max - ofRat min) * (phase + ofRat 1) * ofRat (1 / 2))

/-- `now` is what the clock shows when the stream is polled, and `read` what it shows to `elapsed`. -/
structure Poll where
  now : Nat
  read : Nat

/-- The stream of a runner; `start` is set by its first poll. -/
structure RgbStream where
  runner : EffectRunner
  start : Option Nat := none

def RgbStream.nextRgb (stream : RgbStream) (poll : Poll) : Rgb × RgbStream :=
  let start := stream.start.getD poll.now
  (colorAt sin (poll.read - start) stream.runner, { stream with start := some start })

/-- The frames of a stream that is polled again and again, with the clock of each. -/
def RgbStream.frames : RgbStream → List Poll → List (Nat × Rgb)
  | _, [] => []
  | stream, poll :: later =>
      (poll.read, (stream.nextRgb sin poll).1) :: (stream.nextRgb sin poll).2.frames later

end EffectRunner

end TtRiingd
