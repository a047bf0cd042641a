import Mathlib.Data.Rat.Floor

/-!
# Numbers of the curves

The curves compute with `f32`. They are written once over `FloatOps` and read at two types: the
rationals, where the arithmetic is exact, and `F32`, the rationals with NaN and the infinities that
a YAML file can also contain. Neither rounds.
-/

namespace TtRiingd

class FloatOps (F : Type) extends Add F, Sub F, Mul F, Div F where
  ofRat : ℚ → F
  le : F → F → Bool
  lt : F → F → Bool
  isNan : F → Bool
  /-- The cast `as u8`: it truncates towards zero, saturates, and sends NaN to zero. -/
  toU8 : F → UInt8

namespace FloatOps
variable {F : Type} [FloatOps F]

def abs (x : F) : F := if lt x (ofRat 0) then ofRat 0 - x else x

def clamp (x low high : F) : F := if lt x low then low else if lt high x then high else x

end FloatOps

def truncateU8 (x : ℚ) : UInt8 :=
  if x < 0 then 0 else if 255 ≤ x then 255 else UInt8.ofNat ⌊x⌋.toNat

instance : FloatOps ℚ where
  ofRat := id
  le a b := decide (a ≤ b)
  lt a b := decide (a < b)
  isNan _ := false
  toU8 := truncateU8

/-- The values of an `f32` without rounding; there is one zero. -/
inductive F32 where
  | nan
  | negInf
  | fin (value : ℚ)
  | posInf
  deriving DecidableEq

namespace F32

def neg : F32 → F32
  | nan => nan
  | negInf => posInf
  | fin a => fin (-a)
  | posInf => negInf

def add : F32 → F32 → F32
  | fin a, fin b => fin (a + b)
  | nan, _ | _, nan | posInf, negInf | negInf, posInf => nan
  | posInf, _ | _, posInf => posInf
  | negInf, _ | _, negInf => negInf

def infinity (a : ℚ) : F32 := if 0 < a then posInf else if a < 0 then negInf else nan

def mul : F32 → F32 → F32
  | fin a, fin b => fin (a * b)
  | nan, _ | _, nan => nan
  | posInf, fin a | fin a, posInf => infinity a
  | negInf, fin a | fin a, negInf => infinity (-a)
  | posInf, posInf | negInf, negInf => posInf
  | posInf, negInf | negInf, posInf => negInf

def div : F32 → F32 → F32
  | fin a, fin b => if b = 0 then infinity a else fin (a / b)
  | nan, _ | _, nan => nan
  | fin _, posInf | fin _, negInf => fin 0
  | posInf, fin a => if a < 0 then negInf else posInf
  | negInf, fin a => if a < 0 then posInf else negInf
  | posInf, posInf | posInf, negInf | negInf, posInf | negInf, negInf => nan

def lt : F32 → F32 → Bool
  | fin a, fin b => decide (a < b)
  | negInf, fin _ | negInf, posInf | fin _, posInf => true
  | _, _ => false

def le : F32 → F32 → Bool
  | nan, _ | _, nan => false
  | a, b => !lt b a

def toU8 : F32 → UInt8
  | nan | negInf => 0
  | fin a => truncateU8 a
  | posInf => 255

end F32

instance : FloatOps F32 where
  add := F32.add
  sub a b := a.add b.neg
  mul := F32.mul
  div := F32.div
  ofRat := .fin
  le := F32.le
  lt := F32.lt
  isNan x := x == .nan
  toU8 := F32.toU8

namespace F32
variable (a b : ℚ)

@[simp] theorem ofRat_eq : (FloatOps.ofRat a : F32) = fin a := rfl

@[simp] theorem fin_add : fin a + fin b = fin (a + b) := rfl

@[simp] theorem fin_sub : fin a - fin b = fin (a - b) := by
  rw [sub_eq_add_neg]
  rfl

@[simp] theorem fin_mul : fin a * fin b = fin (a * b) := rfl

@[simp] theorem fin_div (nonzero : b ≠ 0) : fin a / fin b = fin (a / b) := if_neg nonzero

@[simp] theorem lt_fin : FloatOps.lt (fin a) (fin b) = decide (a < b) := rfl

@[simp] theorem le_fin : FloatOps.le (fin a) (fin b) = decide (a ≤ b) := by
  change (!decide (b < a)) = _
  rw [← decide_not]
  exact decide_eq_decide.mpr not_lt

@[simp] theorem toU8_fin : FloatOps.toU8 (fin a) = truncateU8 a := rfl

end F32

end TtRiingd
