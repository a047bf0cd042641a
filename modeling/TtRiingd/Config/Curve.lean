import Mathlib.Data.List.Sort
import TtRiingd.Config.Float
import TtRiingd.Core.Fault

namespace TtRiingd

structure Point (F : Type) where
  x : F
  y : F
  deriving DecidableEq

inductive CurveCfg (F : Type) where
  | constant (id : String) (speed : UInt8)
  | stepCurve (id : String) (tmps : List F) (spds : List UInt8)
  | bezier (id : String) (points : List (Point F))
  deriving DecidableEq

def CurveCfg.getId {F : Type} : CurveCfg F → String
  | .constant id _ | .stepCurve id _ _ | .bezier id _ => id

def MAX_ITERATIONS : Nat := 100

section Evaluation
variable {F : Type} [FloatOps F]
open FloatOps

def EPSILON : F := ofRat (1 / 100)

structure ControlPoints (F : Type) where
  p0 : Point F
  p1 : Point F
  p2 : Point F
  p3 : Point F

def computeBezierAtT (pts : ControlPoints F) (t : F) : Point F :=
  let u := ofRat 1 - t
  let tt := t * t
  let uu := u * u
  let uuu := uu * u
  let ttt := tt * t
  { x := uuu * pts.p0.x + ofRat 3 * uu * t * pts.p1.x + ofRat 3 * u * tt * pts.p2.x + ttt * pts.p3.x
    y := uuu * pts.p0.y + ofRat 3 * uu * t * pts.p1.y + ofRat 3 * u * tt * pts.p2.y + ttt * pts.p3.y }

/-- The bisection with `remaining` iterations left; `tMid` is the last midpoint tried. -/
def bisect (pts : ControlPoints F) (temp : F) (remaining : Nat) (tLow tHigh tMid : F) : F :=
  match remaining with
  | 0 => (computeBezierAtT pts tMid).y
  | remaining + 1 =>
      let tMid := (tLow + tHigh) * ofRat (1 / 2)
      let p := computeBezierAtT pts tMid
      if lt (abs (p.x - temp)) EPSILON then p.y
      else if lt p.x temp then bisect pts temp remaining tMid tHigh tMid
      else bisect pts temp remaining tLow tMid tMid

def getSpeedForTemp (pts : ControlPoints F) (temp : F) : F :=
  bisect pts temp MAX_ITERATIONS (ofRat 0) (ofRat 1) (ofRat 0)

def scanSegments (temperature : F) : List F → List UInt8 → Option UInt8
  | low :: high :: tmps, slow :: fast :: spds =>
      if le low temperature && lt temperature high then
        let t := (temperature - low) / (high - low)
        some (toU8 (ofRat slow.toNat * (ofRat 1 - t) + ofRat fast.toNat * t))
      else scanSegments temperature (high :: tmps) (fast :: spds)
  | _, _ => none

def clampedSpeed (y : F) : UInt8 := toU8 (clamp y (ofRat 0) (ofRat 100))

def CurveCfg.calculateSpeed (curve : CurveCfg F) (temperature : F) : Except Fault UInt8 :=
  match curve with
  | .constant _ speed => .ok speed
  | .stepCurve _ tmps spds =>
      if tmps.length ≠ spds.length then
        .error (.error (anyhow "Temperature and speed arrays must have the same length"))
      else
        match tmps with
        | [] => .error (.error (anyhow "Step curve cannot be empty"))
        | first :: _ =>
            match scanSegments temperature tmps spds with
            | some speed => .ok speed
            | none =>
                match (if lt temperature first then spds.head? else spds.getLast?) with
                | some speed => .ok speed
                | none => .error (.error (anyhow "Empty speeds vector"))
  | .bezier _ [p0, p1, p2, p3] =>
      let points := [p0, p1, p2, p3]
      if points.any fun p => isNan p.x then .error .panic
      else
        match points.insertionSort (fun a b => le a.x b.x = true) with
        | [low, _, _, high] =>
            if le temperature low.x then .ok (clampedSpeed low.y)
            else if le high.x temperature then .ok (clampedSpeed high.y)
            else .ok (clampedSpeed (getSpeedForTemp ⟨p0, p1, p2, p3⟩ temperature))
        | _ => .error .panic
  | .bezier _ _ => .error (.error (anyhow "Bezier curve must have exactly 4 control points"))

end Evaluation

end TtRiingd
