import TtRiingd.Config.Cfg
import TtRiingd.Library.Table

namespace TtRiingd

structure FanRef where
  controllerId : String
  channel : Nat
  deriving DecidableEq

def FanTarget.fanRef (target : FanTarget) : FanRef := ⟨target.controllerId, target.fanIdx.toNat⟩

/-- The set of fans of a sensor is a list without repetitions; its order stands for the order in
which a `DashSet` happens to be iterated. -/
structure Mapping where
  fans2sensor : AList fun _ : FanRef => String
  sensor2fans : AList fun _ : String => List FanRef

def Mapping.insert (mapping : Mapping) (sensor : String) (fan : FanRef) : Mapping where
  fans2sensor := mapping.fans2sensor.insert fan sensor
  sensor2fans := mapping.sensor2fans.insert sensor
    (((mapping.sensor2fans.lookup sensor).getD []).insert fan)

def Mapping.loadMappings (mappingCfg : List MappingCfg) : Mapping :=
  (mappingCfg.flatMap fun m => m.targets.map fun t => (m.sensor, t)).foldl
    (fun acc entry => acc.insert entry.1 entry.2.fanRef) ⟨∅, ∅⟩

def Mapping.fansForSensor (mapping : Mapping) (sensor : String) : List FanRef :=
  (mapping.sensor2fans.lookup sensor).getD []

structure CurveMapping where
  fan2curve : AList fun _ : FanRef => String

def CurveMapping.loadMappings (curveMappingCfg : List CurveMappingCfg) : CurveMapping :=
  ⟨(curveMappingCfg.flatMap fun c => c.targets.map fun t => (c.curve, t)).foldl
    (fun acc entry => acc.insert entry.2.fanRef entry.1) ∅⟩

def CurveMapping.getCurveForFan (mapping : CurveMapping) (fan : FanRef) : Option String :=
  mapping.fan2curve.lookup fan

inductive EffectRunner where
  | constant (rgb : Rgb)
  | rainbow (period : Nat)
  | breathe (rgb : Rgb) (min max : ℚ) (period : Nat)
  deriving DecidableEq

def EffectCfg.intoRunner : EffectCfg → Except Error EffectRunner
  | .constantColor _ rgb => .ok (.constant rgb)
  | .rainbow _ duration => .ok (.rainbow duration.toNat)
  | .breathing _ color duration => .ok (.breathe color (1 / 5) 1 duration.toNat)
  | .fade _ color duration => .ok (.breathe color 0 1 duration.toNat)

structure EffectInstance where
  runner : EffectRunner
  targets : List FanRef
  deriving DecidableEq

def EffectInstance.new (effect : EffectCfg) (mapping : Option EffectMappingCfg) :
    Except Error EffectInstance := do
  let runner ← effect.intoRunner
  match mapping with
  | some mapping => .ok ⟨runner, mapping.targets.map FanTarget.fanRef⟩
  | none => .error (anyhow s!"Effect {effect.getId} has no targets defined")

structure EffectStore where
  runners : AList fun _ : String => EffectInstance

def EffectStore.buildEffectStore (effectCfg : List EffectCfg) (effectMapping : List EffectMappingCfg) :
    EffectStore :=
  (effectCfg.filterMap fun e =>
    (effectMapping.find? fun m => m.effect = e.getId).map fun mapping =>
      (e.getId, EffectInstance.new e (some mapping))).foldl
    (fun acc entry =>
      match entry.2 with
      | .ok runner => ⟨acc.runners.insert entry.1 runner⟩
      | .error _ => acc) ⟨∅⟩

structure EffectMapping where
  effect2fans : AList fun _ : String => List FanRef

def EffectMapping.buildColorMapping (colorCfg : List EffectMappingCfg) : EffectMapping :=
  ⟨(colorCfg.flatMap fun c => c.targets.map fun t => (c.effect, t)).foldl
    (fun acc entry => acc.insert entry.1 (((acc.lookup entry.1).getD []).insert entry.2.fanRef)) ∅⟩

/-- The set under an effect of `effect2fans`, empty when there is none. -/
def EffectMapping.fansOfEffect (mapping : EffectMapping) (effect : String) : List FanRef :=
  (mapping.effect2fans.lookup effect).getD []

end TtRiingd
