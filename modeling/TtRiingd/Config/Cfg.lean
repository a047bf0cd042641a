import TtRiingd.Config.Curve

namespace TtRiingd

structure UsbSelector where
  vid : UInt16
  pid : UInt16
  serial : Option String
  deriving DecidableEq

structure FanCfg where
  idx : UInt8
  name : String
  deriving DecidableEq

inductive ControllerCfg where
  | riingQuad (id : String) (usb : UsbSelector) (fans : List FanCfg)
  deriving DecidableEq

def ControllerCfg.getId : ControllerCfg → String
  | .riingQuad id _ _ => id

def ControllerCfg.usb : ControllerCfg → UsbSelector
  | .riingQuad _ usb _ => usb

def ControllerCfg.fans : ControllerCfg → List FanCfg
  | .riingQuad _ _ fans => fans

def ControllerCfg.getFansCount (controller : ControllerCfg) : Except Fault Nat :=
  -- `try_into().unwrap()`
  if controller.fans.length < 256 then .ok controller.fans.length else .error .panic

inductive SensorCfg where
  | lmSensors (id chip feature : String)
  | nvidia (id : String) (gpuIndex : UInt32)
  deriving DecidableEq

structure FanTarget where
  controllerId : String
  fanIdx : UInt8
  deriving DecidableEq

structure MappingCfg where
  sensor : String
  targets : List FanTarget
  deriving DecidableEq

def MappingCfg.dummy : MappingCfg := ⟨"dummy_sensor", []⟩

structure CurveMappingCfg where
  curve : String
  targets : List FanTarget
  deriving DecidableEq

def CurveMappingCfg.dummy : CurveMappingCfg := ⟨"dummy_curve", []⟩

structure EffectMappingCfg where
  effect : String
  targets : List FanTarget
  deriving DecidableEq

def EffectMappingCfg.dummy : EffectMappingCfg := ⟨"dummy_effect", []⟩

structure Rgb where
  red : UInt8
  green : UInt8
  blue : UInt8
  deriving DecidableEq

inductive EffectCfg where
  | constantColor (id : String) (rgb : Rgb)
  | rainbow (id : String) (duration : UInt16)
  | breathing (id : String) (color : Rgb) (duration : UInt16)
  | fade (id : String) (color : Rgb) (duration : UInt16)
  deriving DecidableEq

def EffectCfg.getId : EffectCfg → String
  | .constantColor id _ | .rainbow id _ | .breathing id _ _ | .fade id _ _ => id

structure Config where
  version : UInt8 := 1
  tickSeconds : UInt16 := 2
  enableBroadcast : Bool := false
  broadcastInterval : UInt16 := 2
  controllers : List ControllerCfg := []
  curves : List (CurveCfg F32) := []
  sensors : List SensorCfg := []
  mappings : List MappingCfg := []
  activeCurveMappings : List CurveMappingCfg := []
  effects : List EffectCfg := []
  effectMappings : List EffectMappingCfg := []
  deriving DecidableEq

inductive ConfigChangeType where
  | hotReload
  | coldRestart (changedSections : List String)
  deriving DecidableEq

def Config.analyzeChanges (current other : Config) : ConfigChangeType :=
  let changedSections :=
    (if current.controllers ≠ other.controllers then ["controllers"] else []) ++
    (if current.sensors ≠ other.sensors then ["sensors"] else [])
  if changedSections.isEmpty then .hotReload else .coldRestart changedSections

end TtRiingd
