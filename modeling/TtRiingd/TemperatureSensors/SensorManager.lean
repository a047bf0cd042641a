import TtRiingd.Config.Cfg

/-!
# Temperature sensors

The sensors are looked up once, when the daemon starts; at each tick every one of them is read again. What
lm-sensors and NVML answer is given by a bench, which may answer something else at every moment.
-/

namespace TtRiingd.TemperatureSensors

/-! ## lm-sensors -/

inductive Value where
  | temperatureInput (degrees : F32)
  | other

/-- `subf` stands for the pointer that a `SubFeatureRef` keeps. -/
structure SubFeature where
  subf : Nat
  temperatureInput : Bool

/-- A feature may have no name, or one that is not UTF-8. -/
structure Feature where
  name : Option (Option String)
  subFeatures : List SubFeature

structure Chip where
  name : Except Error String
  features : List Feature

structure LMSensors where
  chips : List Chip
  value : Nat → Except Error Value

/-! ## NVML -/

/-- The functions of the library; an error is its return code. -/
structure NvmlLibrary where
  init : Int
  deviceGetCount : Except Int UInt32
  deviceGetHandleByIndex : UInt32 → Except Int Nat
  deviceGetName : Nat → Except Int String
  deviceGetTemperature : Nat → Except Int UInt32
  nvmlErrorString : Int → Option String

namespace NvmlLibrary
variable (nvml : NvmlLibrary)

def errorString (result : Int) : String := (nvml.nvmlErrorString result).getD s!"Unknown NVML error: {result}"

def checked {α : Type} (message : String → String) : Except Int α → Except Error α
  | .ok value => .ok value
  | .error result => .error (anyhow (message (nvml.errorString result)))

def initialized : Bool := nvml.init = 0 || nvml.init = 5

def deviceCount : Except Error UInt32 := nvml.checked (fun e => s!"Failed to get device count: {e}") nvml.deviceGetCount

def deviceHandle (index : UInt32) : Except Error Nat :=
  nvml.checked (fun e => s!"Failed to get device handle {index}: {e}") (nvml.deviceGetHandleByIndex index)

def deviceName (device : Nat) : Except Error String :=
  nvml.checked (fun e => s!"Failed to get device name: {e}") (nvml.deviceGetName device)

def deviceTemperature (device : Nat) : Except Error UInt32 :=
  nvml.checked (fun e => s!"Failed to get device temperature: {e}") (nvml.deviceGetTemperature device)

end NvmlLibrary

structure Bench where
  lmSensors : Option LMSensors
  /-- What loading the library gave. -/
  library : Option NvmlLibrary

/-- The global `NVML`. -/
def Bench.nvml (bench : Bench) : Option NvmlLibrary := bench.library.filter NvmlLibrary.initialized

/-! ## Sensors -/

structure GpuInfo where
  index : UInt32
  name : String

inductive Sensor where
  | lm (key : String) (subf : Nat)
  | nvidia (gpuInfo : GpuInfo) (sensorKey : String)
  | dummy (key : String) (temperature : F32)

def Sensor.key : Sensor → String
  | .lm key _ => key
  | .nvidia _ sensorKey => sensorKey
  | .dummy key _ => key

namespace LmSensorSource

def Feature.isNamed (feature : Feature) (wanted : String) : Bool :=
  feature.name.any fun name => name.getD "N/A" = wanted

def locate (lm : LMSensors) (chip feature : String) : Option SubFeature := do
  let chipRef ← lm.chips.find? fun c => c.name.toOption = some chip
  let featRef ← chipRef.features.find? (Feature.isNamed · feature)
  featRef.subFeatures.find? SubFeature.temperatureInput

def discover (lmSensors : Option LMSensors) (cfg : List SensorCfg) : List Sensor :=
  cfg.filterMap fun
    | .lmSensors id chip feature => do
        let lm ← lmSensors
        let subfeatRef ← locate lm chip feature
        some (.lm id subfeatRef.subf)
    | .nvidia _ _ => none

def readTemperature (lmSensors : Option LMSensors) (subf : Nat) : Except Error F32 :=
  match lmSensors with
  -- A sensor is made from the library, which stays.
  | none => .error (anyhow "lm-sensors not available")
  | some lm =>
      match lm.value subf with
      | .ok (.temperatureInput degrees) => .ok degrees
      | .ok .other => .error (anyhow "Invalid temperature value type")
      | .error e => .error e

end LmSensorSource

namespace NvidiaSensor

def createSensorForGpu (nvml : NvmlLibrary) (gpuIndex : UInt32) (sensorId : String) : Except Error Sensor := do
  let handle ← nvml.deviceHandle gpuIndex
  let name ← nvml.deviceName handle
  .ok (.nvidia ⟨gpuIndex, name⟩ sensorId)

def configured (cfg : List SensorCfg) : List (String × UInt32) :=
  cfg.filterMap fun
    | .nvidia id gpuIndex => some (id, gpuIndex)
    | .lmSensors _ _ _ => none

def discover (nvml : Option NvmlLibrary) (cfg : List SensorCfg) : List Sensor :=
  match nvml with
  | none => []
  | some nvml =>
      match nvml.deviceCount with
      | .error _ => []
      | .ok deviceCount =>
          match configured cfg with
          | [] => (List.range deviceCount.toNat).filterMap fun i =>
              (createSensorForGpu nvml (UInt32.ofNat i) s!"nvidia_gpu_{i}").toOption
          | nvidiaConfigs => nvidiaConfigs.filterMap fun (id, gpuIndex) =>
              if gpuIndex < deviceCount then (createSensorForGpu nvml gpuIndex id).toOption else none

def readTemperature (nvml : Option NvmlLibrary) (gpuInfo : GpuInfo) : Except Error F32 :=
  match nvml with
  | none => .error (anyhow "NVML not available")
  | some nvml =>
      match nvml.deviceHandle gpuInfo.index with
      | .error e => .error (anyhow
          s!"Failed to get handle for GPU '{gpuInfo.name}' (index {gpuInfo.index}): {e.display}")
      | .ok handle =>
          match nvml.deviceTemperature handle with
          | .error e => .error (anyhow s!"Failed to read temperature from GPU '{gpuInfo.name}': {e.display}")
          | .ok temp => .ok (.fin temp.toNat)

end NvidiaSensor

def DummySensorSource.discover : List Sensor := [.dummy "dummy_sensor" (.fin 45)]

def Sensor.readTemperature (bench : Bench) : Sensor → Except Error F32
  | .lm _ subf => LmSensorSource.readTemperature bench.lmSensors subf
  | .nvidia gpuInfo _ => NvidiaSensor.readTemperature bench.nvml gpuInfo
  | .dummy _ temperature => .ok temperature

/-- Nothing in it can fail. -/
def SensorManager.initFromCfg (bench : Bench) (config : Config) : List Sensor :=
  LmSensorSource.discover bench.lmSensors config.sensors ++ NvidiaSensor.discover bench.nvml config.sensors ++
    DummySensorSource.discover

end TtRiingd.TemperatureSensors
