import Mathlib.Algebra.BigOperators.Group.Multiset.Basic
import Mathlib.Data.Finset.Dedup
import Mathlib.Data.Finset.Filter
import TtRiingd.Config.MappingOverlap
import TtRiingd.Providers.Monitoring

/-!
# The batch of a tick

What a tick sends is compared with what the configuration asks for, controller by controller and
counting repetitions. The sets of fans have no order, so neither do the pairs.
-/

namespace TtRiingd.Providers.Monitoring
open Drivers

/-! ## What the configuration asks for -/

def intendedSpeed (config : Config) (temp : F32) (fan : FanRef) : Option UInt8 :=
  (lastCurve config.activeCurveMappings fan).bind fun name =>
    (config.curves.find? fun curve => curve.getId = name).bind fun curve =>
      (curve.calculateSpeed temp).toOption

def mappedFans (config : Config) (sensor : String) : List FanRef :=
  (Mapping.loadMappings config.mappings).fansForSensor sensor

/-- The pairs that one sensor adds for one controller. -/
def intendedPairs (config : Config) (controllerId : String) (sensor : TemperatureSensor) :
    Multiset (Nat × UInt8) :=
  match sensor.reading with
  | .ok temp =>
      ((mappedFans config sensor.key).toFinset.filter fun fan => fan.controllerId = controllerId).val.filterMap
        fun fan => (intendedSpeed config temp fan).map fun speed => (fan.channel, speed)
  | .error _ => 0

def intendedBatch (config : Config) (sensors : List TemperatureSensor) (controllerId : String) :
    Multiset (Nat × UInt8) :=
  (sensors.map (intendedPairs config controllerId)).sum

/-! ## What the tick computes -/

def speedsOf (buffer : MonitoringBuffer) (controllerId : String) : List (Nat × UInt8) :=
  (buffer.batchData.lookup controllerId).getD []

def fanPart (cache : MappingCache) (temp : F32) (controllerId : String) (fan : FanRef) : List (Nat × UInt8) :=
  if fan.controllerId = controllerId then
    ((fanSpeed cache temp fan).toOption.map fun speed => (fan.channel, speed)).toList
  else []

def sensorPart (cache : MappingCache) (controllerId : String) (sensor : TemperatureSensor) : List (Nat × UInt8) :=
  match sensor.reading with
  | .ok temp => (cache.mappings.fansForSensor sensor.key).flatMap (fanPart cache temp controllerId)
  | .error _ => []

theorem speedsOf_pushSpeed (fan : FanRef) (speed : UInt8) (buffer : MonitoringBuffer) (controllerId : String) :
    speedsOf (pushSpeed fan speed buffer) controllerId =
      speedsOf buffer controllerId ++ if fan.controllerId = controllerId then [(fan.channel, speed)] else [] := by
  simp only [speedsOf, pushSpeed, AList.lookup_insert_eq]
  by_cases same : controllerId = fan.controllerId
  · subst same
    simp
  · rw [if_neg same, if_neg (Ne.symm same), List.append_nil]

theorem processFan_appends {cache : MappingCache} {temp : F32} {fan : FanRef} {buffer after : MonitoringBuffer}
    (controllerId : String) (result : processFan cache temp fan buffer = .ok () after) :
    speedsOf after controllerId = speedsOf buffer controllerId ++ fanPart cache temp controllerId fan := by
  unfold processFan at result
  cases computed : fanSpeed cache temp fan with
  | error fault => simp [computed] at result
  | ok speed =>
      simp only [computed, EStateM.Result.ok.injEq, true_and] at result
      rw [← result, speedsOf_pushSpeed, fanPart, computed]
      rfl

theorem processSensor_appends {cache : MappingCache} {sensor : TemperatureSensor} {buffer after : MonitoringBuffer}
    (controllerId : String) (result : processSensor cache sensor buffer = .ok () after) :
    speedsOf after controllerId = speedsOf buffer controllerId ++ sensorPart cache controllerId sensor := by
  unfold processSensor at result
  unfold sensorPart
  cases read : sensor.reading with
  | error e =>
      simp only [read, EStateM.Result.ok.injEq, true_and] at result
      rw [result, List.append_nil]
  | ok temp =>
      simp only [read] at result
      have each (fan : FanRef) (state after : MonitoringBuffer) :=
        @processFan_appends cache temp fan state after controllerId
      rw [EStateM.forM_appends each result]
      rfl

/-- Nothing is left of the tick before. -/
theorem collect_speedsOf {cache : MappingCache} {sensors : List TemperatureSensor}
    {buffer after : MonitoringBuffer} (controllerId : String) (result : collect cache sensors buffer = .ok () after) :
    speedsOf after controllerId = sensors.flatMap (sensorPart cache controllerId) := by
  unfold collect at result
  rw [EStateM.set_bind] at result
  have each (sensor : TemperatureSensor) (state after : MonitoringBuffer) :=
    @processSensor_appends cache sensor state after controllerId
  exact EStateM.forM_appends each result

theorem batchEntries_nodup (buffer : MonitoringBuffer) : ((batchEntries buffer).map Prod.fst).Nodup := by
  have keys := buffer.batchData.nodupKeys
  rw [List.NodupKeys, List.keys] at keys
  rw [batchEntries, List.map_map]
  exact keys

/-! ## The two agree -/

theorem mappedFans_channel {config : Config} {sensor : String} {fan : FanRef}
    (mapped : fan ∈ mappedFans config sensor) : fan.channel < 256 := by
  obtain ⟨entry, -, -, listed⟩ := (Mapping.mem_fansForSensor_loadMappings _ _ _).mp mapped
  obtain ⟨target, -, rfl⟩ := List.mem_map.mp listed
  exact target.fanIdx.toNat_lt

theorem fanSpeed_toOption {config : Config} {temp : F32} {fan : FanRef} (channel : fan.channel < 256) :
    (fanSpeed (.ofConfig config) temp fan).toOption = intendedSpeed config temp fan := by
  have same : (⟨fan.controllerId, (UInt8.ofNat fan.channel).toNat⟩ : FanRef) = fan := by
    rw [UInt8.toNat_ofNat_of_lt' channel]
  unfold fanSpeed calculateFanSpeed intendedSpeed
  rw [if_pos channel, same]
  simp only [MappingCache.ofConfig, CurveMapping.loadMappings_getCurveForFan]
  cases lastCurve config.activeCurveMappings fan with
  | none => rfl
  | some name =>
      simp only [Option.bind_some]
      cases config.curves.find? fun curve => curve.getId = name with
      | none => rfl
      | some curve =>
          simp only [Option.bind_some]
          cases curve.calculateSpeed temp <;> rfl

theorem fanPart_flatMap (config : Config) (temp : F32) (controllerId : String) {fans : List FanRef}
    (channels : ∀ fan ∈ fans, fan.channel < 256) :
    fans.flatMap (fanPart (.ofConfig config) temp controllerId) =
      (fans.filter fun fan => fan.controllerId = controllerId).filterMap
        fun fan => (intendedSpeed config temp fan).map fun speed => (fan.channel, speed) := by
  induction fans with
  | nil => rfl
  | cons fan rest ih =>
      rw [List.forall_mem_cons] at channels
      rw [List.flatMap_cons, ih channels.2, fanPart, fanSpeed_toOption channels.1]
      by_cases same : fan.controllerId = controllerId
      · rw [if_pos same, List.filter_cons_of_pos (by simpa using same)]
        cases intended : intendedSpeed config temp fan with
        | none => simp [intended]
        | some speed => simp [intended]
      · rw [if_neg same, List.filter_cons_of_neg (by simpa using same), List.nil_append]

theorem sensorPart_eq (config : Config) (controllerId : String) (sensor : TemperatureSensor) :
    (sensorPart (.ofConfig config) controllerId sensor : Multiset (Nat × UInt8)) =
      intendedPairs config controllerId sensor := by
  unfold sensorPart intendedPairs
  cases sensor.reading with
  | error e => rfl
  | ok temp =>
      have distinct : (mappedFans config sensor.key).Nodup := Mapping.fansForSensor_nodup _ _
      change ((mappedFans config sensor.key).flatMap (fanPart (.ofConfig config) temp controllerId) :
        Multiset (Nat × UInt8)) = _
      rw [fanPart_flatMap config temp controllerId fun _ => mappedFans_channel]
      simp only [Finset.filter_val, List.toFinset_val, distinct.dedup, Multiset.filter_coe, Multiset.filterMap_coe]

theorem sensorParts_eq (config : Config) (controllerId : String) (sensors : List TemperatureSensor) :
    (sensors.flatMap (sensorPart (.ofConfig config) controllerId) : Multiset (Nat × UInt8)) =
      intendedBatch config sensors controllerId := by
  unfold intendedBatch
  induction sensors with
  | nil => rfl
  | cons sensor rest ih =>
      rw [List.flatMap_cons, ← Multiset.coe_add, ih, sensorPart_eq, List.map_cons, List.sum_cons]

/-- Every fan of a sensor that answers has a curve, and the curve a speed. -/
def Resolved (config : Config) (sensors : List TemperatureSensor) : Prop :=
  ∀ sensor ∈ sensors, ∀ temp, sensor.reading = .ok temp → ∀ fan ∈ mappedFans config sensor.key,
    ∃ speed, intendedSpeed config temp fan = some speed

theorem collect_ok {config : Config} {sensors : List TemperatureSensor} (resolved : Resolved config sensors)
    (buffer : MonitoringBuffer) : ∃ after, collect (.ofConfig config) sensors buffer = .ok () after := by
  apply (collect_succeeds (.ofConfig config) sensors buffer).mpr
  rintro fan temp ⟨sensor, listed, read, mapped⟩
  obtain ⟨speed, intended⟩ := resolved sensor listed temp read fan mapped
  rw [← fanSpeed_toOption (mappedFans_channel mapped)] at intended
  cases computed : fanSpeed (.ofConfig config) temp fan with
  | error fault => simp [computed, Except.toOption] at intended
  | ok speed => exact ⟨speed, rfl⟩

theorem tick_sends_intended {config : Config} {sensors : List TemperatureSensor}
    (resolved : Resolved config sensors) (state : State) (loaded : state.cache.mappingCache = .ofConfig config) :
    ∃ after batch, collectAndProcessTemperatures sensors state = .ok () after ∧
      sentBatch state.cache.mappingCache sensors state.buffer = some batch ∧
      after.controllers = (state.controllers.batchUpdate (.setSpeeds batch) .blocking).2 ∧
      (batch.map Prod.fst).Nodup ∧
      ∀ controllerId, ((batch.lookup controllerId).getD [] : Multiset (Nat × UInt8)) =
        intendedBatch config sensors controllerId := by
  obtain ⟨buffer, result⟩ := collect_ok resolved state.buffer
  unfold collectAndProcessTemperatures sentBatch
  rw [loaded, result]
  refine ⟨_, batchEntries buffer, rfl, rfl, rfl, ?_, fun controllerId => ?_⟩
  · have keys := buffer.batchData.nodupKeys
    rw [List.NodupKeys, List.keys] at keys
    rw [batchEntries, List.map_map]
    exact keys
  · rw [batchEntries, AList.lookup_entries, ← sensorParts_eq, ← collect_speedsOf controllerId result]
    rfl

/-- A fan under two sensors, a fan with two curves, and a sensor that does not answer. -/
def sharedFans : Config where
  mappings := [⟨"cpu", [⟨"main", 1⟩, ⟨"aux", 2⟩]⟩, ⟨"gpu", [⟨"main", 1⟩]⟩, ⟨"case", [⟨"aux", 2⟩]⟩]
  curves := [.constant "steady" 40, .constant "loud" 90]
  activeCurveMappings := [⟨"steady", [⟨"main", 1⟩, ⟨"aux", 2⟩]⟩, ⟨"loud", [⟨"aux", 2⟩]⟩]

def sharedSensors : List TemperatureSensor :=
  [⟨"cpu", .ok (.fin 50)⟩, ⟨"gpu", .ok (.fin 60)⟩, ⟨"case", .error (anyhow "no reading")⟩]

theorem sharedFans_resolved : Resolved sharedFans sharedSensors := by
  have fans : ∀ sensor ∈ sharedSensors, ∀ fan ∈ mappedFans sharedFans sensor.key,
      fan = ⟨"main", 1⟩ ∨ fan = ⟨"aux", 2⟩ := by decide
  intro sensor listed temp read fan mapped
  rcases fans sensor listed fan mapped with rfl | rfl
  · exact ⟨40, rfl⟩
  · exact ⟨90, rfl⟩

theorem tick_sends_shared_fans :
    (∃ after batch, collectAndProcessTemperatures sharedSensors
        ⟨.new, .new sharedFans, ⟨{}, ∅, ∅⟩⟩ = .ok () after ∧
      sentBatch (.ofConfig sharedFans) sharedSensors .new = some batch ∧
      after.controllers = (ControllerManager.batchUpdate (.setSpeeds batch) .blocking ⟨{}, ∅, ∅⟩).2 ∧
      (batch.map Prod.fst).Nodup ∧
      ∀ controllerId, ((batch.lookup controllerId).getD [] : Multiset (Nat × UInt8)) =
        intendedBatch sharedFans sharedSensors controllerId) ∧
    intendedBatch sharedFans sharedSensors "main" = {(1, 40), (1, 40)} ∧
    intendedBatch sharedFans sharedSensors "aux" = {(2, 90)} :=
  ⟨tick_sends_intended sharedFans_resolved ⟨.new, .new sharedFans, ⟨{}, ∅, ∅⟩⟩ rfl, by decide,
    by decide⟩

end TtRiingd.Providers.Monitoring
