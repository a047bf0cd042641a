import TtRiingd.Core.Event
import TtRiingd.Drivers.Manager

/-!
# The monitoring service

One tick reads every sensor and computes a speed for each fan mapped to one that answers. The first
fan whose speed cannot be computed ends the tick, and then nothing is sent at all.
-/

namespace TtRiingd.Providers
open Drivers

structure MappingCache where
  mappings : Mapping
  curves : List (CurveCfg F32)
  activeCurves : CurveMapping

def MappingCache.new : MappingCache := ⟨⟨∅, ∅⟩, [], ⟨∅⟩⟩

def MappingCache.ofConfig (config : Config) : MappingCache where
  mappings := Mapping.loadMappings config.mappings
  curves := config.curves
  activeCurves := CurveMapping.loadMappings config.activeCurveMappings

structure MonitoringCache where
  sensorData : AList fun _ : String => F32
  mappingCache : MappingCache
  newMapping : MappingCache

def MonitoringCache.new (config : Config) : MonitoringCache := ⟨∅, .ofConfig config, .new⟩

structure MonitoringBuffer where
  batchData : AList fun _ : String => List (Nat × UInt8)
  tempData : AList fun _ : String => F32

def MonitoringBuffer.new : MonitoringBuffer := ⟨∅, ∅⟩

/-- A sensor with what reading it gives in this tick. -/
structure TemperatureSensor where
  key : String
  reading : Except Error F32

namespace Monitoring

def handleEvent (config : Config) (request : RequestPayload) (cache : MonitoringCache) :
    Except Error Response × MonitoringCache :=
  match request with
  | .prepareConfigUpdate _ => (.ok .success, { cache with newMapping := .ofConfig config })
  | .other debug => (.error (anyhow s!"Unhandled event: {debug}"), cache)

def handleNotify (event : Event) (cache : MonitoringCache) : MonitoringCache :=
  match event with
  | .commitConfigUpdate _ => { cache with mappingCache := cache.newMapping }
  | .rollbackConfigUpdate _ => cache
  | _ => cache

def calculateFanSpeed (controllerId : String) (channel : UInt8) (temp : F32) (cache : MappingCache) :
    Except Fault UInt8 :=
  match cache.activeCurves.getCurveForFan ⟨controllerId, channel.toNat⟩ with
  | none =>
      .error (.error (anyhow
        s!"No active curve found for controller {controllerId} channel {channel}"))
  | some curveName =>
      match cache.curves.find? fun c => c.getId = curveName with
      | none => .error (.error (anyhow s!"Curve {curveName} not found"))
      | some curve => curve.calculateSpeed temp

def fanSpeed (cache : MappingCache) (temp : F32) (fan : FanRef) : Except Fault UInt8 :=
  if fan.channel < 256 then
    match calculateFanSpeed fan.controllerId (UInt8.ofNat fan.channel) temp cache with
    | .ok speed => .ok speed
    | .error fault => .error (fault.context "Failed to calculate fan speed")
  else .error (.error (anyhow s!"Channel {fan.channel} too large for u8"))

def pushSpeed (fan : FanRef) (speed : UInt8) (buffer : MonitoringBuffer) : MonitoringBuffer :=
  let entry := (buffer.batchData.lookup fan.controllerId).getD []
  { buffer with batchData := buffer.batchData.insert fan.controllerId (entry ++ [(fan.channel, speed)]) }

def processFan (cache : MappingCache) (temp : F32) (fan : FanRef) : EStateM Fault MonitoringBuffer Unit :=
  fun buffer =>
    match fanSpeed cache temp fan with
    | .ok speed => .ok () (pushSpeed fan speed buffer)
    | .error fault => .error fault buffer

def processSensor (cache : MappingCache) (sensor : TemperatureSensor) :
    EStateM Fault MonitoringBuffer Unit := fun buffer =>
  match sensor.reading with
  | .ok temp =>
      (cache.mappings.fansForSensor sensor.key).forM (processFan cache temp)
        { buffer with tempData := buffer.tempData.insert sensor.key temp }
  | .error _ => .ok () buffer

def collect (cache : MappingCache) (sensors : List TemperatureSensor) :
    EStateM Fault MonitoringBuffer Unit := do
  set MonitoringBuffer.new
  sensors.forM (processSensor cache)

def batchEntries (buffer : MonitoringBuffer) : List (String × List (Nat × UInt8)) :=
  buffer.batchData.entries.map fun entry => (entry.1, entry.2)

structure State where
  buffer : MonitoringBuffer
  cache : MonitoringCache
  controllers : ControllerManager

def collectAndProcessTemperatures (sensors : List TemperatureSensor) : EStateM Fault State Unit :=
  fun state =>
    match collect state.cache.mappingCache sensors state.buffer with
    | .error fault buffer => .error fault { state with buffer }
    | .ok () buffer =>
        .ok () {
          buffer
          cache := { state.cache with sensorData := buffer.tempData }
          controllers := (state.controllers.batchUpdate (.setSpeeds (batchEntries buffer)) .blocking).2 }

def sentBatch (cache : MappingCache) (sensors : List TemperatureSensor) (buffer : MonitoringBuffer) :
    Option (List (String × List (Nat × UInt8))) :=
  match collect cache sensors buffer with
  | .ok () buffer => some (batchEntries buffer)
  | .error _ _ => none

/-! ## Which ticks send a batch, and what is in it -/

def Mapped (cache : MappingCache) (sensors : List TemperatureSensor) (fan : FanRef) (temp : F32) : Prop :=
  ∃ sensor ∈ sensors, sensor.reading = .ok temp ∧ fan ∈ cache.mappings.fansForSensor sensor.key

def InBatch (fan : FanRef) (speed : UInt8) (buffer : MonitoringBuffer) : Prop :=
  (fan.channel, speed) ∈ (buffer.batchData.lookup fan.controllerId).getD []

theorem inBatch_iff {fan : FanRef} {speed : UInt8} {buffer : MonitoringBuffer} :
    InBatch fan speed buffer ↔
      ∃ entry ∈ batchEntries buffer, entry.1 = fan.controllerId ∧ (fan.channel, speed) ∈ entry.2 := by
  unfold InBatch batchEntries
  constructor
  · intro member
    cases found : buffer.batchData.lookup fan.controllerId with
    | none => simp [found] at member
    | some speeds =>
        rw [found, Option.getD_some] at member
        refine ⟨(fan.controllerId, speeds), List.mem_map.mpr ⟨⟨fan.controllerId, speeds⟩, ?_, rfl⟩, rfl, member⟩
        exact (AList.mem_entries_iff_lookup _ _ _).mpr found
  · rintro ⟨entry, listed, same, member⟩
    obtain ⟨⟨id, speeds⟩, stored, rfl⟩ := List.mem_map.mp listed
    rw [← same, (AList.mem_entries_iff_lookup _ _ _).mp stored, Option.getD_some]
    exact member

theorem pushSpeed_inBatch (fan other : FanRef) (speed otherSpeed : UInt8) (buffer : MonitoringBuffer) :
    InBatch fan speed (pushSpeed other otherSpeed buffer) ↔
      InBatch fan speed buffer ∨ other = fan ∧ otherSpeed = speed := by
  obtain ⟨id, channel⟩ := fan
  obtain ⟨otherId, otherChannel⟩ := other
  simp only [InBatch, pushSpeed, AList.lookup_insert_eq, FanRef.mk.injEq]
  by_cases same : id = otherId
  · subst same
    simp only [if_true, Option.getD_some, List.mem_append, List.mem_singleton, Prod.mk.injEq, true_and]
    exact or_congr_right (and_congr eq_comm eq_comm)
  · rw [if_neg same]
    constructor
    · exact .inl
    · rintro (older | ⟨⟨rfl, -⟩, -⟩)
      · exact older
      · exact absurd rfl same

theorem processFan_succeeds (cache : MappingCache) (temp : F32) (fan : FanRef) (buffer : MonitoringBuffer) :
    (∃ after, processFan cache temp fan buffer = .ok () after) ↔
      ∃ speed, fanSpeed cache temp fan = .ok speed := by
  unfold processFan
  cases fanSpeed cache temp fan with
  | ok speed => simp
  | error fault => simp

theorem processFan_gathers {cache : MappingCache} {temp : F32} {fan other : FanRef} {speed : UInt8}
    {buffer after : MonitoringBuffer} (result : processFan cache temp other buffer = .ok () after) :
    InBatch fan speed after ↔
      InBatch fan speed buffer ∨ other = fan ∧ fanSpeed cache temp other = .ok speed := by
  unfold processFan at result
  cases computed : fanSpeed cache temp other with
  | error fault => simp [computed] at result
  | ok otherSpeed =>
      simp only [computed, EStateM.Result.ok.injEq, true_and] at result
      rw [← result, pushSpeed_inBatch, Except.ok.injEq]

theorem processSensor_succeeds (cache : MappingCache) (sensor : TemperatureSensor)
    (buffer : MonitoringBuffer) :
    (∃ after, processSensor cache sensor buffer = .ok () after) ↔
      ∀ temp, sensor.reading = .ok temp → ∀ fan ∈ cache.mappings.fansForSensor sensor.key,
        ∃ speed, fanSpeed cache temp fan = .ok speed := by
  unfold processSensor
  cases sensor.reading with
  | error e => simp
  | ok temp =>
      simp only [Except.ok.injEq, forall_eq']
      exact EStateM.forM_succeeds_iff (fun _ _ _ _ _ => trivial)
        (fun fan state _ => processFan_succeeds cache temp fan state) _ trivial

theorem processSensor_gathers {cache : MappingCache} {sensor : TemperatureSensor} {fan : FanRef}
    {speed : UInt8} {buffer after : MonitoringBuffer}
    (result : processSensor cache sensor buffer = .ok () after) :
    InBatch fan speed after ↔ InBatch fan speed buffer ∨ ∃ temp, sensor.reading = .ok temp ∧
      fan ∈ cache.mappings.fansForSensor sensor.key ∧ fanSpeed cache temp fan = .ok speed := by
  unfold processSensor at result
  cases read : sensor.reading with
  | error e =>
      simp only [read, EStateM.Result.ok.injEq, true_and] at result
      simp [result]
  | ok temp =>
      have each : ∀ other state after, processFan cache temp other state = .ok () after →
          (InBatch fan speed after ↔
            InBatch fan speed state ∨ other = fan ∧ fanSpeed cache temp other = .ok speed) :=
        fun _ _ _ => processFan_gathers
      simp only [read] at result
      rw [EStateM.forM_gathers each result]
      apply or_congr
      · exact Iff.rfl
      · constructor
        · rintro ⟨other, member, rfl, computed⟩
          exact ⟨temp, rfl, member, computed⟩
        · rintro ⟨_, same, member, computed⟩
          cases same
          exact ⟨fan, member, rfl, computed⟩

theorem collect_succeeds (cache : MappingCache) (sensors : List TemperatureSensor)
    (buffer : MonitoringBuffer) :
    (∃ after, collect cache sensors buffer = .ok () after) ↔
      ∀ fan temp, Mapped cache sensors fan temp → ∃ speed, fanSpeed cache temp fan = .ok speed := by
  unfold collect
  rw [EStateM.set_bind, EStateM.forM_succeeds_iff (fun _ _ _ _ _ => trivial)
    (fun sensor state _ => processSensor_succeeds cache sensor state) _ trivial]
  constructor
  · rintro all fan temp ⟨sensor, listed, read, mapped⟩
    exact all sensor listed temp read fan mapped
  · intro all sensor listed temp read fan mapped
    exact all fan temp ⟨sensor, listed, read, mapped⟩

theorem collect_gathers {cache : MappingCache} {sensors : List TemperatureSensor}
    {buffer after : MonitoringBuffer} (result : collect cache sensors buffer = .ok () after)
    (fan : FanRef) (speed : UInt8) :
    InBatch fan speed after ↔ ∃ temp, Mapped cache sensors fan temp ∧ fanSpeed cache temp fan = .ok speed := by
  have each : ∀ sensor state after, processSensor cache sensor state = .ok () after →
      (InBatch fan speed after ↔ InBatch fan speed state ∨ ∃ temp, sensor.reading = .ok temp ∧
        fan ∈ cache.mappings.fansForSensor sensor.key ∧ fanSpeed cache temp fan = .ok speed) :=
    fun _ _ _ => processSensor_gathers
  unfold collect at result
  rw [EStateM.set_bind] at result
  rw [EStateM.forM_gathers each result]
  have nothing : ¬ InBatch fan speed MonitoringBuffer.new := by
    simp [InBatch, MonitoringBuffer.new]
  rw [or_iff_right nothing]
  constructor
  · rintro ⟨sensor, listed, temp, read, mapped, computed⟩
    exact ⟨temp, ⟨sensor, listed, read, mapped⟩, computed⟩
  · rintro ⟨temp, ⟨sensor, listed, read, mapped⟩, computed⟩
    exact ⟨sensor, listed, temp, read, mapped, computed⟩

theorem sentBatch_eq_some {cache : MappingCache} {sensors : List TemperatureSensor}
    {buffer : MonitoringBuffer} {batch : List (String × List (Nat × UInt8))}
    (sent : sentBatch cache sensors buffer = some batch) :
    (∀ fan temp, Mapped cache sensors fan temp → ∃ speed, fanSpeed cache temp fan = .ok speed) ∧
    ∀ fan speed, (∃ entry ∈ batch, entry.1 = fan.controllerId ∧ (fan.channel, speed) ∈ entry.2) ↔
      ∃ temp, Mapped cache sensors fan temp ∧ fanSpeed cache temp fan = .ok speed := by
  unfold sentBatch at sent
  cases result : collect cache sensors buffer with
  | error fault after => simp [result] at sent
  | ok value after =>
      simp only [result, Option.some.injEq] at sent
      subst sent
      refine ⟨(collect_succeeds cache sensors buffer).mp ⟨after, result⟩, fun fan speed => ?_⟩
      rw [← inBatch_iff]
      exact collect_gathers result fan speed

theorem sentBatch_unique {cache : MappingCache} {sensors : List TemperatureSensor}
    {buffer : MonitoringBuffer} {batch : List (String × List (Nat × UInt8))} {id : String}
    {speeds others : List (Nat × UInt8)} (sent : sentBatch cache sensors buffer = some batch)
    (first : (id, speeds) ∈ batch) (second : (id, others) ∈ batch) : speeds = others := by
  unfold sentBatch at sent
  cases result : collect cache sensors buffer with
  | error fault after => simp [result] at sent
  | ok value after =>
      simp only [result, Option.some.injEq] at sent
      subst sent
      have stored {values : List (Nat × UInt8)} (member : (id, values) ∈ batchEntries after) :
          after.batchData.lookup id = some values := by
        obtain ⟨⟨key, found⟩, listed, same⟩ := List.mem_map.mp member
        cases same
        exact (AList.mem_entries_iff_lookup _ _ _).mp listed
      have same := stored first
      rw [stored second, Option.some.injEq] at same
      exact same.symm

theorem sentBatch_isSome_iff (cache : MappingCache) (sensors : List TemperatureSensor)
    (buffer : MonitoringBuffer) :
    (∃ batch, sentBatch cache sensors buffer = some batch) ↔
      ∀ fan temp, Mapped cache sensors fan temp → ∃ speed, fanSpeed cache temp fan = .ok speed := by
  rw [← collect_succeeds cache sensors buffer]
  unfold sentBatch
  cases collect cache sensors buffer with
  | error fault after => simp
  | ok value after => simp

def HealthyFansDriven (cache : MappingCache) (sensors : List TemperatureSensor)
    (buffer : MonitoringBuffer) : Prop :=
  ∀ fan temp speed, Mapped cache sensors fan temp → fanSpeed cache temp fan = .ok speed →
    ∃ batch, sentBatch cache sensors buffer = some batch ∧
      ∃ entry ∈ batch, entry.1 = fan.controllerId ∧ (fan.channel, speed) ∈ entry.2

theorem healthyFansDriven_iff (cache : MappingCache) (sensors : List TemperatureSensor)
    (buffer : MonitoringBuffer) :
    HealthyFansDriven cache sensors buffer ↔
      (∀ fan temp, Mapped cache sensors fan temp → ∃ speed, fanSpeed cache temp fan = .ok speed) ∨
      ∀ fan temp, Mapped cache sensors fan temp → ∀ speed, fanSpeed cache temp fan ≠ .ok speed := by
  constructor
  · intro driven
    by_cases none_healthy : ∀ fan temp, Mapped cache sensors fan temp →
        ∀ speed, fanSpeed cache temp fan ≠ .ok speed
    · exact .inr none_healthy
    · push Not at none_healthy
      obtain ⟨fan, temp, mapped, speed, computed⟩ := none_healthy
      obtain ⟨batch, sent, -⟩ := driven fan temp speed mapped computed
      exact .inl ((sentBatch_isSome_iff cache sensors buffer).mp ⟨batch, sent⟩)
  · rintro (all | none_healthy) fan temp speed mapped computed
    · obtain ⟨batch, sent⟩ := (sentBatch_isSome_iff cache sensors buffer).mpr all
      exact ⟨batch, sent, ((sentBatch_eq_some sent).2 fan speed).mpr ⟨temp, mapped, computed⟩⟩
    · exact absurd computed (none_healthy fan temp mapped speed)

def strayCurve : MappingCache :=
  .ofConfig {
    mappings := [⟨"cpu", [⟨"main", 1⟩, ⟨"main", 2⟩]⟩]
    curves := [.constant "steady" 40]
    activeCurveMappings := [⟨"steady", [⟨"main", 1⟩]⟩, ⟨"missing", [⟨"main", 2⟩]⟩] }

def cpuSensor : TemperatureSensor := ⟨"cpu", .ok (.fin 50)⟩

theorem stray_curve_stops_healthy_fan :
    Mapped strayCurve [cpuSensor] ⟨"main", 1⟩ (.fin 50) ∧
      fanSpeed strayCurve (.fin 50) ⟨"main", 1⟩ = .ok 40 ∧
      sentBatch strayCurve [cpuSensor] .new = none ∧
      ¬ HealthyFansDriven strayCurve [cpuSensor] .new := by
  have mapped : Mapped strayCurve [cpuSensor] ⟨"main", 1⟩ (.fin 50) :=
    ⟨cpuSensor, by simp, rfl, by decide⟩
  have computed : fanSpeed strayCurve (.fin 50) ⟨"main", 1⟩ = .ok 40 := by rfl
  have nothing : sentBatch strayCurve [cpuSensor] .new = none := by rfl
  refine ⟨mapped, computed, nothing, fun driven => ?_⟩
  obtain ⟨batch, sent, -⟩ := driven _ _ _ mapped computed
  rw [nothing] at sent
  contradiction

end Monitoring

end TtRiingd.Providers
