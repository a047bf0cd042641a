import TtRiingd.Config.CurveRange
import TtRiingd.Config.Load
import TtRiingd.Drivers.Workers
import TtRiingd.Providers.Monitoring

/-!
# Speeds on the wire

The speed that a curve returns goes through the batch of the tick into the last byte of a frame. Nothing
on the way bounds it.
-/

namespace TtRiingd.Providers
open Drivers Monitoring TTRiingQuad

/-! ## The frames of a batch -/

def ReceivesOnly (allowed : List UInt8 → Prop) (before after : TTRiingQuad) : Prop :=
  ∃ frames, after.dev.received = before.dev.received ++ frames ∧ ∀ frame ∈ frames, allowed frame

section Frames
variable {allowed : List UInt8 → Prop}

theorem ReceivesOnly.of_same {before after : TTRiingQuad}
    (same : after.dev.received = before.dev.received) : ReceivesOnly allowed before after :=
  ⟨[], by simp [same], by simp⟩

theorem ReceivesOnly.trans (a b c : TTRiingQuad) (first : ReceivesOnly allowed a b)
    (second : ReceivesOnly allowed b c) : ReceivesOnly allowed a c := by
  obtain ⟨frames, received, good⟩ := first
  obtain ⟨others, received', good'⟩ := second
  refine ⟨frames ++ others, by rw [received', received, List.append_assoc], fun frame member => ?_⟩
  rcases List.mem_append.mp member with member | member
  · exact good frame member
  · exact good' frame member

theorem onDevice_receives {α : Type} {call : EStateM Error HidDevice α} {cmd : Command}
    (asks : ∀ dev, (call dev).state = (request cmd dev).state) (good : allowed cmd.toBytes) :
    EStateM.Along (ReceivesOnly allowed) (onDevice call) := by
  intro ctrl
  rw [onDevice_state]
  have received := request_received cmd ctrl.dev
  rw [← asks] at received
  by_cases sends : Sends ctrl.dev cmd
  · rw [if_pos sends] at received
    exact ⟨[cmd.toBytes], received, by simpa using good⟩
  · rw [if_neg sends] at received
    exact .of_same received

theorem updateFan_receives (channel : Nat) (speed : UInt8) (rpm : UInt16) :
    EStateM.Along (ReceivesOnly allowed) (updateFan channel speed rpm) := by
  intro ctrl
  apply ReceivesOnly.of_same
  unfold updateFan
  cases channel with
  | zero => rfl
  | succ index =>
      simp only
      split <;> rfl

theorem updateSpeedBatch_receives {batch : List (Nat × UInt8)}
    (sets : ∀ entry ∈ batch, allowed (Command.setSpeed (UInt8.ofNat entry.1) entry.2).toBytes)
    (reads : ∀ port, allowed (Command.getData port).toBytes) :
    EStateM.Along (ReceivesOnly allowed) (updateSpeedBatch batch) := by
  have still (ctrl : TTRiingQuad) : ReceivesOnly allowed ctrl ctrl := .of_same rfl
  apply EStateM.Along.bind ReceivesOnly.trans
  · apply EStateM.Along.mapM' still ReceivesOnly.trans
    intro entry member
    apply EStateM.Along.bind ReceivesOnly.trans
    · apply EStateM.Along.bind ReceivesOnly.trans
      · exact onDevice_receives (requestStatus_state _ _ _) (sets entry member)
      · exact fun _ => onDevice_receives (getData_state _) (reads _)
    · exact fun _ => .pure still _
  · intro result
    exact .forM still ReceivesOnly.trans (fun _ => updateFan_receives _ _ _) result

def newFrames (batch : List (Nat × UInt8)) (ctrl : TTRiingQuad) : List (List UInt8) :=
  (updateSpeedBatch batch ctrl).state.dev.received.drop ctrl.dev.received.length

theorem newFrames_setSpeed {batch : List (Nat × UInt8)} {ctrl : TTRiingQuad} {port speed : UInt8}
    (sent : (Command.setSpeed port speed).toBytes ∈ newFrames batch ctrl) :
    ∃ entry ∈ batch, entry.2 = speed := by
  let ofBatch (frame : List UInt8) :=
    ∀ port speed, frame = (Command.setSpeed port speed).toBytes → ∃ entry ∈ batch, entry.2 = speed
  have receives : EStateM.Along (ReceivesOnly ofBatch) (updateSpeedBatch batch) := by
    apply updateSpeedBatch_receives
    · intro entry member port speed same
      simp only [Command.toBytes, List.cons.injEq, true_and, and_true] at same
      exact ⟨entry, member, same.2⟩
    · intro port port' speed same
      simp [Command.toBytes] at same
  obtain ⟨frames, received, good⟩ := receives ctrl
  rw [newFrames, received, List.drop_left] at sent
  exact good _ sent port speed rfl

end Frames

/-! ## The speeds of a tick -/

def ExactReadings (sensors : List TemperatureSensor) : Prop :=
  ∀ sensor ∈ sensors, ∀ reading, sensor.reading = .ok reading → ∃ temperature, reading = .fin temperature

structure SpeedsArePercentages (config : Config) : Prop where
  curves : ∀ curve ∈ config.curves, curve.SpeedsInPercent
  frames : ∀ {sensors buffer batch entry ctrl port speed}, ExactReadings sensors →
    sentBatch (.ofConfig config) sensors buffer = some batch → entry ∈ batch →
    (Command.setSpeed port speed).toBytes ∈ newFrames entry.2 ctrl → speed ≤ 100

theorem fanSpeed_ok {cache : MappingCache} {temp : F32} {fan : FanRef} {speed : UInt8}
    (computed : fanSpeed cache temp fan = .ok speed) :
    ∃ curve ∈ cache.curves, curve.calculateSpeed temp = .ok speed := by
  unfold fanSpeed at computed
  split at computed
  · cases calculated : calculateFanSpeed fan.controllerId (UInt8.ofNat fan.channel) temp cache with
    | error fault => simp [calculated] at computed
    | ok value =>
        simp only [calculated, Except.ok.injEq] at computed
        subst computed
        unfold calculateFanSpeed at calculated
        split at calculated
        · contradiction
        · split at calculated
          · contradiction
          · rename_i curve chosen
            exact ⟨curve, List.mem_of_find?_eq_some chosen, calculated⟩
  · contradiction

theorem sentBatch_percent {config : Config} (percent : ∀ curve ∈ config.curves, curve.SpeedsInPercent)
    {sensors : List TemperatureSensor} {buffer : MonitoringBuffer}
    {batch : List (String × List (Nat × UInt8))} (readings : ExactReadings sensors)
    (sent : sentBatch (.ofConfig config) sensors buffer = some batch) :
    ∀ entry ∈ batch, ∀ command ∈ entry.2, command.2 ≤ 100 := by
  intro entry member command listed
  obtain ⟨temp, ⟨sensor, known, read, -⟩, computed⟩ :=
    ((sentBatch_eq_some sent).2 ⟨entry.1, command.1⟩ command.2).mp ⟨entry, member, rfl, listed⟩
  obtain ⟨temperature, rfl⟩ := readings sensor known temp read
  obtain ⟨curve, given, calculated⟩ := fanSpeed_ok computed
  exact percent curve given temperature command.2 calculated

theorem speedsArePercentages_iff {config : Config} {curves : List (CurveCfg ℚ)}
    (numbers : config.curves = curves.map (CurveCfg.mapNumbers F32.fin)) :
    SpeedsArePercentages config ↔ ∀ curve ∈ curves, curve.BoundedToPercent := by
  have percent_iff : (∀ curve ∈ config.curves, curve.SpeedsInPercent) ↔
      ∀ curve ∈ curves, curve.BoundedToPercent := by
    rw [numbers, List.forall_mem_map]
    exact forall₂_congr fun curve _ => speedsInPercent_iff curve
  rw [← percent_iff]
  constructor
  · exact SpeedsArePercentages.curves
  · intro percent
    constructor
    · exact percent
    · intro sensors buffer batch entry ctrl port speed readings sent member frame
      obtain ⟨command, listed, rfl⟩ := newFrames_setSpeed frame
      exact sentBatch_percent percent readings sent entry member command listed

def gentleCurve : CurveCfg ℚ := .stepCurve "gentle" [30, 50, 80] [20, 60, 100]

theorem gentleCurve_bounded : gentleCurve.BoundedToPercent := by
  intro sameLength
  apply StepInPercent.of_forall
  intro speed listed
  simp only [List.mem_cons, List.not_mem_nil, or_false] at listed
  rcases listed with rfl | rfl | rfl
  all_goals decide

theorem speedsArePercentages_gentleCurve :
    ∃ config, ConfigManager.loadConfigFromPath none "config.yml"
        (.parsed { curves := [gentleCurve.mapNumbers F32.fin] }) = .ok config ∧
      SpeedsArePercentages config := by
  have load : ∃ config, ConfigManager.loadConfigFromPath none "config.yml"
        (.parsed { curves := [gentleCurve.mapNumbers F32.fin] }) = .ok config ∧
      config.curves = [gentleCurve, .constant "dummy_curve" 80].map (CurveCfg.mapNumbers F32.fin) :=
    ⟨_, rfl, rfl⟩
  obtain ⟨config, loaded, numbers⟩ := load
  refine ⟨config, loaded, (speedsArePercentages_iff numbers).mpr ?_⟩
  intro curve member
  rcases List.mem_cons.mp member with rfl | dummy
  · exact gentleCurve_bounded
  · rw [List.mem_singleton.mp dummy]
    exact (by decide : (80 : UInt8) ≤ 100)

def turboFile : Config where
  mappings := [⟨"cpu", [⟨"main", 1⟩]⟩]
  curves := [.constant "turbo" 200]
  activeCurveMappings := [⟨"turbo", [⟨"main", 1⟩]⟩]

theorem constant_above_hundred :
    ∃ config, ConfigManager.loadConfigFromPath none "config.yml" (.parsed turboFile) = .ok config ∧
      sentBatch (.ofConfig config) [cpuSensor] .new = some [("main", [(1, 200)])] ∧
      ¬ SpeedsArePercentages config := by
  have load : ∃ config, ConfigManager.loadConfigFromPath none "config.yml" (.parsed turboFile) = .ok config ∧
      sentBatch (.ofConfig config) [cpuSensor] .new = some [("main", [(1, 200)])] ∧
      .constant "turbo" 200 ∈ config.curves := ⟨_, rfl, rfl, .head _⟩
  obtain ⟨config, loaded, sent, listed⟩ := load
  refine ⟨config, loaded, sent, fun percentages => ?_⟩
  have bound := percentages.curves _ listed 0 200 rfl
  revert bound
  decide

end TtRiingd.Providers
