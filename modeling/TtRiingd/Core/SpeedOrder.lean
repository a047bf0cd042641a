import TtRiingd.Config.CurveShape
import TtRiingd.Core.Daemon
import TtRiingd.Core.Restart
import TtRiingd.Providers.TickBatch

/-!
# Speeds in the order of the readings

From one commit to the next, the speeds that the device of a fan is sent are those of its readings by the
committed curve, in the order of the ticks, less those that did not get through. So while it gets hotter, a fan
whose curve rises is never told to slow down.
-/

namespace TtRiingd.Core
open Drivers Providers Monitoring TTRiingQuad

/-! ## The speeds among the frames -/

def speedFor (port : UInt8) (frame : List UInt8) : Option UInt8 :=
  match decode frame with
  | some (.setSpeed other speed) => if other = port then some speed else none
  | _ => none

def speedsAt (port : UInt8) (frames : List (List UInt8)) : List UInt8 := frames.filterMap (speedFor port)

theorem speedsAt_append (port : UInt8) (frames more : List (List UInt8)) :
    speedsAt port (frames ++ more) = speedsAt port frames ++ speedsAt port more := List.filterMap_append

theorem speedFor_toBytes (port : UInt8) (cmd : Command) :
    speedFor port cmd.toBytes = match cmd with
      | .setSpeed other speed => if other = port then some speed else none
      | _ => none := by
  rw [speedFor, decode_toBytes]
  cases cmd <;> rfl

def entrySpeed (port : UInt8) (entry : Nat × UInt8) : Option UInt8 :=
  if UInt8.ofNat entry.1 = port then some entry.2 else none

theorem speedsAt_entryFrames (port : UInt8) (entries : List (Nat × UInt8)) :
    speedsAt port (entries.flatMap entryFrames) = entries.filterMap (entrySpeed port) := by
  induction entries with
  | nil => rfl
  | cons entry rest ih =>
      have sets : speedsAt port (entryFrames entry) = (entrySpeed port entry).toList := by
        unfold speedsAt entryFrames entrySpeed
        rw [List.filterMap_cons, speedFor_toBytes, List.filterMap_cons, speedFor_toBytes, List.filterMap_nil]
        by_cases addressed : UInt8.ofNat entry.1 = port <;> simp [addressed]
      rw [List.flatMap_cons, speedsAt_append, ih, sets]
      cases speed : entrySpeed port entry <;> simp [speed]

theorem speedsAt_setColors (port : UInt8) (colors : List (String × ControllerColorBuffer)) (controllerId : String) :
    speedsAt port ((BatchCommand.setColors colors).frames controllerId) = [] := by
  apply List.filterMap_eq_nil_iff.mpr
  intro frame member
  obtain ⟨entry, -, -, pair, -, rfl⟩ := mem_frames_setColors member
  rw [speedFor_toBytes]

/-! ## The speeds of a tick -/

/-- What the sensors of a fan read in a tick. -/
def readingsOf (config : Config) (fan : FanRef) (sensors : List TemperatureSensor) : List F32 :=
  sensors.flatMap fun sensor =>
    if fan ∈ mappedFans config sensor.key then sensor.reading.toOption.toList else []

def speedsFor (config : Config) (fan : FanRef) (ticks : List (List TemperatureSensor)) : List UInt8 :=
  (ticks.flatMap (readingsOf config fan)).filterMap fun temp => intendedSpeed config temp fan

theorem batchEntries_frames (buffer : MonitoringBuffer) (controllerId : String) :
    (BatchCommand.setSpeeds (batchEntries buffer)).frames controllerId =
      (speedsOf buffer controllerId).flatMap entryFrames := by
  rw [BatchCommand.frames, speedsOf]
  simp only [ControllerCommand.frames]
  rw [List.flatMap_of_nodup (batchEntries_nodup buffer) controllerId fun speeds => speeds.flatMap entryFrames,
    batchEntries, AList.lookup_entries]
  cases buffer.batchData.lookup controllerId <;> rfl

theorem fanPart_entrySpeed {config : Config} {temp : F32} {port : UInt8} {controllerId : String} {fan : FanRef}
    (channel : fan.channel < 256) :
    (fanPart (.ofConfig config) temp controllerId fan).filterMap (entrySpeed port) =
      if fan = ⟨controllerId, port.toNat⟩ then (intendedSpeed config temp fan).toList else [] := by
  have addressed : UInt8.ofNat fan.channel = port ↔ fan.channel = port.toNat := by
    constructor
    · rintro rfl
      exact (UInt8.toNat_ofNat_of_lt' channel).symm
    · intro same
      rw [same, UInt8.ofNat_toNat]
  unfold fanPart
  rw [fanSpeed_toOption channel]
  by_cases same : fan.controllerId = controllerId
  · rw [if_pos same]
    cases intendedSpeed config temp fan with
    | none => simp
    | some speed =>
        by_cases at_port : fan.channel = port.toNat
        · obtain ⟨id, position⟩ := fan
          cases same
          cases at_port
          simp [entrySpeed]
        · have apart : fan ≠ ⟨controllerId, port.toNat⟩ := fun same => at_port (congrArg FanRef.channel same)
          simp [entrySpeed, addressed, at_port, apart]
  · have apart : fan ≠ ⟨controllerId, port.toNat⟩ := fun equal => same (congrArg FanRef.controllerId equal)
    rw [if_neg same, if_neg apart, List.filterMap_nil]

theorem fanParts_entrySpeed {config : Config} {temp : F32} {port : UInt8} {controllerId : String} {fans : List FanRef}
    (distinct : fans.Nodup) (channels : ∀ fan ∈ fans, fan.channel < 256) :
    (fans.flatMap (fanPart (.ofConfig config) temp controllerId)).filterMap (entrySpeed port) =
      if ⟨controllerId, port.toNat⟩ ∈ fans then (intendedSpeed config temp ⟨controllerId, port.toNat⟩).toList
      else [] := by
  induction fans with
  | nil => rfl
  | cons fan rest ih =>
      rw [List.nodup_cons] at distinct
      rw [List.forall_mem_cons] at channels
      rw [List.flatMap_cons, List.filterMap_append, fanPart_entrySpeed channels.1, ih distinct.2 channels.2]
      by_cases same : fan = ⟨controllerId, port.toNat⟩
      · subst same
        rw [if_pos rfl, if_neg distinct.1, if_pos List.mem_cons_self, List.append_nil]
      · rw [if_neg same, List.nil_append]
        exact if_congr (by simp [Ne.symm same]) rfl rfl

theorem sensorPart_entrySpeed (config : Config) (port : UInt8) (controllerId : String) (sensor : TemperatureSensor) :
    (sensorPart (.ofConfig config) controllerId sensor).filterMap (entrySpeed port) =
      (if ⟨controllerId, port.toNat⟩ ∈ mappedFans config sensor.key then sensor.reading.toOption.toList
        else []).filterMap fun temp => intendedSpeed config temp ⟨controllerId, port.toNat⟩ := by
  unfold sensorPart
  cases sensor.reading with
  | error e => simp [Except.toOption]
  | ok temp =>
      have distinct : (mappedFans config sensor.key).Nodup := Mapping.fansForSensor_nodup _ _
      have parts := @fanParts_entrySpeed config temp port controllerId _ distinct fun _ => mappedFans_channel
      change ((mappedFans config sensor.key).flatMap (fanPart (.ofConfig config) temp controllerId)).filterMap _ = _
      rw [parts]
      split
      · cases speed : intendedSpeed config temp ⟨controllerId, port.toNat⟩ <;> simp [Except.toOption, speed]
      · rfl

theorem sensorParts_entrySpeed (config : Config) (port : UInt8) (controllerId : String)
    (sensors : List TemperatureSensor) :
    (sensors.flatMap (sensorPart (.ofConfig config) controllerId)).filterMap (entrySpeed port) =
      speedsFor config ⟨controllerId, port.toNat⟩ [sensors] := by
  unfold speedsFor
  rw [List.flatMap_singleton]
  induction sensors with
  | nil => rfl
  | cons sensor rest ih =>
      rw [List.flatMap_cons, List.filterMap_append, ih, sensorPart_entrySpeed, readingsOf, readingsOf,
        List.flatMap_cons, List.filterMap_append]

theorem sentBatch_speeds {config : Config} {sensors : List TemperatureSensor} {buffer : MonitoringBuffer}
    {batch : List (String × List (Nat × UInt8))} (sent : sentBatch (.ofConfig config) sensors buffer = some batch)
    (port : UInt8) (controllerId : String) :
    speedsAt port ((BatchCommand.setSpeeds batch).frames controllerId) =
      speedsFor config ⟨controllerId, port.toNat⟩ [sensors] := by
  unfold sentBatch at sent
  split at sent
  · rename_i after collected
    cases sent
    rw [batchEntries_frames, speedsAt_entryFrames, collect_speedsOf controllerId collected, sensorParts_entrySpeed]
  · contradiction

theorem sentBatch_new {sensors : List TemperatureSensor} {buffer : MonitoringBuffer}
    {batch : List (String × List (Nat × UInt8))} (sent : sentBatch .new sensors buffer = some batch)
    (port : UInt8) (controllerId : String) :
    speedsAt port ((BatchCommand.setSpeeds batch).frames controllerId) = [] := by
  apply List.filterMap_eq_nil_iff.mpr
  intro frame member
  obtain ⟨entry, listed, -, pair, inside, either⟩ := mem_frames_setSpeeds member
  obtain ⟨temp, mapped, -⟩ := ((sentBatch_eq_some sent).2 ⟨entry.1, pair.1⟩ pair.2).mp ⟨entry, listed, rfl, inside⟩
  exact absurd mapped (not_mapped_new _ _ _)

/-! ## The order along a run -/

theorem speedsFor_append (config : Config) (fan : FanRef) (ticks more : List (List TemperatureSensor)) :
    speedsFor config fan (ticks ++ more) = speedsFor config fan ticks ++ speedsFor config fan more := by
  unfold speedsFor
  rw [List.flatMap_append, List.filterMap_append]

namespace Daemon

def line (daemon : Daemon) (workerId : Nat) : List (List UInt8) :=
  daemon.world.sharedState.elim [] fun state => lineOf state.controllers workerId

/-- Since `earlier` the lines have grown, as to speeds, by those of the ticks, in the order of the ticks. -/
def Ordered (config : Config) (earlier daemon : Daemon) : Prop :=
  ∃ state log ticks, daemon.world.sharedState = some state ∧ Logged log state.controllers ∧
    daemon.ticks = earlier.ticks ++ ticks ∧ ∀ workerId controllerId port,
      (speedsAt port (log workerId controllerId)).Sublist
        (speedsAt port (earlier.line workerId) ++ speedsFor config ⟨controllerId, port.toNat⟩ ticks)

theorem asks_speeds {config : Config} {daemon after : Daemon} {act : DaemonAct}
    (drawn : Drawn [config] daemon.world.monitoring.mappingCache) (taken : daemon.step act = some after) :
    ∃ more, after.ticks = daemon.ticks ++ more ∧ ∀ controllerId port,
      (speedsAt port (daemon.asks act controllerId)).Sublist
        (speedsFor config ⟨controllerId, port.toNat⟩ more) := by
  obtain ⟨-, same | ⟨sensors, rfl, ticks⟩⟩ := step_logs taken
  · refine ⟨[], by rw [same, List.append_nil], ?_⟩
    intro controllerId port
    cases act with
    | tick sensors =>
        have longer := (tick_logs taken).2
        rw [same] at longer
        simp at longer
    | transmit colors =>
        rw [asks, speedsAt_setColors]
        exact List.nil_sublist _
    | receive env event | notified service event | serve workerId | die workerId => exact List.nil_sublist _
  · refine ⟨[sensors], ticks, ?_⟩
    intro controllerId port
    simp only [asks]
    split
    · rename_i batch sent
      rcases drawn with new | ⟨other, given, loaded⟩
      · rw [new] at sent
        rw [sentBatch_new sent]
        exact List.nil_sublist _
      · cases List.mem_singleton.mp given
        rw [loaded] at sent
        rw [sentBatch_speeds sent]
    · exact List.nil_sublist _

theorem Ordered.refl {host : Host} {config : Config} {daemon : Daemon} (reaches : Reaches host daemon) :
    Ordered config daemon daemon := by
  obtain ⟨state, shared, log, logged, -⟩ := reaches.founded.state
  refine ⟨state, _, [], shared, .lineOf logged.mapped, (List.append_nil _).symm, ?_⟩
  intro workerId controllerId port
  rw [line, shared]
  exact List.sublist_append_left _ _

theorem Ordered.step {config : Config} {earlier daemon after : Daemon} {act : DaemonAct}
    (ordered : Ordered config earlier daemon) (drawn : Drawn [config] daemon.world.monitoring.mappingCache)
    (taken : daemon.step act = some after) : Ordered config earlier after := by
  obtain ⟨state, log, ticks, shared, logged, read, order⟩ := ordered
  obtain ⟨later, held, longer⟩ := step_logged shared logged taken
  obtain ⟨more, read_more, asked⟩ := asks_speeds drawn taken
  refine ⟨later, _, ticks ++ more, held, longer, by rw [read_more, read, List.append_assoc], ?_⟩
  intro workerId controllerId port
  rw [speedsAt_append, speedsFor_append, ← List.append_assoc]
  exact (order workerId controllerId port).append (asked controllerId port)

theorem Ordered.received {config : Config} {earlier daemon : Daemon} (ordered : Ordered config earlier daemon)
    {state : AppState} (shared : daemon.world.sharedState = some state) {workerId : Nat} {worker : ControllerWorker}
    (found : (workersOf state.controllers).lookup workerId = some worker) (port : UInt8) :
    ∃ ticks, daemon.ticks = earlier.ticks ++ ticks ∧
      (speedsAt port worker.controller.dev.received).Sublist
        (speedsAt port (earlier.line workerId) ++
          speedsFor config ⟨worker.controller.name, port.toNat⟩ ticks) := by
  obtain ⟨other, log, ticks, shared', logged, read, order⟩ := ordered
  cases shared.symm.trans shared'
  exact ⟨ticks, read, ((logged.received found).filterMap (speedFor port)).trans (order workerId _ port)⟩

/-! ## Until the next commit -/

/-- No commit reaches the monitoring service. -/
def Uncommitted (_ : Daemon) (act : DaemonAct) : Prop :=
  ∀ transactionId, act ≠ .notified .monitoring (.commitConfigUpdate transactionId)

def Since (before after : Daemon) : Prop := Machine.Reachable step (· = before) Uncommitted after

theorem Since.ordered {host : Host} {config : Config} {before after : Daemon} (reaches : Reaches host before)
    (active : before.world.monitoring.mappingCache = .ofConfig config) (since : Since before after) :
    after.world.monitoring.mappingCache = .ofConfig config ∧ Ordered config before after := by
  induction since with
  | start same =>
      cases same
      exact ⟨active, .refl reaches⟩
  | next previous uncommitted taken ih =>
      obtain ⟨serves, ordered⟩ := ih
      obtain ⟨state, -, -, shared, -⟩ := id ordered
      have drawn : Drawn [config] _ := .inr ⟨config, List.mem_singleton_self _, serves⟩
      rcases (step_mappings shared taken).1 with same | ⟨⟨transactionId, commits⟩, -⟩
      · exact ⟨same.trans serves, ordered.step drawn taken⟩
      · exact absurd commits (uncommitted transactionId)

theorem config_governs {host : Host} {config : Config} {before after : Daemon} (reaches : Reaches host before)
    (active : before.world.monitoring.mappingCache = .ofConfig config) (since : Since before after)
    {state : AppState} (shared : after.world.sharedState = some state) {workerId : Nat} {worker : ControllerWorker}
    (found : (workersOf state.controllers).lookup workerId = some worker) (port : UInt8) :
    ∃ ticks, after.ticks = before.ticks ++ ticks ∧
      (speedsAt port worker.controller.dev.received).Sublist
        (speedsAt port (before.line workerId) ++
          speedsFor config ⟨worker.controller.name, port.toNat⟩ ticks) :=
  (since.ordered reaches active).2.received shared found port

def rampingHost : Host :=
  { steadyHost with
    config := { steadyHost.config with
      curves := [(TtRiingd.CurveCfg.stepCurve "ramp" [30, 70] [20, 100]).mapNumbers F32.fin]
      activeCurveMappings := [⟨"ramp", [⟨"main", 1⟩]⟩] } }

def cpuAt (temperature : ℚ) : TemperatureSensor := ⟨"cpu", .ok (.fin temperature)⟩

def sentRamp (daemon : Daemon) : Bool :=
  daemon.world.sharedState.any fun state => ((workersOf state.controllers).lookup 1).any fun worker =>
    worker.controller.name = "main" ∧ speedsAt 1 worker.controller.dev.received = [40, 80]

def reload : List DaemonAct :=
  [.tick [cpuSensor], .receive (bothPrepare (.parsed rampingHost.config)) (.configChangeDetected .hotReload),
    .notified .monitoring (.commitConfigUpdate 1)]

theorem config_governs_reload :
    ∃ before after state worker, Reaches steadyHost before ∧
      before.world.monitoring.mappingCache = .ofConfig (configOf (.parsed rampingHost.config)) ∧
      Since before after ∧ after.world.sharedState = some state ∧
      (workersOf state.controllers).lookup 1 = some worker ∧
      speedsAt 1 worker.controller.dev.received = [40, 80] ∧
      ∃ ticks, after.ticks = before.ticks ++ ticks ∧
        (speedsAt 1 worker.controller.dev.received).Sublist
          (speedsAt 1 (before.line 1) ++ speedsFor (configOf (.parsed rampingHost.config))
            ⟨worker.controller.name, (1 : UInt8).toNat⟩ ticks) := by
  obtain ⟨first, after, started, -, ran, ramp⟩ :=
    Machine.run_of_passes (show Machine.passes step Machine.free (start steadyHost) (reload ++ [DaemonAct.tick [cpuAt 60]])
      sentRamp = true by decide +kernel)
  obtain ⟨state, shared, led⟩ := (Option.any_eq_true _ _).mp ramp
  obtain ⟨worker, found, both⟩ := (Option.any_eq_true _ _).mp led
  rw [Machine.run_append] at ran
  obtain ⟨before, reloaded, ran⟩ := Option.bind_eq_some_iff.mp ran
  have active : before.world.monitoring.mappingCache = .ofConfig (configOf (.parsed rampingHost.config)) := by
    have computed : ((start steadyHost).toOption.bind fun first =>
        (Machine.run step first reload).map (·.world.monitoring.mappingCache)) =
          some (.ofConfig (configOf (.parsed rampingHost.config))) := rfl
    rw [started, Except.toOption, Option.bind_some, reloaded] at computed
    exact Option.some.inj computed
  have begun : Reaches steadyHost first := .start started
  have reaches : Reaches steadyHost before := begun.run (Machine.Allowed.of_all (fun _ _ _ => trivial) _) reloaded
  have uncommitted : ∀ act ∈ [DaemonAct.tick [cpuAt 60]], ∀ daemon, Uncommitted daemon act := by
    intro act listed daemon transactionId
    cases List.mem_singleton.mp listed
    exact DaemonAct.noConfusion
  have begins : Since before before := .start rfl
  have since : Since before after := begins.run (Machine.Allowed.of_all uncommitted _) ran
  exact ⟨before, after, state, worker, reaches, active, since, shared, found, (of_decide_eq_true both).2,
    config_governs reaches active since shared found 1⟩

end Daemon

/-! ## Getting hotter -/

namespace Daemon

/-- No other configuration has been held. -/
def Holds (config : Config) (daemon : Daemon) : Prop := ∀ other ∈ daemon.configs, other = config

theorem Reaches.ordered {host : Host} {config : Config} {daemon : Daemon} (reaches : Reaches host daemon)
    (holds : Holds config daemon) : ∃ first, start host = .ok first ∧ Ordered config first daemon := by
  induction reaches with
  | start started => exact ⟨_, started, .refl (.start started)⟩
  | @next middle act after previous _ taken ih =>
      obtain ⟨⟨more, configs⟩, -⟩ := step_logs taken
      have before : Holds config middle := by
        intro other held
        apply holds
        rw [configs]
        exact List.mem_append_left _ held
      obtain ⟨first, started, ordered⟩ := ih before
      have drawn : Drawn [config] _ :=
        (Reaches.founded previous).active.mono fun other held => List.mem_singleton.mpr (before other held)
      exact ⟨first, started, ordered.step drawn taken⟩

end Daemon

end TtRiingd.Core
