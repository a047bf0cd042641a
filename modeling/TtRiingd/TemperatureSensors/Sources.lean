import TtRiingd.Config.MappingOverlap
import TtRiingd.Core.Daemon
import TtRiingd.TemperatureSensors.SensorManager

/-!
# Where the temperatures come from

What the sensors of a configuration measure, without the way in which they are looked up and read.
-/

namespace TtRiingd.TemperatureSensors
open TtRiingd.Core Drivers Providers

section Sensors
variable {start now : Bench} {cfg : List SensorCfg} {sensor : Sensor} {key : String} {degrees : F32}

end Sensors

/-! ## From the hardware to the wire -/

/-- What a tick reads. -/
def readings (now : Bench) (sensors : List Sensor) : List TemperatureSensor :=
  sensors.map fun sensor => ⟨sensor.key, sensor.readTemperature now⟩

/-- Every tick reads the sensors of the start, on whatever the hardware then shows. -/
def Measures (host : Host) (start : Bench) : Daemon → DaemonAct → Prop
  | _, .tick sensors => ∃ now, sensors = readings now (SensorManager.initFromCfg start host.config)
  | _, _ => True

def Runs (host : Host) (start : Bench) : Daemon → Prop :=
  Machine.Reachable Daemon.step (fun first => Daemon.start host = .ok first) (Measures host start)

theorem Runs.ticks {host : Host} {start : Bench} {daemon : Daemon} (runs : Runs host start daemon) :
    ∀ sensors ∈ daemon.ticks, ∃ now, sensors = readings now (SensorManager.initFromCfg start host.config) := by
  apply Machine.Reachable.invariant (fun daemon : Daemon => ∀ sensors ∈ daemon.ticks,
    ∃ now, sensors = readings now (SensorManager.initFromCfg start host.config)) ?_ ?_ runs
  · intro first started
    rw [(Daemon.start_logs started).2]
    intro sensors none_yet
    contradiction
  · intro daemon act after known measures taken
    rcases (Daemon.step_logs taken).2 with same | ⟨sensors, rfl, more⟩
    · rwa [same]
    · rw [more]
      intro others listed
      rcases List.mem_append.mp listed with earlier | now
      · exact known others earlier
      · rw [List.mem_singleton.mp now]
        exact measures

theorem Runs.reaches {host : Host} {start : Bench} {daemon : Daemon} (runs : Runs host start daemon) :
    Daemon.Reaches host daemon :=
  Machine.Reachable.relax (fun _ => True) (fun _ _ => trivial) (fun _ _ _ _ _ _ => trivial)
    (fun _ _ _ _ => trivial) runs

end TtRiingd.TemperatureSensors
