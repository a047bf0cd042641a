import TtRiingd.Config.Load
import TtRiingd.Drivers.Workers
import TtRiingd.Drivers.SpeedBatch
import TtRiingd.Providers.Monitoring

/-!
# Channels of a tick and fans of a controller

A controller has one element of `fans` for each fan its configuration lists, whatever the `idx` of
that fan, and none when the configuration is a fallback. A speed update indexes `fans` with the
channel of the mapping. Nothing relates the two when a configuration is loaded.
-/

namespace TtRiingd.Providers
open Drivers Monitoring

def afterCommands (commands : List ControllerCommand) (created : TTRiingQuad) : TTRiingQuad :=
  commands.foldl (fun controller command => (execute command controller).state) created

theorem afterCommands_later (commands : List ControllerCommand) (created : TTRiingQuad) :
    TTRiingQuad.Later created (afterCommands commands created) := by
  induction commands generalizing created with
  | nil => exact TTRiingQuad.Later.refl created
  | cons command rest ih => exact .trans _ _ _ (execute_later command created) (ih _)

/-- A controller that a daemon with an accepted configuration drives: its entry is one of the
configuration or the fallback for a device plugged in later, and it has served some commands. -/
structure Driven (config : Config) (entry : ControllerCfg) (controller : TTRiingQuad) : Prop where
  accepted : ∃ hidapi path content, ConfigManager.loadConfigFromPath hidapi path content = .ok config
  source : entry ∈ config.controllers ∨
    ∃ fingerprint, entry = TTRiingQuad.createFallbackConfigInternal fingerprint
  reached : ∃ api attempt created commands, TTRiingQuad.createOne api attempt entry = .ok created ∧
    controller = afterCommands commands created

theorem Driven.fans {config : Config} {entry : ControllerCfg} {controller : TTRiingQuad}
    (driven : Driven config entry controller) : controller.fans.length = entry.fans.length := by
  obtain ⟨api, attempt, created, commands, built, rfl⟩ := driven.reached
  exact (afterCommands_later commands created).fans.trans (TTRiingQuad.createOne_ok built).2.1

/-! ## Where an update panics -/

def Panics {σ α : Type} (result : EStateM.Result Fault σ α) : Prop := ∃ after, result = .error .panic after

theorem updateSpeedBatch_panics_iff {batch : List (Nat × UInt8)} {controller middle : TTRiingQuad}
    {results : List (Nat × UInt8 × UInt16)}
    (exchanged : TTRiingQuad.processBatch batch controller = .ok results middle) :
    ¬ Panics (TTRiingQuad.updateSpeedBatch batch controller) ↔
      ∀ entry ∈ batch, 1 ≤ entry.1 ∧ entry.1 ≤ controller.fans.length := by
  constructor
  · intro survives
    by_contra beyond
    exact survives (TTRiingQuad.updateSpeedBatch_panics exchanged beyond)
  · rintro range ⟨after, panicked⟩
    obtain ⟨last, complete, -⟩ := TTRiingQuad.updateSpeedBatch_done exchanged range
    rw [complete] at panicked
    contradiction

theorem update_in_range_iff {config : Config} {entry : ControllerCfg} {controller middle : TTRiingQuad}
    {sensors : List TemperatureSensor} {buffer : MonitoringBuffer}
    {batch : List (String × List (Nat × UInt8))} {speeds : List (Nat × UInt8)}
    {results : List (Nat × UInt8 × UInt16)} (driven : Driven config entry controller)
    (sent : sentBatch (.ofConfig config) sensors buffer = some batch)
    (addressed : (entry.getId, speeds) ∈ batch)
    (exchanged : TTRiingQuad.processBatch speeds controller = .ok results middle) :
    ¬ Panics (TTRiingQuad.updateSpeedBatch speeds controller) ↔
      ∀ fan temp, Mapped (.ofConfig config) sensors fan temp → fan.controllerId = entry.getId →
        1 ≤ fan.channel ∧ fan.channel ≤ entry.fans.length := by
  rw [updateSpeedBatch_panics_iff exchanged, driven.fans]
  obtain ⟨healthy, contents⟩ := sentBatch_eq_some sent
  constructor
  · intro range fan temp mapped same
    obtain ⟨speed, computed⟩ := healthy fan temp mapped
    obtain ⟨⟨id, others⟩, listed, rfl, member⟩ := (contents fan speed).mpr ⟨temp, mapped, computed⟩
    rw [← same] at addressed
    rw [sentBatch_unique sent listed addressed] at member
    exact range _ member
  · rintro range ⟨channel, speed⟩ member
    obtain ⟨temp, mapped, -⟩ :=
      (contents ⟨entry.getId, channel⟩ speed).mp ⟨_, addressed, rfl, member⟩
    exact range _ temp mapped rfl

def onePortEntry (port : UInt8) : ControllerCfg :=
  .riingQuad "main" ⟨0x264a, 0x232B, none⟩ [⟨port, "rear"⟩]

def onePort (port : UInt8) : Config where
  controllers := [onePortEntry port]
  mappings := [⟨"cpu", [⟨"main", port⟩]⟩]
  curves := [.constant "steady" 40]
  activeCurveMappings := [⟨"steady", [⟨"main", port⟩]⟩]

def onePortLoaded (port : UInt8) : Config :=
  match ConfigManager.loadConfigFromPath (some quietApi) "config.yml" (.parsed (onePort port)) with
  | .ok config => config
  | .error _ => {}

def onePortController : TTRiingQuad where
  name := "main"
  dev := .opened (.ok ⟨0x264a, 0x232B, none⟩) quietWire
  fans := [⟨0, 0⟩]

theorem onePort_driven {port : UInt8}
    (accepted : ConfigManager.loadConfigFromPath (some quietApi) "config.yml" (.parsed (onePort port)) =
      .ok (onePortLoaded port)) (listed : onePortEntry port ∈ (onePortLoaded port).controllers) :
    Driven (onePortLoaded port) (onePortEntry port) onePortController :=
  ⟨⟨_, _, _, accepted⟩, .inl listed, quietApi, 0, onePortController, [], rfl, rfl⟩

theorem third_port_panics :
    Driven (onePortLoaded 3) (onePortEntry 3) onePortController ∧
      sentBatch (.ofConfig (onePortLoaded 3)) [cpuSensor] .new = some [("main", [(3, 40)])] ∧
      (∃ results middle, TTRiingQuad.processBatch [(3, 40)] onePortController = .ok results middle) ∧
      Panics (TTRiingQuad.updateSpeedBatch [(3, 40)] onePortController) := by
  have exchanged : ∃ results middle,
      TTRiingQuad.processBatch [(3, 40)] onePortController = .ok results middle :=
    EStateM.exists_of_isOk (by decide +kernel)
  refine ⟨onePort_driven rfl (by decide), rfl, exchanged, ?_⟩
  obtain ⟨results, middle, exchanged⟩ := exchanged
  by_contra fine
  have range := (updateSpeedBatch_panics_iff exchanged).mp fine (3, 40) (by simp)
  exact absurd range (by decide)

theorem update_in_range_iff_first_port :
    ¬ Panics (TTRiingQuad.updateSpeedBatch [(1, 40)] onePortController) ↔
      ∀ fan temp, Mapped (.ofConfig (onePortLoaded 1)) [cpuSensor] fan temp →
        fan.controllerId = "main" → 1 ≤ fan.channel ∧ fan.channel ≤ 1 := by
  obtain ⟨results, middle, exchanged⟩ := EStateM.exists_of_isOk
    (show (TTRiingQuad.processBatch [(1, 40)] onePortController).isOk = true by decide +kernel)
  have sent : sentBatch (.ofConfig (onePortLoaded 1)) [cpuSensor] .new = some [("main", [(1, 40)])] := rfl
  have addressed : ((onePortEntry 1).getId, [(1, 40)]) ∈ [("main", [((1 : Nat), (40 : UInt8))])] := by decide
  exact update_in_range_iff (onePort_driven rfl (by decide)) sent addressed exchanged

end TtRiingd.Providers
