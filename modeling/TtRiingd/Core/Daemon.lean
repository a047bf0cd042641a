import TtRiingd.Core.Application
import TtRiingd.Core.PluggedHardware
import TtRiingd.Drivers.Frames
import TtRiingd.Providers.Service
import TtRiingd.Providers.WireTraffic

/-!
# From the readings to the wire

The whole daemon: the ticks of the monitoring service, the colours that are transmitted, the main loop with
its reloads and hotplug events, the notices that reach the two services, and the workers at their mailboxes.
Any of them may go next. What the daemon has read and which configurations it has held is kept beside it.
-/

namespace TtRiingd.Core
open Drivers Providers Monitoring

structure Daemon where
  world : World
  buffer : MonitoringBuffer := .new
  configs : List Config
  ticks : List (List TemperatureSensor) := []

/-- The colours that are transmitted and the event that reaches a service are left open. -/
inductive DaemonAct where
  | tick (sensors : List TemperatureSensor)
  | transmit (colors : List (String × ControllerColorBuffer))
  | receive (env : Environment) (event : Event)
  | notified (service : Service) (event : Event)
  | serve (workerId : Nat)
  | die (workerId : Nat)

namespace Daemon

def start (host : Host) : Except Fault Daemon :=
  (startUp host.hidapi host.config).map fun hw => { world := host.world hw, configs := [host.config] }

def onState (daemon : Daemon) (next : AppState → Daemon) : Option Daemon := daemon.world.sharedState.map next

def onControllers (daemon : Daemon) (change : ControllerManager → ControllerManager) : Option Daemon :=
  daemon.onState fun state => { daemon with
    world := { daemon.world with
      sharedState := some { state with controllers := change state.controllers } } }

def takeTick (daemon : Daemon) (sensors : List TemperatureSensor) (state : AppState) : Daemon :=
  -- An error is logged, and the next tick comes.
  let after := (collectAndProcessTemperatures sensors
    ⟨daemon.buffer, daemon.world.monitoring, state.controllers⟩).state
  { daemon with
    world := { daemon.world with
      sharedState := some { state with controllers := after.controllers }
      monitoring := after.cache }
    buffer := after.buffer
    ticks := daemon.ticks ++ [sensors] }

def notify (world : World) (service : Service) (event : Event) : World :=
  match service with
  | .monitoring => { world with monitoring := Monitoring.handleNotify event world.monitoring }
  | .fanColor => { world with fanColor := FanColor.handleNotify event world.fanColor }

def step (daemon : Daemon) : DaemonAct → Option Daemon
  | .tick sensors => daemon.onState (daemon.takeTick sensors)
  | .transmit colors => daemon.onControllers fun controllers =>
      (controllers.batchUpdate (.setColors colors) .blocking).2
  | .receive env event =>
      match Core.handleEvent env (.event event) daemon.world with
      | .ok () world =>
          some { daemon with
            world
            configs := daemon.configs ++ world.sharedState.toList.map (·.config) }
      -- The error ends the loop, and the daemon with it.
      | .error _ _ => none
  | .notified service event => some { daemon with world := notify daemon.world service event }
  | .serve workerId => daemon.onControllers fun controllers =>
      { controllers with workerManager := controllers.workerManager.serve workerId }
  | .die workerId => daemon.onControllers fun controllers =>
      { controllers with workerManager := controllers.workerManager.die workerId }

def Reaches (host : Host) (daemon : Daemon) : Prop :=
  Machine.Reachable step (fun first => start host = .ok first) Machine.free daemon

end Daemon

/-! ## What the main loop does to the services -/

theorem prepareServices_monitoring (handlers : ServiceType → Option Behaviour) (config : Config)
    (transactionId : Nat) (world : World) :
    let prepared := (prepareServices handlers config transactionId world).monitoring
    prepared.mappingCache = world.monitoring.mappingCache ∧
      (prepared.newMapping = world.monitoring.newMapping ∨ prepared.newMapping = .ofConfig config) := by
  unfold prepareServices
  simp only
  split
  · exact ⟨rfl, .inr rfl⟩
  · exact ⟨rfl, .inl rfl⟩

/-- The main loop leaves the active mappings alone, and stages none but those of its configuration. -/
structure Stages (world after : World) : Prop where
  active : after.monitoring.mappingCache = world.monitoring.mappingCache
  staged : after.monitoring.newMapping = world.monitoring.newMapping ∨
    ∃ state, after.sharedState = some state ∧ after.monitoring.newMapping = .ofConfig state.config

theorem Stages.of_same {world after : World} (same : after.monitoring = world.monitoring) : Stages world after :=
  ⟨by rw [same], .inl (by rw [same])⟩

theorem handleHotReload_stages {env : Environment} {world after : World} {state : AppState}
    (shared : world.sharedState = some state) (result : handleHotReload env world = .ok () after) :
    Stages world after := by
  cases loaded : ConfigManager.loadConfigFromPath env.hidapi world.path env.file with
  | error fault =>
      rw [handleHotReload_unloaded shared loaded] at result
      contradiction
  | ok config =>
      rw [handleHotReload_asked shared loaded] at result
      by_cases refused : Refused env
      · obtain ⟨e, rolled⟩ := secondPhase_rollback refused world.transactionCounter (asked env state config world)
        rw [rolled] at result
        contradiction
      · rw [secondPhase_commit refused] at result
        obtain ⟨kept, monitoring, -⟩ := publish_fields (asked env state config world) env.receivers
          (.commitConfigUpdate world.transactionCounter)
        obtain ⟨active, staged⟩ := prepareServices_monitoring env.handlers config world.transactionCounter
          { world with
            sharedState := some { state with config }
            transactionCounter := (world.transactionCounter + 1) % 2 ^ 64 }
        rw [notify_ok result]
        constructor
        · rw [monitoring]
          exact active
        · rw [monitoring, kept]
          exact staged.imp_right fun same => ⟨{ state with config }, rfl, same⟩

theorem handleEvent_stages {env : Environment} {event : Event} {world after : World} {state : AppState}
    (shared : world.sharedState = some state) (result : Core.handleEvent env (.event event) world = .ok () after) :
    Stages world after := by
  cases event with
  | temperatureChanged sensors | configReloaded | commitConfigUpdate transactionId
  | rollbackConfigUpdate transactionId =>
      cases result
      exact .of_same rfl
  | systemShutdown => contradiction
  | configChangeDetected changeType =>
      have called := withContext_ok result
      cases changeType with
      | hotReload => exact handleHotReload_stages shared called
      | coldRestart sections =>
          cases called
          exact .of_same rfl
  | deviceConnected vendorId productId serialNumber =>
      have called := withContext_ok result
      simp only [handleDeviceConnected, shared] at called
      split at called <;> cases called
      exact .of_same rfl
  | deviceDisconnected vendorId productId serialNumber =>
      have called := withContext_ok result
      simp only [handleDeviceDisconnected, shared] at called
      split at called <;> cases called
      exact .of_same rfl

/-! ## Where the speeds come from -/

/-- A `SetSpeed` frame for the controller carries the speed that a held configuration gives the fan, at a
temperature that a sensor mapped to the fan has read. -/
def Justified (configs : List Config) (ticks : List (List TemperatureSensor)) (controllerId : String)
    (frame : List UInt8) : Prop :=
  ∀ port speed, frame = (Command.setSpeed port speed).toBytes →
    ∃ config ∈ configs, ∃ sensors ∈ ticks, ∃ temp,
      Monitoring.Mapped (.ofConfig config) sensors ⟨controllerId, port.toNat⟩ temp ∧
      fanSpeed (.ofConfig config) temp ⟨controllerId, port.toNat⟩ = .ok speed

theorem Justified.of_other {configs : List Config} {ticks : List (List TemperatureSensor)} {controllerId : String}
    {cmd : Command} (other : ∀ port speed, cmd ≠ .setSpeed port speed) :
    Justified configs ticks controllerId cmd.toBytes :=
  fun port speed same => absurd (toBytes_injective same) (other port speed)

theorem Justified.mono {configs others : List Config} {ticks more : List (List TemperatureSensor)}
    {controllerId : String} {frame : List UInt8} (held : configs ⊆ others) (read : ticks ⊆ more)
    (justified : Justified configs ticks controllerId frame) : Justified others more controllerId frame := by
  intro port speed same
  obtain ⟨config, given, sensors, ticked, found⟩ := justified port speed same
  exact ⟨config, held given, sensors, read ticked, found⟩

/-- Mappings that are still the placeholder, or were built from a held configuration. -/
def Drawn (configs : List Config) (cache : MappingCache) : Prop :=
  cache = .new ∨ ∃ config ∈ configs, cache = .ofConfig config

theorem Drawn.mono {configs others : List Config} {cache : MappingCache} (held : configs ⊆ others)
    (drawn : Drawn configs cache) : Drawn others cache :=
  drawn.imp_right fun ⟨config, given, same⟩ => ⟨config, held given, same⟩

theorem fanSpeed_channel {cache : MappingCache} {temp : F32} {fan : FanRef} {speed : UInt8}
    (computed : fanSpeed cache temp fan = .ok speed) : fan.channel < 256 := by
  unfold fanSpeed at computed
  split at computed
  · assumption
  · contradiction

theorem not_mapped_new (sensors : List TemperatureSensor) (fan : FanRef) (temp : F32) :
    ¬ Monitoring.Mapped .new sensors fan temp := by
  rintro ⟨sensor, -, -, mapped⟩
  simp [MappingCache.new, Mapping.fansForSensor] at mapped

theorem justified_of_batch {configs : List Config} {ticks : List (List TemperatureSensor)}
    {sensors : List TemperatureSensor} {cache : MappingCache} {buffer : MonitoringBuffer}
    {batch : List (String × List (Nat × UInt8))} (drawn : Drawn configs cache) (ticked : sensors ∈ ticks)
    (sent : sentBatch cache sensors buffer = some batch) {controllerId : String} {frame : List UInt8}
    (member : frame ∈ (BatchCommand.setSpeeds batch).frames controllerId) :
    Justified configs ticks controllerId frame := by
  obtain ⟨entry, listed, rfl, pair, inside, rfl | rfl⟩ := mem_frames_setSpeeds member
  · intro port speed same
    cases toBytes_injective same
    obtain ⟨temp, mapped, computed⟩ :=
      ((sentBatch_eq_some sent).2 ⟨entry.1, pair.1⟩ pair.2).mp ⟨entry, listed, rfl, inside⟩
    have channel : (UInt8.ofNat pair.1).toNat = pair.1 :=
      UInt8.toNat_ofNat_of_lt' (fanSpeed_channel computed)
    rcases drawn with rfl | ⟨config, given, rfl⟩
    · exact absurd mapped (not_mapped_new _ _ _)
    · rw [channel]
      exact ⟨config, given, sensors, ticked, temp, mapped, computed⟩
  · exact .of_other fun _ _ => Command.noConfusion

namespace Daemon

/-! ## One step -/

/-- The frames that an act asks for. -/
def asks (daemon : Daemon) (act : DaemonAct) (controllerId : String) : List (List UInt8) :=
  match act with
  | .tick sensors =>
      match sentBatch daemon.world.monitoring.mappingCache sensors daemon.buffer with
      | some batch => (BatchCommand.setSpeeds batch).frames controllerId
      | none => []
  | .transmit colors => (BatchCommand.setColors colors).frames controllerId
  | .receive _ _ | .notified _ _ | .serve _ | .die _ => []

theorem onControllers_eq_some {daemon after : Daemon} {change : ControllerManager → ControllerManager}
    {state : AppState} (shared : daemon.world.sharedState = some state)
    (changed : daemon.onControllers change = some after) :
    after = { daemon with
      world := { daemon.world with
        sharedState := some { state with controllers := change state.controllers } } } := by
  rw [Daemon.onControllers, onState, shared, Option.map_some, Option.some.injEq] at changed
  exact changed.symm

theorem tick_cases {daemon after : Daemon} {sensors : List TemperatureSensor} {state : AppState}
    (shared : daemon.world.sharedState = some state) (ticked : daemon.step (.tick sensors) = some after) :
    after.world.monitoring.mappingCache = daemon.world.monitoring.mappingCache ∧
      after.world.monitoring.newMapping = daemon.world.monitoring.newMapping ∧
      (after.world.sharedState = some state ∨
        ∃ batch, sentBatch daemon.world.monitoring.mappingCache sensors daemon.buffer = some batch ∧
          after.world.sharedState =
            some { state with controllers := (state.controllers.batchUpdate (.setSpeeds batch) .blocking).2 }) := by
  simp only [step, onState, shared, Option.map_some, Option.some.injEq] at ticked
  subst ticked
  cases collected : collect daemon.world.monitoring.mappingCache sensors daemon.buffer with
  | error fault buffer =>
      simp only [takeTick, collectAndProcessTemperatures, collected]
      exact ⟨rfl, rfl, .inl rfl⟩
  | ok value buffer =>
      simp only [takeTick, collectAndProcessTemperatures, collected, sentBatch]
      exact ⟨rfl, rfl, .inr ⟨_, rfl, rfl⟩⟩

theorem receive_cases {daemon after : Daemon} {env : Environment} {event : Event} {state : AppState}
    (shared : daemon.world.sharedState = some state) (received : daemon.step (.receive env event) = some after) :
    ∃ later, after.world.sharedState = some later ∧ after.configs = daemon.configs ++ [later.config] ∧
      Core.handleEvent env (.event event) daemon.world = .ok () after.world := by
  simp only [step] at received
  split at received
  · rename_i world handled
    cases received
    obtain ⟨later, held, -⟩ := handleEvent_hardware shared handled
    exact ⟨later, held, by rw [held]; rfl, handled⟩
  · contradiction

theorem step_logged {log : Nat → String → List (List UInt8)} {daemon after : Daemon} {act : DaemonAct}
    {state : AppState} (shared : daemon.world.sharedState = some state) (logged : Logged log state.controllers)
    (taken : daemon.step act = some after) :
    ∃ later, after.world.sharedState = some later ∧
      Logged (fun workerId controllerId => log workerId controllerId ++ daemon.asks act controllerId)
        later.controllers := by
  -- What an incident does to the controllers alone.
  have occurs (incident : Incident) (change : ControllerManager → ControllerManager)
      (quiet : ∀ controllerId, incident.frames controllerId = daemon.asks act controllerId)
      (occurred : occur none ⟨{}, state.controllers⟩ incident = some ⟨{}, change state.controllers⟩)
      (changed : daemon.onControllers change = some after) :
      ∃ later, after.world.sharedState = some later ∧
        Logged (fun workerId controllerId => log workerId controllerId ++ daemon.asks act controllerId)
          later.controllers := by
    rw [onControllers_eq_some shared changed]
    simp only [← quiet]
    exact ⟨_, rfl, Logged.occur (show Logged log (Hardware.mk {} state.controllers).manager from logged) occurred⟩
  cases act with
  | tick sensors =>
      obtain ⟨-, -, same | ⟨batch, sent, changed⟩⟩ := tick_cases shared taken
      · exact ⟨state, same, logged.mono fun _ _ => List.sublist_append_left _ _⟩
      · simp only [asks, sent]
        exact ⟨_, changed, logged.batch (.setSpeeds batch) .blocking⟩
  | transmit colors =>
      exact occurs (.batch (.setColors colors) .blocking)
        (fun controllers => (controllers.batchUpdate (.setColors colors) .blocking).2) (fun _ => rfl) rfl taken
  | receive env event =>
      obtain ⟨later, held, -, handled⟩ := receive_cases shared taken
      obtain ⟨same, held', hardware⟩ := handleEvent_hardware shared handled
      cases held.symm.trans held'
      simp only [asks, List.append_nil]
      refine ⟨later, held, ?_⟩
      simp only at hardware
      split at hardware
      · exact Logged.hotplug (show Logged log state.hardware.manager from logged) hardware
      · rw [show later.controllers = state.controllers from congrArg Hardware.manager hardware]
        exact logged
  | notified service event =>
      cases taken
      simp only [asks, List.append_nil]
      cases service with
      | monitoring => exact ⟨state, shared, logged⟩
      | fanColor => exact ⟨state, shared, logged⟩
  | serve workerId =>
      exact occurs (.serve workerId)
        (fun controllers => { controllers with workerManager := controllers.workerManager.serve workerId })
        (fun _ => rfl) rfl taken
  | die workerId =>
      exact occurs (.die workerId)
        (fun controllers => { controllers with workerManager := controllers.workerManager.die workerId })
        (fun _ => rfl) rfl taken

theorem step_traced {allowed : String → List UInt8 → Prop} {daemon after : Daemon} {act : DaemonAct}
    {state : AppState} (shared : daemon.world.sharedState = some state) (traced : Traced allowed state.controllers)
    (good : ∀ controllerId, ∀ frame ∈ daemon.asks act controllerId, allowed controllerId frame)
    (taken : daemon.step act = some after) :
    ∃ later, after.world.sharedState = some later ∧ Traced allowed later.controllers := by
  obtain ⟨log, logged, before⟩ := traced
  obtain ⟨later, held, more⟩ := step_logged shared logged taken
  refine ⟨later, held, _, more, ?_⟩
  intro workerId controllerId frame member
  rcases List.mem_append.mp member with older | new
  · exact before workerId controllerId frame older
  · exact good controllerId frame new

/-- The speeds on all wires are justified, and so will be those of the mappings that are held. -/
structure Founded (daemon : Daemon) : Prop where
  state : ∃ state, daemon.world.sharedState = some state ∧
    Traced (Justified daemon.configs daemon.ticks) state.controllers
  active : Drawn daemon.configs daemon.world.monitoring.mappingCache
  staged : Drawn daemon.configs daemon.world.monitoring.newMapping

theorem start_logs {host : Host} {first : Daemon} (started : start host = .ok first) :
    first.configs = [host.config] ∧ first.ticks = [] := by
  unfold start at started
  cases begun : startUp host.hidapi host.config with
  | error fault =>
      rw [begun] at started
      contradiction
  | ok hw =>
      rw [begun] at started
      cases started
      exact ⟨rfl, rfl⟩

/-- When the daemon starts, the devices have been sent nothing but the opening. -/
theorem start_logged {host : Host} {first : Daemon} (started : start host = .ok first) :
    first.world.monitoring = .new host.config ∧
      ∃ state, first.world.sharedState = some state ∧
        Logged (fun _ _ => [Command.init.toBytes]) state.controllers := by
  unfold Daemon.start startUp at started
  cases begun : ControllerManager.initFromCfg host.hidapi host.config {} with
  | error fault =>
      rw [begun] at started
      contradiction
  | ok hw =>
      rw [begun] at started
      cases started
      have fresh : Logged (fun _ _ => []) hw.manager := .initFromCfg begun
      exact ⟨rfl, _, rfl, fresh.batch .init .blocking⟩

theorem start_traced {allowed : String → List UInt8 → Prop} {host : Host} {first : Daemon}
    (opening : ∀ controllerId, allowed controllerId Command.init.toBytes) (started : start host = .ok first) :
    ∃ state, first.world.sharedState = some state ∧ Traced allowed state.controllers := by
  obtain ⟨-, state, shared, logged⟩ := start_logged started
  refine ⟨state, shared, _, logged, ?_⟩
  intro _ controllerId frame member
  cases List.mem_singleton.mp member
  exact opening controllerId

theorem Founded.start {host : Host} {first : Daemon} (started : start host = .ok first) : Founded first := by
  have opening : ∀ controllerId, Justified first.configs first.ticks controllerId Command.init.toBytes :=
    fun _ => .of_other fun _ _ => Command.noConfusion
  obtain ⟨monitoring, -⟩ := start_logged started
  refine ⟨start_traced opening started, ?_, ?_⟩
  · rw [(start_logs started).1, monitoring]
    exact .inr ⟨_, List.mem_singleton_self _, rfl⟩
  · rw [monitoring]
    exact .inl rfl

theorem tick_logs {daemon after : Daemon} {sensors : List TemperatureSensor}
    (ticked : daemon.step (.tick sensors) = some after) :
    after.configs = daemon.configs ∧ after.ticks = daemon.ticks ++ [sensors] := by
  obtain ⟨state, -, rfl⟩ := Option.map_eq_some_iff.mp ticked
  exact ⟨rfl, rfl⟩

theorem step_logs {daemon after : Daemon} {act : DaemonAct} (taken : daemon.step act = some after) :
    (∃ more, after.configs = daemon.configs ++ more) ∧
      (after.ticks = daemon.ticks ∨ ∃ sensors, act = .tick sensors ∧ after.ticks = daemon.ticks ++ [sensors]) := by
  cases act with
  | tick sensors =>
      obtain ⟨configs, ticks⟩ := tick_logs taken
      exact ⟨⟨[], by rw [configs, List.append_nil]⟩, .inr ⟨sensors, rfl, ticks⟩⟩
  | receive env event =>
      simp only [Daemon.step] at taken
      split at taken <;> cases taken
      exact ⟨⟨_, rfl⟩, .inl rfl⟩
  | notified service event =>
      cases taken
      exact ⟨⟨[], (List.append_nil _).symm⟩, .inl rfl⟩
  | transmit colors | serve workerId | die workerId =>
      obtain ⟨_, -, rfl⟩ := Option.map_eq_some_iff.mp taken
      exact ⟨⟨[], (List.append_nil _).symm⟩, .inl rfl⟩

theorem step_mappings {daemon after : Daemon} {act : DaemonAct} {state : AppState}
    (shared : daemon.world.sharedState = some state) (taken : daemon.step act = some after) :
    (after.world.monitoring.mappingCache = daemon.world.monitoring.mappingCache ∨
        (∃ transactionId, act = .notified .monitoring (.commitConfigUpdate transactionId)) ∧
          after.world.monitoring.mappingCache = daemon.world.monitoring.newMapping) ∧
      (after.world.monitoring.newMapping = daemon.world.monitoring.newMapping ∨
        ∃ config ∈ after.configs, after.world.monitoring.newMapping = .ofConfig config) := by
  cases act with
  | tick sensors =>
      obtain ⟨active, staged, -⟩ := tick_cases shared taken
      exact ⟨.inl active, .inl staged⟩
  | receive env event =>
      obtain ⟨later, held, configs, handled⟩ := receive_cases shared taken
      obtain ⟨active, staged⟩ := handleEvent_stages shared handled
      refine ⟨.inl active, staged.imp_right ?_⟩
      rintro ⟨other, found, built⟩
      cases held.symm.trans found
      exact ⟨later.config, by rw [configs]; exact List.mem_append_right _ (List.mem_singleton_self _), built⟩
  | notified service event =>
      cases taken
      cases service with
      | fanColor => exact ⟨.inl rfl, .inl rfl⟩
      | monitoring => cases event <;> simp [notify, Monitoring.handleNotify]
  | transmit colors | serve workerId | die workerId =>
      obtain ⟨_, -, rfl⟩ := Option.map_eq_some_iff.mp taken
      exact ⟨.inl rfl, .inl rfl⟩

theorem Founded.step {daemon after : Daemon} {act : DaemonAct} (founded : Founded daemon)
    (taken : daemon.step act = some after) : Founded after := by
  obtain ⟨state, shared, traced⟩ := founded.state
  obtain ⟨⟨more, configs⟩, ticks⟩ := step_logs taken
  obtain ⟨active, staged⟩ := step_mappings shared taken
  have held : daemon.configs ⊆ after.configs := by
    rw [configs]
    exact List.subset_append_left _ _
  have read : daemon.ticks ⊆ after.ticks := by
    rcases ticks with same | ⟨sensors, -, same⟩
    · rw [same]
      exact List.Subset.refl _
    · rw [same]
      exact List.subset_append_left _ _
  have wider : Traced (Justified after.configs after.ticks) state.controllers :=
    traced.mono fun _ _ => Justified.mono held read
  refine ⟨step_traced shared wider ?_ taken, ?_, ?_⟩
  · intro controllerId frame member
    cases act with
    | tick sensors =>
        simp only [asks] at member
        split at member
        · obtain ⟨-, logged⟩ := tick_logs taken
          have ticked : sensors ∈ after.ticks := by
            rw [logged]
            exact List.mem_append_right _ (List.mem_singleton_self _)
          exact justified_of_batch (founded.active.mono held) ticked ‹_› member
        · contradiction
    | transmit colors =>
        obtain ⟨entry, -, -, pair, -, rfl⟩ := mem_frames_setColors member
        exact .of_other fun _ _ => Command.noConfusion
    | receive env event | notified service event | serve workerId | die workerId => contradiction
  · rcases active with same | ⟨-, same⟩
    · rw [same]
      exact founded.active.mono held
    · rw [same]
      exact founded.staged.mono held
  · rcases staged with same | built
    · rw [same]
      exact founded.staged.mono held
    · exact .inr built

theorem Reaches.founded {host : Host} {daemon : Daemon} (reaches : Reaches host daemon) : Founded daemon := by
  exact Machine.Reachable.invariant Founded (fun _ => .start) (fun _ _ _ founded _ => founded.step) reaches

/-! ## The speeds on the wire -/

def Sent (daemon : Daemon) (workerId : Nat) (worker : ControllerWorker) (port speed : UInt8) : Prop :=
  ∃ state, daemon.world.sharedState = some state ∧ (workersOf state.controllers).lookup workerId = some worker ∧
    (Command.setSpeed port speed).toBytes ∈ worker.controller.dev.received

theorem Founded.justified {daemon : Daemon} (founded : Founded daemon) {workerId : Nat} {worker : ControllerWorker}
    {port speed : UInt8} (sent : daemon.Sent workerId worker port speed) :
    ∃ config ∈ daemon.configs, ∃ sensors ∈ daemon.ticks, ∃ temp,
      Monitoring.Mapped (.ofConfig config) sensors ⟨worker.controller.name, port.toNat⟩ temp ∧
      fanSpeed (.ofConfig config) temp ⟨worker.controller.name, port.toNat⟩ = .ok speed := by
  obtain ⟨state, shared, found, received⟩ := sent
  obtain ⟨other, shared', traced⟩ := founded.state
  rw [shared, Option.some.injEq] at shared'
  subst shared'
  exact traced.received found _ received port speed rfl

theorem speeds_are_founded {host : Host} {daemon : Daemon} (reaches : Reaches host daemon) {workerId : Nat}
    {worker : ControllerWorker} {port speed : UInt8} (sent : daemon.Sent workerId worker port speed) :
    ∃ config ∈ daemon.configs, ∃ sensors ∈ daemon.ticks, ∃ temp,
      Monitoring.Mapped (.ofConfig config) sensors ⟨worker.controller.name, port.toNat⟩ temp ∧
      fanSpeed (.ofConfig config) temp ⟨worker.controller.name, port.toNat⟩ = .ok speed :=
  reaches.founded.justified sent

def steadyHost : Host where
  hidapi := some quietApi
  sessionBus := false
  path := "config.yml"
  config := { oneController with
    mappings := [⟨"cpu", [⟨"main", 1⟩]⟩]
    curves := [.constant "steady" 40]
    activeCurveMappings := [⟨"steady", [⟨"main", 1⟩]⟩] }

def hasReceived (workerId : Nat) (cmd : Command) (daemon : Daemon) : Bool :=
  daemon.world.sharedState.any fun state => ((workersOf state.controllers).lookup workerId).any fun worker =>
    cmd.toBytes ∈ worker.controller.dev.received

theorem exists_of_hasReceived {daemon : Daemon} {workerId : Nat} {cmd : Command}
    (received : daemon.hasReceived workerId cmd = true) :
    ∃ state worker, daemon.world.sharedState = some state ∧
      (workersOf state.controllers).lookup workerId = some worker ∧
      cmd.toBytes ∈ worker.controller.dev.received := by
  obtain ⟨state, shared, led⟩ := (Option.any_eq_true _ _).mp received
  obtain ⟨worker, found, received⟩ := (Option.any_eq_true _ _).mp led
  exact ⟨state, worker, shared, found, of_decide_eq_true received⟩

def sentForty (daemon : Daemon) : Bool := daemon.hasReceived 1 (.setSpeed 1 40)

theorem exists_sent_of_sentForty {daemon : Daemon} (forty : sentForty daemon = true) :
    ∃ worker, daemon.Sent 1 worker 1 40 := by
  obtain ⟨state, worker, sent⟩ := exists_of_hasReceived forty
  exact ⟨worker, state, sent⟩

theorem speeds_are_founded_steadyHost :
    ∃ daemon worker, Reaches steadyHost daemon ∧ daemon.Sent 1 worker 1 40 ∧
      ∃ config ∈ daemon.configs, ∃ sensors ∈ daemon.ticks, ∃ temp,
        Monitoring.Mapped (.ofConfig config) sensors ⟨worker.controller.name, (1 : UInt8).toNat⟩ temp ∧
        fanSpeed (.ofConfig config) temp ⟨worker.controller.name, (1 : UInt8).toNat⟩ = .ok 40 := by
  obtain ⟨daemon, reaches, forty⟩ := Machine.exists_reachable [.tick [cpuSensor]] sentForty
    (show Machine.passes step Machine.free (start steadyHost) _ _ = true by decide +kernel)
  obtain ⟨worker, sent⟩ := exists_sent_of_sentForty forty
  exact ⟨daemon, worker, reaches, sent, speeds_are_founded reaches sent⟩

/-- With curves that stay within a hundred, no fan is ever sent more, on whichever device and whatever
reloads, unplugs and dying workers there have been. -/
theorem speeds_stay_in_percent {host : Host} {daemon : Daemon} (reaches : Reaches host daemon)
    (percent : ∀ config ∈ daemon.configs, ∀ curve ∈ config.curves, curve.SpeedsInPercent)
    (readings : ∀ sensors ∈ daemon.ticks, ExactReadings sensors) {workerId : Nat} {worker : ControllerWorker}
    {port speed : UInt8} (sent : daemon.Sent workerId worker port speed) : speed ≤ 100 := by
  obtain ⟨config, held, sensors, ticked, temp, ⟨sensor, listed, read, -⟩, computed⟩ := reaches.founded.justified sent
  obtain ⟨temperature, rfl⟩ := readings sensors ticked sensor listed temp read
  obtain ⟨curve, given, calculated⟩ := fanSpeed_ok computed
  exact percent config held curve given temperature speed calculated

theorem speeds_stay_in_percent_steadyHost :
    ∃ daemon worker, Reaches steadyHost daemon ∧ daemon.Sent 1 worker 1 40 ∧ (40 : UInt8) ≤ 100 := by
  obtain ⟨first, daemon, started, -, ran, forty⟩ :=
    Machine.run_of_passes (show Machine.passes step Machine.free (start steadyHost) [.tick [cpuSensor]] sentForty = true
      by decide +kernel)
  obtain ⟨worker, sent⟩ := exists_sent_of_sentForty forty
  have ticked : first.step (.tick [cpuSensor]) = some daemon := by
    rw [← ran]
    exact (Option.bind_fun_some _).symm
  have begun : Reaches steadyHost first := .start started
  have reaches : Reaches steadyHost daemon := .next begun trivial ticked
  obtain ⟨held, none_yet⟩ := start_logs started
  obtain ⟨configs, ticks⟩ := tick_logs ticked
  have readings : ∀ sensors ∈ daemon.ticks, ExactReadings sensors := by
    rw [ticks, none_yet]
    intro sensors listed sensor member reading read
    cases List.mem_singleton.mp listed
    cases List.mem_singleton.mp member
    cases read
    exact ⟨50, rfl⟩
  have percent : ∀ config ∈ daemon.configs, ∀ curve ∈ config.curves, curve.SpeedsInPercent := by
    rw [configs, held]
    intro config listed curve member temperature speed computed
    cases List.mem_singleton.mp listed
    cases List.mem_singleton.mp member
    cases computed
    decide
  exact ⟨daemon, worker, reaches, sent, speeds_stay_in_percent reaches percent readings sent⟩

end Daemon

end TtRiingd.Core
