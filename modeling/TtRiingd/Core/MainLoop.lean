import TtRiingd.Core.HotReload
import TtRiingd.Drivers.Hotplug

/-!
# The main loop

Every error that leaves `handle_event` ends the loop. `Survivable` says, of an event and the state in
which it arrives, that none does.
-/

namespace TtRiingd.Core
open Drivers Providers

inductive Input where
  | ctrlC (result : Except String Unit)
  | received (result : RecvResult)

/-- One turn of the loop: what it selects, what surrounds the call, and what batches and dying
workers did to the controllers since the turn before. -/
structure Turn where
  input : Input
  env : Environment
  meanwhile : ControllerManager → ControllerManager

def Turn.environment (turn : Turn) : Environment := { turn.env with receivers := turn.env.receivers + 1 }

def AppState.hardware (state : AppState) : Hardware := ⟨state.statics, state.controllers⟩

def AppState.withHardware (state : AppState) (hw : Hardware) : AppState :=
  { state with statics := hw.statics, controllers := hw.manager }

def handleDeviceConnected (hidapi : Option HidApi) (vendorId productId : UInt16)
    (serialNumber : Option String) : EStateM Fault World Unit := fun world =>
  match world.sharedState with
  | none => .ok () world
  | some state =>
      match ControllerManager.deviceConnected hidapi vendorId productId serialNumber state.hardware with
      | .ok () hw => .ok () { world with sharedState := some (state.withHardware hw) }
      | .error fault hw => .error fault { world with sharedState := some (state.withHardware hw) }

def handleDeviceDisconnected (vendorId productId : UInt16) (serialNumber : Option String) :
    EStateM Fault World Unit := fun world =>
  match world.sharedState with
  | none => .ok () world
  | some state =>
      match ControllerManager.deviceDisconnected vendorId productId serialNumber state.hardware with
      | .ok () hw => .ok () { world with sharedState := some (state.withHardware hw) }
      | .error e hw => .error (.error e) { world with sharedState := some (state.withHardware hw) }

def handleConfigChange (env : Environment) (changeType : ConfigChangeType) : EStateM Fault World Unit :=
  match changeType with
  | .hotReload => handleHotReload env
  | .coldRestart _ => pure ()

def shutdown : EStateM Fault World Unit := fun world =>
  -- Errors of the tasks are logged.
  .ok () { world with
    sharedState := world.sharedState.map fun state => { state with controllers := state.controllers.shutdown }
    shutDown := true }

def withContext {α : Type} (message : String) (call : EStateM Fault World α) : EStateM Fault World α :=
  fun world =>
    match call world with
    | .ok value after => .ok value after
    | .error fault after => .error (fault.context message) after

def handleEvent (env : Environment) (eventResult : RecvResult) : EStateM Fault World Unit :=
  match eventResult with
  | .event (.configChangeDetected changeType) =>
      withContext "Failed to handle config change" (handleConfigChange env changeType)
  | .event .systemShutdown => do
      withContext "Failed to shutdown gracefully after SystemShutdown event" shutdown
      throw (.error (anyhow "System shutdown requested"))
  | .event (.deviceConnected vendorId productId serialNumber) =>
      withContext "Failed to handle device connected event"
        (handleDeviceConnected env.hidapi vendorId productId serialNumber)
  | .event (.deviceDisconnected vendorId productId serialNumber) =>
      withContext "Failed to handle device disconnected event"
        (handleDeviceDisconnected vendorId productId serialNumber)
  | .event _ => pure ()
  | .closed => throw (.error (anyhow "Event bus channel closed unexpectedly"))
  | .lagged _ => pure ()

def World.advance (world : World) (turn : Turn) : World :=
  { world with
    sharedState := world.sharedState.map fun state =>
      { state with controllers := turn.meanwhile state.controllers } }

/-- How a run of the loop stands: it waits for its next input, or a turn ended it, with a result or,
when the turn panicked, without one. -/
inductive Standing where
  | waiting
  | ended (turn : Turn) (result : Option (Except Error Unit))

def endedBy (turn : Turn) (result : EStateM.Result Fault World Unit) : Standing × World :=
  match result with
  | .ok () world => (.ended turn (some (.ok ())), world)
  | .error (.error e) world => (.ended turn (some (.error e)), world)
  | .error .panic world => (.ended turn none, world)

def runMainLoop : List Turn → World → Standing × World
  | [], world => (.waiting, world)
  | turn :: rest, world =>
      match turn.input with
      | .ctrlC (.ok ()) =>
          endedBy turn (withContext "Failed to shutdown gracefully after Ctrl+C" shutdown
            (world.advance turn))
      | .ctrlC (.error e) =>
          (.ended turn (some (.error (anyhow s!"Failed to listen for shutdown signal: {e}"))),
            world.advance turn)
      | .received eventResult =>
          match handleEvent turn.environment eventResult (world.advance turn) with
          | .ok () after => runMainLoop rest after
          | failed => endedBy turn failed

/-! ## The events that a turn survives -/

def ConnectSurvivable (hidapi : Option HidApi) (hw : Hardware) (fingerprint : HardwareFingerprint) : Prop :=
  (Registry.found hidapi hw.statics.opens (Registry.configFor hw.statics fingerprint)).isSome ∧
    hw.manager.workerManager.nextWorkerId + 1 < 2 ^ 32

def Stops (workerManager : ControllerWorkerManager) (workerId : Nat) : Prop :=
  ∃ worker, workerManager.workers.lookup workerId = some worker ∧ worker.drain.running = true

def DisconnectSurvivable (hw : Hardware) (fingerprint : HardwareFingerprint) : Prop :=
  ∃ controllerId, hw.manager.fingerprint2controllerId.lookup fingerprint = some controllerId ∧
    ∀ workerId, workerFor hw.manager controllerId = some workerId → Stops hw.manager.workerManager workerId

def Survivable (env : Environment) (event : Event) (world : World) : Prop :=
  match event with
  | .systemShutdown => False
  | .deviceConnected vendorId productId serialNumber =>
      ∀ state, world.sharedState = some state →
        ConnectSurvivable env.hidapi state.hardware ⟨vendorId, productId, serialNumber⟩
  | .deviceDisconnected vendorId productId serialNumber =>
      ∀ state, world.sharedState = some state →
        DisconnectSurvivable state.hardware ⟨vendorId, productId, serialNumber⟩
  | .configChangeDetected .hotReload => PrepareSent env world ∧ ¬ Refused env
  | .configChangeDetected (.coldRestart _) | .temperatureChanged _ | .configReloaded
  | .commitConfigUpdate _ | .rollbackConfigUpdate _ => True

theorem startWorker_isOk (controller : TTRiingQuad) (workerManager : ControllerWorkerManager) :
    (ControllerWorkerManager.startWorker controller workerManager).isOk = true ↔
      workerManager.nextWorkerId + 1 < 2 ^ 32 := by
  unfold ControllerWorkerManager.startWorker
  simp only
  split <;> rename_i bound
  · exact iff_of_true rfl bound
  · exact iff_of_false (by simp) bound

theorem deviceConnected_isOk (hidapi : Option HidApi) (vendorId productId : UInt16)
    (serialNumber : Option String) (hw : Hardware) :
    (ControllerManager.deviceConnected hidapi vendorId productId serialNumber hw).isOk = true ↔
      ConnectSurvivable hidapi hw ⟨vendorId, productId, serialNumber⟩ := by
  have opens := Registry.buildControllerFromFingerprint_isOk hidapi ⟨vendorId, productId, serialNumber⟩
    hw.statics
  rw [ConnectSurvivable, ← opens]
  unfold ControllerManager.deviceConnected
  cases built : Registry.buildControllerFromFingerprint hidapi ⟨vendorId, productId, serialNumber⟩
      hw.statics with
  | error e statics => simp [built]
  | ok controller statics =>
      rw [← startWorker_isOk controller]
      cases started : ControllerWorkerManager.startWorker controller hw.manager.workerManager with
      | error fault workerManager => simp [built, started]
      | ok workerId workerManager => simp [built, started]

theorem stopWorker_isOk (workerId : Nat) (workerManager : ControllerWorkerManager) :
    (ControllerWorkerManager.stopWorker workerId workerManager).isOk = true ↔
      Stops workerManager workerId := by
  unfold ControllerWorkerManager.stopWorker ControllerWorkerManager.request Stops
  cases found : workerManager.workers.lookup workerId with
  | none => simp
  | some worker =>
      simp only [ControllerWorker.call, Option.some.injEq, exists_eq_left']
      by_cases running : worker.drain.running = true
      · rw [if_pos running]
        exact iff_of_true rfl running
      · rw [if_neg running]
        exact iff_of_false (by simp) running

theorem deviceDisconnected_isOk (vendorId productId : UInt16) (serialNumber : Option String)
    (hw : Hardware) :
    (ControllerManager.deviceDisconnected vendorId productId serialNumber hw).isOk = true ↔
      DisconnectSurvivable hw ⟨vendorId, productId, serialNumber⟩ := by
  unfold ControllerManager.deviceDisconnected DisconnectSurvivable
  cases known : hw.manager.fingerprint2controllerId.lookup ⟨vendorId, productId, serialNumber⟩ with
  | none => simp
  | some controllerId =>
      simp only [Option.some.injEq, exists_eq_left', workerFor]
      cases entry : hw.manager.controllerId2workerId.lookup controllerId with
      | none => simp
      | some value =>
          cases value with
          | none => simp
          | some workerId =>
              have stops := stopWorker_isOk workerId hw.manager.workerManager
              simp only [Option.join_some, Option.some.injEq, forall_eq', ← stops]
              cases ControllerWorkerManager.stopWorker workerId hw.manager.workerManager with
              | ok reply workerManager => simp
              | error e workerManager => simp

theorem handleHotReload_isOk (env : Environment) (heard : 0 < env.receivers) (world : World) :
    (handleHotReload env world).isOk = true ↔ PrepareSent env world ∧ ¬ Refused env := by
  by_cases sent : PrepareSent env world
  · obtain ⟨state, config, shared, loaded⟩ := id sent
    rw [handleHotReload_asked shared loaded, and_iff_right sent]
    by_cases refused : Refused env
    · obtain ⟨e, rolled⟩ := secondPhase_rollback refused world.transactionCounter
        (asked env state config world)
      rw [rolled]
      simp [refused]
    · rw [secondPhase_commit refused, notify, if_pos heard]
      simp [refused]
  · cases shared : world.sharedState with
    | none => simp [handleHotReload, shared, sent]
    | some state =>
        cases loaded : ConfigManager.loadConfigFromPath env.hidapi world.path env.file with
        | ok config => exact absurd ⟨state, config, shared, loaded⟩ sent
        | error fault =>
            rw [handleHotReload_unloaded shared loaded]
            simp [sent]

theorem withContext_isOk {α : Type} (message : String) (call : EStateM Fault World α) (world : World) :
    (withContext message call world).isOk = (call world).isOk := by
  unfold withContext
  cases call world with
  | ok value after => rfl
  | error fault after => rfl

theorem handleEvent_isOk (env : Environment) (heard : 0 < env.receivers) (event : Event) (world : World) :
    (handleEvent env (.event event) world).isOk = true ↔ Survivable env event world := by
  cases event with
  | temperatureChanged sensors => exact iff_of_true rfl trivial
  | configReloaded => exact iff_of_true rfl trivial
  | commitConfigUpdate transactionId => exact iff_of_true rfl trivial
  | rollbackConfigUpdate transactionId => exact iff_of_true rfl trivial
  | systemShutdown => exact iff_of_false Bool.false_ne_true id
  | configChangeDetected changeType =>
      simp only [handleEvent, withContext_isOk]
      cases changeType with
      | hotReload => exact handleHotReload_isOk env heard world
      | coldRestart sections => exact iff_of_true rfl trivial
  | deviceConnected vendorId productId serialNumber =>
      simp only [handleEvent, withContext_isOk, handleDeviceConnected, Survivable]
      cases shared : world.sharedState with
      | none => simp
      | some state =>
          have connects := deviceConnected_isOk env.hidapi vendorId productId serialNumber state.hardware
          simp only [Option.some.injEq, forall_eq', ← connects]
          cases ControllerManager.deviceConnected env.hidapi vendorId productId serialNumber
              state.hardware with
          | ok value hw => simp
          | error fault hw => simp
  | deviceDisconnected vendorId productId serialNumber =>
      simp only [handleEvent, withContext_isOk, handleDeviceDisconnected, Survivable]
      cases shared : world.sharedState with
      | none => simp
      | some state =>
          have disconnects := deviceDisconnected_isOk vendorId productId serialNumber state.hardware
          simp only [Option.some.injEq, forall_eq', ← disconnects]
          cases ControllerManager.deviceDisconnected vendorId productId serialNumber state.hardware with
          | ok value hw => simp
          | error e hw => simp

/-! ## Runs of the loop -/

def AllSurvivable : List Turn → World → Prop
  | [], _ => True
  | turn :: rest, world =>
      match turn.input with
      | .ctrlC _ | .received .closed => True
      | .received (.lagged _) => AllSurvivable rest (world.advance turn)
      | .received (.event event) =>
          Survivable turn.environment event (world.advance turn) ∧
            AllSurvivable rest (handleEvent turn.environment (.event event) (world.advance turn)).state

/-- The loop still runs, or stopped for one of its reasons. -/
def SurvivesEvents (turns : List Turn) (world : World) : Prop :=
  match runMainLoop turns world with
  | (.waiting, _) => True
  | (.ended turn result, after) =>
      match turn.input with
      | .ctrlC (.ok ()) | .received (.event .systemShutdown) =>
          after.shutDown = true ∧ result = some (.ok ())
      | .ctrlC (.error _) | .received .closed => True
      | .received (.event _) | .received (.lagged _) => False

theorem not_survivesEvents_of_failed {turn : Turn} {rest : List Turn} {world after : World} {event : Event}
    {fault : Fault} (input : turn.input = .received (.event event))
    (failed : handleEvent turn.environment (.event event) (world.advance turn) = .error fault after) :
    ¬ SurvivesEvents (turn :: rest) world := by
  have ended : ∃ result, runMainLoop (turn :: rest) world = (.ended turn result, after) ∧
      result ≠ some (.ok ()) := by
    simp only [runMainLoop, input, failed]
    cases fault with
    | error e => exact ⟨some (.error e), rfl, by simp⟩
    | panic => exact ⟨none, rfl, by simp⟩
  obtain ⟨result, ended, not_ok⟩ := ended
  unfold SurvivesEvents
  rw [ended]
  cases event <;> simp [input, not_ok]

theorem survivesEvents_next {turn : Turn} {rest : List Turn} {world after : World}
    (next : runMainLoop (turn :: rest) world = runMainLoop rest after) :
    SurvivesEvents (turn :: rest) world ↔ SurvivesEvents rest after := by
  simp only [SurvivesEvents, next]

theorem survivesEvents_ctrlC {turn : Turn} {result : Except String Unit} (input : turn.input = .ctrlC result)
    (rest : List Turn) (world : World) : SurvivesEvents (turn :: rest) world := by
  cases result with
  | ok value => simp [SurvivesEvents, runMainLoop, endedBy, withContext, shutdown, input]
  | error e => simp [SurvivesEvents, runMainLoop, input]

theorem survivesEvents_closed {turn : Turn} (input : turn.input = .received .closed) (rest : List Turn)
    (world : World) : SurvivesEvents (turn :: rest) world := by
  have ended : runMainLoop (turn :: rest) world =
      (.ended turn (some (.error (anyhow "Event bus channel closed unexpectedly"))), world.advance turn) := by
    simp only [runMainLoop, input]
    rfl
  simp [SurvivesEvents, ended, input]

theorem survivesEvents_iff_allSurvivable (turns : List Turn) (world : World) :
    SurvivesEvents turns world ↔ AllSurvivable turns world := by
  induction turns generalizing world with
  | nil => exact iff_of_true trivial trivial
  | cons turn rest ih =>
      cases input : turn.input with
      | ctrlC result =>
          exact iff_of_true (survivesEvents_ctrlC input rest world) (by simp [AllSurvivable, input])
      | received received =>
          cases received with
          | closed => exact iff_of_true (survivesEvents_closed input rest world) (by simp [AllSurvivable, input])
          | lagged messages =>
              have next : runMainLoop (turn :: rest) world = runMainLoop rest (world.advance turn) := by
                simp only [runMainLoop, input]
                rfl
              rw [survivesEvents_next next, ih]
              simp only [AllSurvivable, input]
          | event event =>
              have survives := handleEvent_isOk turn.environment (Nat.succ_pos _) event (world.advance turn)
              simp only [AllSurvivable, input, ← survives]
              cases handled : handleEvent turn.environment (.event event) (world.advance turn) with
              | ok value after =>
                  have next : runMainLoop (turn :: rest) world = runMainLoop rest after := by
                    simp only [runMainLoop, input, handled]
                  rw [survivesEvents_next next, ih]
                  simp
              | error fault after =>
                  apply iff_of_false (not_survivesEvents_of_failed input handled)
                  simp

def quietTurn (event : Event) : Turn where
  input := .received (.event event)
  env := { hidapi := none, file := .parsed {}, handlers := fun _ => none, receivers := 2 }
  meanwhile := id

theorem unknown_disconnect_ends_loop :
    ¬ SurvivesEvents [quietTurn (.deviceDisconnected 0x264a 0x232B none)] runningWorld ∧
      ¬ SurvivesEvents [quietTurn .systemShutdown] runningWorld := by
  constructor
  · exact not_survivesEvents_of_failed rfl rfl
  · exact not_survivesEvents_of_failed rfl rfl

end TtRiingd.Core
