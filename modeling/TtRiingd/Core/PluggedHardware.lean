import TtRiingd.Core.HotplugPipeline

/-!
# The hardware behind the pipeline

What the pipeline hands to the main loop changes the maps of the controllers, event by event. The changes
that batches and dying workers make in between are part of the run.
-/

namespace TtRiingd.Core
open Drivers

/-! ## What becomes of the hardware -/

/-- What a turn does to the hardware: what happened meanwhile, and the hotplug event it handles. -/
inductive HardwareChange where
  | meanwhile (change : ControllerManager → ControllerManager)
  | hotplug (hidapi : Option HidApi) (event : HotplugEvent)

def HardwareChange.event : HardwareChange → Option HotplugEvent
  | .meanwhile _ => none
  | .hotplug _ event => some event

def Turn.changes (turn : Turn) : List HardwareChange :=
  .meanwhile turn.meanwhile :: (turn.hotplug.toList.map fun event => .hotplug turn.env.hidapi event)

theorem withContext_ok {α : Type} {message : String} {call : EStateM Fault World α} {world after : World}
    {value : α} (result : withContext message call world = .ok value after) : call world = .ok value after := by
  unfold withContext at result
  split at result <;> cases result
  assumption

theorem handleHotReload_hardware {env : Environment} {world after : World} {state : AppState}
    (shared : world.sharedState = some state) (result : handleHotReload env world = .ok () after) :
    ∃ later, after.sharedState = some later ∧ later.hardware = state.hardware := by
  cases loaded : ConfigManager.loadConfigFromPath env.hidapi world.path env.file with
  | error fault =>
      rw [handleHotReload_unloaded shared loaded] at result
      contradiction
  | ok config =>
      rw [handleHotReload_asked shared loaded] at result
      by_cases refused : Refused env
      · obtain ⟨e, rolled⟩ := secondPhase_rollback refused world.transactionCounter (asked env state config world)
        rw [rolled] at result
        contradiction
      · rw [secondPhase_commit refused] at result
        refine ⟨{ state with config }, ?_, rfl⟩
        rw [notify_ok result]
        unfold World.publish
        split <;> rfl

/-- A turn that the loop survives handles its hotplug event, and nothing else touches the hardware. -/
theorem handleEvent_hardware {env : Environment} {eventResult : RecvResult} {world after : World} {state : AppState}
    (shared : world.sharedState = some state) (result : handleEvent env eventResult world = .ok () after) :
    ∃ later, after.sharedState = some later ∧ match eventResult with
      | .event event => (match Event.hotplug event with
        | some hotplug => handleHotplug env.hidapi state.hardware hotplug = some later.hardware
        | none => later.hardware = state.hardware)
      | _ => later.hardware = state.hardware := by
  match eventResult with
  | .closed => contradiction
  | .lagged _ =>
      cases result
      exact ⟨state, shared, rfl⟩
  | .event (.temperatureChanged _) | .event .configReloaded | .event (.commitConfigUpdate _)
  | .event (.rollbackConfigUpdate _) =>
      cases result
      exact ⟨state, shared, rfl⟩
  | .event .systemShutdown => contradiction
  | .event (.configChangeDetected changeType) =>
      have called := withContext_ok result
      cases changeType with
      | hotReload => exact handleHotReload_hardware shared called
      | coldRestart sections =>
          cases called
          exact ⟨state, shared, rfl⟩
  | .event (.deviceConnected vendorId productId serialNumber) =>
      have called := withContext_ok result
      simp only [handleDeviceConnected, shared] at called
      cases connected : ControllerManager.deviceConnected env.hidapi vendorId productId serialNumber
          state.hardware with
      | error fault hw =>
          rw [connected] at called
          contradiction
      | ok value hw =>
          rw [connected] at called
          cases called
          refine ⟨state.withHardware hw, rfl, ?_⟩
          change survives (ControllerManager.deviceConnected env.hidapi vendorId productId serialNumber
            state.hardware) = some hw
          rw [connected]
          rfl
  | .event (.deviceDisconnected vendorId productId serialNumber) =>
      have called := withContext_ok result
      simp only [handleDeviceDisconnected, shared] at called
      cases disconnected : ControllerManager.deviceDisconnected vendorId productId serialNumber
          state.hardware with
      | error e hw =>
          rw [disconnected] at called
          contradiction
      | ok value hw =>
          rw [disconnected] at called
          cases called
          refine ⟨state.withHardware hw, rfl, ?_⟩
          change some (ControllerManager.deviceDisconnected vendorId productId serialNumber
            state.hardware).state = some hw
          rw [disconnected]
          rfl

def AppState.advance (state : AppState) (turn : Turn) : AppState :=
  { state with controllers := turn.meanwhile state.controllers }

end TtRiingd.Core
