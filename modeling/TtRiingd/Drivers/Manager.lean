import TtRiingd.Drivers.Workers

namespace TtRiingd.Drivers

inductive BatchCommand where
  | setColors (data : List (String × List (Nat × List Rgb)))
  | setSpeeds (data : List (String × List (Nat × UInt8)))
  | init
  | getFirmwares

structure ControllerBatchStats where
  total : Nat
  successful : Nat
  failed : Nat
  failedControllers : List String
  deriving DecidableEq

inductive BatchResult where
  | colorsSet (stats : ControllerBatchStats)
  | speedsSet (stats : ControllerBatchStats)
  | controllersInitialized (stats : ControllerBatchStats)
  | firmwareRetrieved (stats : ControllerBatchStats) (firmwareData : List (String × UInt8 × UInt8 × UInt8))

inductive ExecutionMode where
  | blocking
  | fireAndForget

structure ControllerManager where
  workerManager : ControllerWorkerManager
  controllerId2workerId : AList fun _ : String => Option Nat
  fingerprint2controllerId : AList fun _ : HardwareFingerprint => String

structure Hardware where
  statics : Statics
  manager : ControllerManager

namespace ControllerManager

/-! ## Start-up -/

def fingerprintEntries : List TTRiingQuad → Except Fault (List (HardwareFingerprint × String))
  | [] => .ok []
  | controller :: rest =>
      match controller.getFingerprint with
      -- `get_device_info().await.unwrap()`
      | .error _ => .error .panic
      | .ok fingerprint => do
          let others ← fingerprintEntries rest
          .ok ((fingerprint, controller.getId) :: others)

def workerEntries (controllers : List TTRiingQuad) : List (String × Option Nat) :=
  controllers.zipIdx.map fun entry => (entry.1.getId, some (entry.2 + 1))

def initFromCfg (hidapi : Option HidApi) (cfg : Config) (statics : Statics) : Except Fault Hardware :=
  let built := Registry.buildControllersFromConfig hidapi cfg.controllers statics
  match fingerprintEntries built.1 with
  | .error fault => .error fault
  | .ok fingerprints =>
      match ControllerWorkerManager.initializeWorkers built.1 {} with
      | .error fault _ => .error fault
      | .ok () workerManager =>
          .ok {
            statics := built.2
            manager := {
              workerManager
              controllerId2workerId := AList.insertAll ∅ (workerEntries built.1)
              fingerprint2controllerId := AList.insertAll ∅ fingerprints } }

def shutdown (manager : ControllerManager) : ControllerManager :=
  { manager with workerManager := manager.workerManager.shutdown }

/-! ## Hotplug -/

def stopControllerWorker (controllerId : String) : EStateM Error Hardware Unit := fun hw =>
  match hw.manager.controllerId2workerId.lookup controllerId with
  | none => .error (anyhow s!"Controller {controllerId} not found") hw
  | some none => .ok () hw
  | some (some wid) =>
      match ControllerWorkerManager.stopWorker wid hw.manager.workerManager with
      | .ok _ workerManager => .ok () { hw with manager := { hw.manager with workerManager } }
      | .error e workerManager => .error e { hw with manager := { hw.manager with workerManager } }

def deviceDisconnected (vendorId productId : UInt16) (serial : Option String) :
    EStateM Error Hardware Unit := fun hw =>
  match hw.manager.fingerprint2controllerId.lookup ⟨vendorId, productId, serial⟩ with
  | none => .error (anyhow s!"No controller found for fingerprint: ({vendorId}, {productId})") hw
  | some controllerId =>
      match hw.manager.controllerId2workerId.lookup controllerId with
      | none => .ok () hw
      | some none => .ok () hw
      | some (some wid) =>
          match ControllerWorkerManager.stopWorker wid hw.manager.workerManager with
          | .error e workerManager => .error e { hw with manager := { hw.manager with workerManager } }
          | .ok _ workerManager =>
              .ok () { hw with manager := { hw.manager with
                workerManager
                controllerId2workerId := hw.manager.controllerId2workerId.insert controllerId none } }

def deviceConnected (hidapi : Option HidApi) (vendorId productId : UInt16) (serial : Option String) :
    EStateM Fault Hardware Unit := fun hw =>
  let fingerprint : HardwareFingerprint := ⟨vendorId, productId, serial⟩
  match Registry.buildControllerFromFingerprint hidapi fingerprint hw.statics with
  | .error e statics => .error (.error e) { hw with statics }
  | .ok connectedController statics =>
      let controllerId := connectedController.getId
      match ControllerWorkerManager.startWorker connectedController hw.manager.workerManager with
      | .error fault workerManager =>
          .error fault { statics, manager := { hw.manager with workerManager } }
      | .ok workerId workerManager =>
          .ok () {
            statics
            manager := {
              workerManager
              controllerId2workerId :=
                hw.manager.controllerId2workerId.insert controllerId (some workerId)
              fingerprint2controllerId :=
                hw.manager.fingerprint2controllerId.insert fingerprint controllerId } }

/-! ## Batches -/

/-- What became of one entry of a batch: sent with success, failed, or skipped because the
controller has no worker. -/
abbrev Outcome := Option Bool

section Sending
variable {α : Type}

def sendBlocking (command : α → ControllerCommand) (entry : String × α) (manager : ControllerManager) :
    Outcome × ControllerManager :=
  match manager.controllerId2workerId.lookup entry.1 with
  | none => (some false, manager)
  | some none => (none, manager)
  | some (some workerId) =>
      match ControllerWorkerManager.request workerId (command entry.2) manager.workerManager with
      | .ok _ workerManager => (some true, { manager with workerManager })
      | .error _ workerManager => (some false, { manager with workerManager })

def sendFireAndForget (command : α → ControllerCommand) (entry : String × α)
    (manager : ControllerManager) : Outcome × ControllerManager :=
  match manager.controllerId2workerId.lookup entry.1 with
  | none => (some false, manager)
  | some none => (none, manager)
  | some (some workerId) =>
      let sent := ControllerWorkerManager.trySend workerId (command entry.2) manager.workerManager
      (some sent.1, { manager with workerManager := sent.2 })

def send (mode : ExecutionMode) (command : α → ControllerCommand) (entry : String × α) :
    ControllerManager → Outcome × ControllerManager :=
  match mode with
  | .blocking => sendBlocking command entry
  | .fireAndForget => sendFireAndForget command entry

def sendAll (mode : ExecutionMode) (command : α → ControllerCommand) :
    List (String × α) → ControllerManager → List (String × Outcome) × ControllerManager
  | [], manager => ([], manager)
  | entry :: rest, manager =>
      let first := send mode command entry manager
      let others := sendAll mode command rest first.2
      ((entry.1, first.1) :: others.1, others.2)

end Sending

def batchStats (outcomes : List (String × Outcome)) : ControllerBatchStats :=
  let successful := outcomes.countP fun entry => entry.2 = some true
  { total := outcomes.length
    successful
    failed := outcomes.length - successful
    failedControllers := (outcomes.filter fun entry => entry.2 = some false).map (·.1) }

def handleSetColors (mode : ExecutionMode) (colorData : List (String × List (Nat × List Rgb)))
    (manager : ControllerManager) : ControllerBatchStats × ControllerManager :=
  let sent := sendAll mode .setColors colorData manager
  (batchStats sent.1, sent.2)

def handleSetSpeeds (mode : ExecutionMode) (speedData : List (String × List (Nat × UInt8)))
    (manager : ControllerManager) : ControllerBatchStats × ControllerManager :=
  let sent := sendAll mode .setSpeeds speedData manager
  (batchStats sent.1, sent.2)

def requestEach (command : ControllerCommand) :
    List Nat → ControllerWorkerManager → List (Nat × Except Error Reply) × ControllerWorkerManager
  | [], workerManager => ([], workerManager)
  | workerId :: rest, workerManager =>
      match ControllerWorkerManager.request workerId command workerManager with
      | .ok reply workerManager =>
          let others := requestEach command rest workerManager
          ((workerId, .ok reply) :: others.1, others.2)
      | .error e workerManager =>
          let others := requestEach command rest workerManager
          ((workerId, .error e) :: others.1, others.2)

def controllerOf (manager : ControllerManager) (workerId : Nat) : Option String :=
  (manager.controllerId2workerId.entries.find? fun entry => entry.2 = some workerId).map (·.1)

def workerIds (manager : ControllerManager) : List Nat :=
  (List.range manager.workerManager.workerCount).map (· + 1)

def handleInit (manager : ControllerManager) : ControllerBatchStats × ControllerManager :=
  let total := manager.workerManager.workerCount
  let results := requestEach .init manager.workerIds manager.workerManager
  let successful := results.1.countP fun result => result.2.isOk
  ({ total
     successful
     failed := total - successful
     failedControllers := results.1.filterMap fun result =>
       if result.2.isOk then none else manager.controllerOf result.1 },
    { manager with workerManager := results.2 })

def firmwareResult (manager : ControllerManager) (result : Nat × Except Error Reply) :
    String × Option (UInt8 × UInt8 × UInt8) :=
  match manager.controllerOf result.1, result.2 with
  | some controllerId, .ok (.firmware version) => (controllerId, some version)
  | some controllerId, _ => (controllerId, none)
  | none, _ => ("", none)

def handleFirmwareVersions (manager : ControllerManager) :
    (ControllerBatchStats × List (String × UInt8 × UInt8 × UInt8)) × ControllerManager :=
  let total := manager.workerManager.workerCount
  let replies := requestEach .getFirmware manager.workerIds manager.workerManager
  let results := replies.1.map manager.firmwareResult
  let successful := results.countP fun result => result.2.isSome
  (({ total
      successful
      failed := total - successful
      failedControllers := (results.filter fun result => result.2.isNone).map (·.1) },
    results.map fun result => (result.1, result.2.getD (0, 0, 0))),
    { manager with workerManager := replies.2 })

def batchUpdate (command : BatchCommand) (mode : ExecutionMode) (manager : ControllerManager) :
    BatchResult × ControllerManager :=
  match command with
  | .setColors data =>
      let (stats, manager) := manager.handleSetColors mode data
      (.colorsSet stats, manager)
  | .setSpeeds data =>
      let (stats, manager) := manager.handleSetSpeeds mode data
      (.speedsSet stats, manager)
  | .init =>
      let (stats, manager) := manager.handleInit
      (.controllersInitialized stats, manager)
  | .getFirmwares =>
      let ((stats, firmwareData), manager) := manager.handleFirmwareVersions
      (.firmwareRetrieved stats firmwareData, manager)

def ledCount (controllerId : String) : EStateM Error Hardware Reply := fun hw =>
  match hw.manager.controllerId2workerId.lookup controllerId with
  | none => .error (anyhow s!"Controller {controllerId} not found") hw
  | some none => .error (anyhow s!"Worker for controller {controllerId} is not initialized") hw
  | some (some wid) =>
      match ControllerWorkerManager.ledCount wid hw.manager.workerManager with
      | .ok reply workerManager => .ok reply { hw with manager := { hw.manager with workerManager } }
      | .error e workerManager => .error e { hw with manager := { hw.manager with workerManager } }

end ControllerManager

end TtRiingd.Drivers
