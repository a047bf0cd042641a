import TtRiingd.Drivers.Registry

namespace TtRiingd.Drivers

inductive ControllerCommand where
  | setSpeeds (data : List (Nat × UInt8))
  | setColors (data : List (Nat × List Rgb))
  | init
  | getFirmware
  | ledCount
  | stop
  deriving DecidableEq

inductive Reply where
  | done
  | firmware (version : UInt8 × UInt8 × UInt8)
  | ledCount (count : Nat)
  deriving DecidableEq

def execute (command : ControllerCommand) : EStateM Fault TTRiingQuad Reply :=
  match command with
  | .setSpeeds data => do TTRiingQuad.updateSpeedBatch data; pure .done
  | .setColors data => do TTRiingQuad.updateColorBatch data; pure .done
  | .init => do TTRiingQuad.sendInit; pure .done
  | .getFirmware => do let version ← TTRiingQuad.firmwareVersion; pure (.firmware version)
  | .ledCount => do let controller ← get; pure (.ledCount controller.ledCount)
  | .stop => pure .done

structure ControllerWorker where
  controllerId : Nat
  controller : TTRiingQuad
  mailbox : List ControllerCommand := []
  running : Bool := true

namespace ControllerWorker

def stopped (worker : ControllerWorker) : ControllerWorker :=
  { worker with mailbox := [], running := false }

/-- Takes one command. There is no reply when the handler panics: the task dies and the sender of
the reply is dropped with it. -/
def handle (command : ControllerCommand) (worker : ControllerWorker) :
    Option (Except Error Reply) × ControllerWorker :=
  match execute command worker.controller with
  | .ok reply controller =>
      let worker := { worker with controller }
      (some (.ok reply), if command = .stop then worker.stopped else worker)
  | .error (.error e) controller => (some (.error e), { worker with controller })
  | .error .panic controller => (none, { worker with controller }.stopped)

def serve (worker : ControllerWorker) : ControllerWorker :=
  match worker.mailbox with
  | command :: rest =>
      if worker.running then (handle command { worker with mailbox := rest }).2 else worker
  | [] => worker

def work : List ControllerCommand → ControllerWorker → ControllerWorker
  | [], worker => worker
  | command :: rest, worker => if worker.running then work rest (handle command worker).2 else worker

def drain (worker : ControllerWorker) : ControllerWorker := work worker.mailbox { worker with mailbox := [] }

/-- Sends a command and waits for the reply, which comes after the commands queued before it. -/
def call (command : ControllerCommand) (worker : ControllerWorker) :
    Option (Except Error Reply) × ControllerWorker :=
  let worker := worker.drain
  if worker.running then worker.handle command else (none, worker)

end ControllerWorker

def CHANNEL_CAPACITY : Nat := 32

/-- `workers` pairs the senders of the source with the workers behind them. Nothing but `shutdown`
removes a sender. -/
structure ControllerWorkerManager where
  workers : AList fun _ : Nat => ControllerWorker := ∅
  nextWorkerId : Nat := 1

namespace ControllerWorkerManager

def startWorker (controller : TTRiingQuad) : EStateM Fault ControllerWorkerManager Nat := fun manager =>
  let controllerId := manager.nextWorkerId
  -- `next_worker_id` is a `u32`, and its increment overflows.
  if controllerId + 1 < 2 ^ 32 then
    .ok controllerId
      { workers := manager.workers.insert controllerId { controllerId, controller }
        nextWorkerId := controllerId + 1 }
  else .error .panic manager

def initializeWorkers (controllers : List TTRiingQuad) : EStateM Fault ControllerWorkerManager Unit :=
  controllers.forM fun controller => do
    let _ ← startWorker controller
    pure ()

def workerCount (manager : ControllerWorkerManager) : Nat := manager.workers.entries.length

/-- The calls that wait for the worker. A worker that is gone shows as a closed channel, on the way
in or on the way back. -/
def request (workerId : Nat) (command : ControllerCommand) :
    EStateM Error ControllerWorkerManager Reply := fun manager =>
  match manager.workers.lookup workerId with
  | none => .error (anyhow s!"Controller {workerId} not found") manager
  | some worker =>
      let (reply, worker) := worker.call command
      let manager := { manager with workers := manager.workers.insert workerId worker }
      match reply with
      | some (.ok reply) => .ok reply manager
      | some (.error e) => .error e manager
      | none => .error (anyhow "channel closed") manager

def sendInit (workerId : Nat) : EStateM Error ControllerWorkerManager Reply := request workerId .init

def setColors (workerId : Nat) (colors : List (Nat × List Rgb)) :
    EStateM Error ControllerWorkerManager Reply := request workerId (.setColors colors)

def setSpeeds (workerId : Nat) (speeds : List (Nat × UInt8)) :
    EStateM Error ControllerWorkerManager Reply := request workerId (.setSpeeds speeds)

def getFirmware (workerId : Nat) : EStateM Error ControllerWorkerManager Reply :=
  request workerId .getFirmware

def ledCount (workerId : Nat) : EStateM Error ControllerWorkerManager Reply := request workerId .ledCount

def stopWorker (workerId : Nat) : EStateM Error ControllerWorkerManager Reply := request workerId .stop

def trySend (workerId : Nat) (command : ControllerCommand) (manager : ControllerWorkerManager) :
    Bool × ControllerWorkerManager :=
  match manager.workers.lookup workerId with
  | none => (false, manager)
  | some worker =>
      if worker.running ∧ worker.mailbox.length < CHANNEL_CAPACITY then
        (true, { manager with workers :=
          manager.workers.insert workerId { worker with mailbox := worker.mailbox ++ [command] } })
      else (false, manager)

def trySetColors (workerId : Nat) (colors : List (Nat × List Rgb)) :
    ControllerWorkerManager → Bool × ControllerWorkerManager := trySend workerId (.setColors colors)

def trySetSpeeds (workerId : Nat) (speeds : List (Nat × UInt8)) :
    ControllerWorkerManager → Bool × ControllerWorkerManager := trySend workerId (.setSpeeds speeds)

def shutdown (manager : ControllerWorkerManager) : ControllerWorkerManager :=
  -- The workers leave their loops at the signal, and the senders are dropped.
  { manager with workers := ∅ }

def serve (workerId : Nat) (manager : ControllerWorkerManager) : ControllerWorkerManager :=
  match manager.workers.lookup workerId with
  | none => manager
  | some worker => { manager with workers := manager.workers.insert workerId worker.serve }

end ControllerWorkerManager

/-! ## What serving commands does to a worker -/

theorem execute_later (command : ControllerCommand) :
    EStateM.Along TTRiingQuad.Later (execute command) := by
  have ending {α : Type} (call : EStateM Fault TTRiingQuad α) (reply : α → Reply)
      (later : EStateM.Along TTRiingQuad.Later call) :
      EStateM.Along TTRiingQuad.Later (do let a ← call; pure (reply a)) :=
    .bind TTRiingQuad.Later.trans later fun _ => .pure TTRiingQuad.Later.refl _
  cases command with
  | setSpeeds data => exact ending _ _ (TTRiingQuad.updateSpeedBatch_later data)
  | setColors data => exact ending _ _ (TTRiingQuad.updateColorBatch_later data)
  | init => exact ending _ _ TTRiingQuad.sendInit_later
  | getFirmware => exact ending _ _ TTRiingQuad.firmwareVersion_later
  | ledCount => exact fun ctrl => TTRiingQuad.Later.refl ctrl
  | stop => exact fun ctrl => TTRiingQuad.Later.refl ctrl

theorem handle_controller (command : ControllerCommand) (worker : ControllerWorker) :
    (worker.handle command).2.controller = (execute command worker.controller).state := by
  unfold ControllerWorker.handle
  split <;> rename_i executed
  · rw [executed]
    simp only
    split <;> rfl
  · rw [executed]
    rfl
  · rw [executed]
    rfl

theorem handle_mailbox (command : ControllerCommand) (worker : ControllerWorker) :
    (worker.handle command).2.mailbox <+: worker.mailbox := by
  unfold ControllerWorker.handle
  split
  · simp only
    split
    · exact List.nil_prefix
    · exact List.prefix_refl _
  · exact List.prefix_refl _
  · exact List.nil_prefix

end TtRiingd.Drivers
