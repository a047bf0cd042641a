import TtRiingd.Drivers.SpeedBatch
import TtRiingd.Drivers.Unplug
import TtRiingd.Providers.TickBatch

/-!
# Ticks on the device

Tick after tick, a controller whose worker is up carries out what the tick asks of it, or stops in the
middle when its device does. The batch of a tick that fails goes no further than that, and what other
controllers do with theirs makes no difference.
-/

namespace TtRiingd.Providers.Monitoring
open Drivers ControllerManager TTRiingQuad

/-- One tick of the service. Its error is logged; a panic ends the task. -/
def tick (state : State) (sensors : List TemperatureSensor) : Option State :=
  survives (collectAndProcessTemperatures sensors state)

theorem updateSpeedBatch_cases {batch : List (Nat × UInt8)} {ctrl : TTRiingQuad}
    (range : ∀ entry ∈ batch, 1 ≤ entry.1 ∧ entry.1 ≤ ctrl.fans.length) :
    (∃ after, updateSpeedBatch batch ctrl = .ok () after ∧ BatchDone batch ctrl after) ∨
      ∃ e after, updateSpeedBatch batch ctrl = .error (.error e) after ∧ BatchFailed batch ctrl after (.error e) := by
  cases processed : processBatch batch ctrl with
  | ok results middle => exact .inl (updateSpeedBatch_done processed range)
  | error fault middle =>
      have failed := updateSpeedBatch_failed processed
      obtain ⟨e, rfl⟩ := failed.error
      exact .inr ⟨e, middle, EStateM.bind_of_error processed, failed⟩

/-- A worker that runs and has nothing queued. -/
def Ready (worker : ControllerWorker) : Prop := worker.running = true ∧ worker.mailbox = []

theorem Ready.call {worker : ControllerWorker} (ready : Ready worker) (command : ControllerCommand) :
    worker.call command = worker.handle command := by
  obtain ⟨controllerId, controller, mailbox, running⟩ := worker
  obtain ⟨rfl, rfl⟩ := ready
  rfl

theorem Ready.setSpeeds {worker : ControllerWorker} (ready : Ready worker) {batch : List (Nat × UInt8)}
    (range : ∀ entry ∈ batch, 1 ≤ entry.1 ∧ entry.1 ≤ worker.controller.fans.length) :
    Ready (worker.call (.setSpeeds batch)).2 ∧
      (BatchDone batch worker.controller (worker.call (.setSpeeds batch)).2.controller ∨
        ∃ fault, BatchFailed batch worker.controller (worker.call (.setSpeeds batch)).2.controller fault) := by
  rw [ready.call]
  rcases updateSpeedBatch_cases range with ⟨after, result, done⟩ | ⟨e, after, result, failed⟩
  · have executed : execute (.setSpeeds batch) worker.controller = .ok .done after := EStateM.bind_of_ok result
    simp only [ControllerWorker.handle, executed, reduceCtorEq, if_false]
    exact ⟨ready, .inl done⟩
  · have executed : execute (.setSpeeds batch) worker.controller = .error (.error e) after :=
      EStateM.bind_of_error result
    simp only [ControllerWorker.handle, executed]
    exact ⟨ready, .inr ⟨_, failed⟩⟩

/-! ## One tick -/

end TtRiingd.Providers.Monitoring
