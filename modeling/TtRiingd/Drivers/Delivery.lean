import TtRiingd.Drivers.Hotplug

/-!
# Commands on their way to a worker

What a command does, in either mode, is told worker by worker: the one it is for serves it or takes it
into its mailbox, and every other worker is left as it was.
-/

namespace TtRiingd.Drivers
open ControllerManager

/-! ## One command -/

namespace ControllerWorker

def post (command : ControllerCommand) (worker : ControllerWorker) : ControllerWorker :=
  if worker.running then { worker with mailbox := worker.mailbox ++ [command] } else worker

/-- What either mode does to the worker, and whether it counts as a success. -/
def deliver (mode : ExecutionMode) (command : ControllerCommand) (worker : ControllerWorker) :
    Bool × ControllerWorker :=
  match mode with
  | .blocking => ((worker.call command).1.any fun reply => reply.isOk, (worker.call command).2)
  | .fireAndForget =>
      if worker.running ∧ worker.mailbox.length < CHANNEL_CAPACITY then (true, worker.post command)
      else (false, worker)

end ControllerWorker

theorem request_next (workerId : Nat) (command : ControllerCommand)
    (workerManager : ControllerWorkerManager) :
    (ControllerWorkerManager.request workerId command workerManager).state.nextWorkerId =
      workerManager.nextWorkerId := by
  unfold ControllerWorkerManager.request
  cases workerManager.workers.lookup workerId with
  | none => rfl
  | some worker =>
      simp only
      split <;> rfl

theorem request_found (workerId : Nat) (command : ControllerCommand)
    (workerManager : ControllerWorkerManager) (otherId : Nat) :
    (ControllerWorkerManager.request workerId command workerManager).state.workers.lookup otherId =
      (workerManager.workers.lookup otherId).map fun worker =>
        if otherId = workerId then (worker.call command).2 else worker := by
  unfold ControllerWorkerManager.request
  cases found : workerManager.workers.lookup workerId with
  | none => exact AList.lookup_changed_of_none found (fun worker => (worker.call command).2) otherId
  | some worker =>
      have changed := AList.lookup_insert_changed found (fun worker => (worker.call command).2) otherId
      simp only
      split <;> exact changed

def ControllerWorkerManager.offer (mode : ExecutionMode) (workerId : Nat) (command : ControllerCommand)
    (workerManager : ControllerWorkerManager) : Bool × ControllerWorkerManager :=
  match mode with
  | .blocking => ((request workerId command workerManager).isOk, (request workerId command workerManager).state)
  | .fireAndForget => trySend workerId command workerManager

theorem offer_succeeds (mode : ExecutionMode) (workerId : Nat) (command : ControllerCommand)
    (workerManager : ControllerWorkerManager) :
    (workerManager.offer mode workerId command).1 =
      (workerManager.workers.lookup workerId).any fun worker => (worker.deliver mode command).1 := by
  cases mode with
  | blocking =>
      simp only [ControllerWorkerManager.offer, ControllerWorkerManager.request, ControllerWorker.deliver]
      cases workerManager.workers.lookup workerId with
      | none => rfl
      | some worker =>
          simp only [Option.any_some]
          cases (worker.call command).1 with
          | none => rfl
          | some reply => cases reply <;> rfl
  | fireAndForget =>
      simp only [ControllerWorkerManager.offer, ControllerWorkerManager.trySend, ControllerWorker.deliver]
      cases workerManager.workers.lookup workerId with
      | none => rfl
      | some worker =>
          simp only [Option.any_some]
          split <;> rfl

theorem offer_found (mode : ExecutionMode) (workerId : Nat) (command : ControllerCommand)
    (workerManager : ControllerWorkerManager) (otherId : Nat) :
    (workerManager.offer mode workerId command).2.workers.lookup otherId =
      (workerManager.workers.lookup otherId).map fun worker =>
        if otherId = workerId then (worker.deliver mode command).2 else worker := by
  cases mode with
  | blocking => exact request_found workerId command workerManager otherId
  | fireAndForget =>
      simp only [ControllerWorkerManager.offer, ControllerWorkerManager.trySend, ControllerWorker.deliver]
      by_cases same : otherId = workerId
      · subst same
        cases found : workerManager.workers.lookup otherId with
        | none => simp [found]
        | some worker =>
            simp only [if_true, Option.map_some]
            by_cases free : worker.running = true ∧ worker.mailbox.length < CHANNEL_CAPACITY
            · rw [if_pos free, if_pos free, AList.lookup_insert, ControllerWorker.post, if_pos free.1]
            · rw [if_neg free, if_neg free, found]
      · simp only [if_neg same, Option.map_id']
        cases workerManager.workers.lookup workerId with
        | none => rfl
        | some worker =>
            simp only
            split
            · rw [AList.lookup_insert_ne same]
            · rfl

theorem offer_next (mode : ExecutionMode) (workerId : Nat) (command : ControllerCommand)
    (workerManager : ControllerWorkerManager) :
    (workerManager.offer mode workerId command).2.nextWorkerId = workerManager.nextWorkerId := by
  cases mode with
  | blocking => exact request_next workerId command workerManager
  | fireAndForget =>
      simp only [ControllerWorkerManager.offer, ControllerWorkerManager.trySend]
      cases workerManager.workers.lookup workerId with
      | none => rfl
      | some worker =>
          simp only
          split <;> rfl

theorem serve_found (workerId : Nat) (workerManager : ControllerWorkerManager) (otherId : Nat) :
    (workerManager.serve workerId).workers.lookup otherId =
      (workerManager.workers.lookup otherId).map fun worker =>
        if otherId = workerId then worker.serve else worker := by
  unfold ControllerWorkerManager.serve
  cases found : workerManager.workers.lookup workerId with
  | none => exact AList.lookup_changed_of_none found ControllerWorker.serve otherId
  | some worker => exact AList.lookup_insert_changed found ControllerWorker.serve otherId

theorem serve_next (workerId : Nat) (workerManager : ControllerWorkerManager) :
    (workerManager.serve workerId).nextWorkerId = workerManager.nextWorkerId := by
  unfold ControllerWorkerManager.serve
  split <;> rfl

/-! ## One entry of a batch -/

section Entries
variable {α : Type}

theorem send_eq_offer (mode : ExecutionMode) (command : α → ControllerCommand) (entry : String × α)
    (manager : ControllerManager) :
    send mode command entry manager =
      match manager.controllerId2workerId.lookup entry.1 with
      | none => (some false, manager)
      | some none => (none, manager)
      | some (some workerId) =>
          let offered := manager.workerManager.offer mode workerId (command entry.2)
          (some offered.1, { manager with workerManager := offered.2 }) := by
  cases mode with
  | blocking =>
      simp only [send, sendBlocking, ControllerWorkerManager.offer]
      cases manager.controllerId2workerId.lookup entry.1 with
      | none => rfl
      | some value =>
          cases value with
          | none => rfl
          | some workerId =>
              simp only
              cases ControllerWorkerManager.request workerId (command entry.2) manager.workerManager <;> rfl
  | fireAndForget => rfl

def outcomeOf (mode : ExecutionMode) (command : α → ControllerCommand) (manager : ControllerManager)
    (entry : String × α) : Outcome :=
  match manager.controllerId2workerId.lookup entry.1 with
  | none => some false
  | some none => none
  | some (some workerId) =>
      some (((workersOf manager).lookup workerId).any fun worker => (worker.deliver mode (command entry.2)).1)

theorem send_outcome (mode : ExecutionMode) (command : α → ControllerCommand) (entry : String × α)
    (manager : ControllerManager) :
    (send mode command entry manager).1 = outcomeOf mode command manager entry := by
  rw [send_eq_offer, outcomeOf]
  cases manager.controllerId2workerId.lookup entry.1 with
  | none => rfl
  | some value =>
      cases value with
      | none => rfl
      | some workerId => exact congrArg some (offer_succeeds mode workerId _ manager.workerManager)

theorem send_leads (mode : ExecutionMode) (command : α → ControllerCommand) (entry : String × α)
    (manager : ControllerManager) :
    (send mode command entry manager).2.controllerId2workerId = manager.controllerId2workerId := by
  rw [send_eq_offer]
  split <;> rfl

theorem send_next (mode : ExecutionMode) (command : α → ControllerCommand) (entry : String × α)
    (manager : ControllerManager) :
    (send mode command entry manager).2.workerManager.nextWorkerId = manager.workerManager.nextWorkerId := by
  rw [send_eq_offer]
  cases manager.controllerId2workerId.lookup entry.1 with
  | none => rfl
  | some value =>
      cases value with
      | none => rfl
      | some workerId => exact offer_next mode workerId _ manager.workerManager

theorem send_found (mode : ExecutionMode) (command : α → ControllerCommand) (entry : String × α)
    (manager : ControllerManager) (workerId : Nat) :
    (workersOf (send mode command entry manager).2).lookup workerId =
      ((workersOf manager).lookup workerId).map fun worker =>
        if manager.controllerId2workerId.lookup entry.1 = some (some workerId) then
          (worker.deliver mode (command entry.2)).2
        else worker := by
  rw [send_eq_offer]
  cases manager.controllerId2workerId.lookup entry.1 with
  | none => simp
  | some value =>
      cases value with
      | none => simp
      | some target =>
          simp only [Option.some.injEq, eq_comm (a := target)]
          exact offer_found mode target _ manager.workerManager workerId

end Entries

/-! ## One worker after the other -/

theorem workerIds_nodup (manager : ControllerManager) : manager.workerIds.Nodup :=
  List.nodup_range.map fun _ _ same => Nat.succ.inj same

theorem mem_workerIds {manager : ControllerManager} {workerId : Nat} :
    workerId ∈ manager.workerIds ↔ 1 ≤ workerId ∧ workerId ≤ manager.workerManager.workerCount := by
  rw [workerIds, List.mem_map]
  constructor
  · intro ⟨index, listed, number⟩
    rw [List.mem_range] at listed
    omega
  · intro ⟨positive, bound⟩
    exact ⟨workerId - 1, List.mem_range.mpr (by omega), by omega⟩

def replyOf (command : ControllerCommand) (workerId : Nat) (workerManager : ControllerWorkerManager) :
    Except Error Reply :=
  match ControllerWorkerManager.request workerId command workerManager with
  | .ok reply _ => .ok reply
  | .error e _ => .error e

theorem requestEach_cons (command : ControllerCommand) (first : Nat) (rest : List Nat)
    (workerManager : ControllerWorkerManager) :
    requestEach command (first :: rest) workerManager =
      (let others := requestEach command rest (ControllerWorkerManager.request first command workerManager).state
      ((first, replyOf command first workerManager) :: others.1, others.2)) := by
  rw [requestEach, replyOf]
  split <;> rename_i requested <;> rw [requested] <;> rfl

theorem requestEach_next (command : ControllerCommand) (ids : List Nat)
    (workerManager : ControllerWorkerManager) :
    (requestEach command ids workerManager).2.nextWorkerId = workerManager.nextWorkerId := by
  induction ids generalizing workerManager with
  | nil => rfl
  | cons first rest ih =>
      rw [requestEach_cons]
      simp only [ih, request_next]

section Distinct
variable {command : ControllerCommand} {ids : List Nat}

theorem requestEach_found (distinct : ids.Nodup) (workerManager : ControllerWorkerManager) (workerId : Nat) :
    (requestEach command ids workerManager).2.workers.lookup workerId =
      (workerManager.workers.lookup workerId).map fun worker =>
        if workerId ∈ ids then (worker.call command).2 else worker := by
  induction ids generalizing workerManager with
  | nil => simp [requestEach]
  | cons first rest ih =>
      rw [List.nodup_cons] at distinct
      rw [requestEach_cons]
      simp only
      rw [ih distinct.2, request_found, Option.map_map]
      congr 1
      funext worker
      by_cases same : workerId = first
      · simp [same, distinct.1]
      · simp [same]

end Distinct

end TtRiingd.Drivers
