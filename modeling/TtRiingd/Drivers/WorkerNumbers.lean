import TtRiingd.Drivers.Survival

/-!
# Numbers of the workers

Start-up numbers the workers twice, by position for `controllerId2workerId` and by a counter for the
workers themselves. A stopped worker keeps its number, so the numbers in use never have a gap.
-/

namespace TtRiingd.Drivers
open ControllerManager TTRiingQuad

/-! ## Calls of the worker manager -/

/-- `started` lists the controllers that were given a worker, in that order. -/
structure Roster where
  manager : ControllerManager
  started : List TTRiingQuad

inductive ManagerCall where
  | startWorker (controller : TTRiingQuad)
  | stopWorker (workerId : Nat)
  | offer (mode : ExecutionMode) (workerId : Nat) (command : ControllerCommand)
  | serve (workerId : Nat)

namespace Roster

def withWorkers (roster : Roster) (workerManager : ControllerWorkerManager) : Roster :=
  { roster with manager := { roster.manager with workerManager } }

def perform (roster : Roster) : ManagerCall → Option Roster
  | .startWorker controller =>
      match ControllerWorkerManager.startWorker controller roster.manager.workerManager with
      | .ok _ workerManager =>
          some { roster.withWorkers workerManager with started := roster.started ++ [controller] }
      | .error _ _ => none
  | .stopWorker workerId =>
      some (roster.withWorkers (ControllerWorkerManager.stopWorker workerId roster.manager.workerManager).state)
  | .offer mode workerId command =>
      some (roster.withWorkers (roster.manager.workerManager.offer mode workerId command).2)
  | .serve workerId => some (roster.withWorkers (roster.manager.workerManager.serve workerId))

/-! ## What every call keeps -/

/-- The n-th controller that was started belongs to the worker with the number n, and there are no others. -/
structure Counted (roster : Roster) : Prop where
  next : roster.manager.workerManager.nextWorkerId = roster.started.length + 1
  own : ∀ {index controller}, roster.started[index]? = some controller →
    ∃ worker, (workersOf roster.manager).lookup (index + 1) = some worker ∧ Later controller worker.controller
  only : ∀ {workerId worker}, (workersOf roster.manager).lookup workerId = some worker →
    1 ≤ workerId ∧ workerId ≤ roster.started.length

variable {roster after : Roster}

theorem Counted.changed (counted : Counted roster) {workerManager : ControllerWorkerManager}
    {change : Nat → ControllerWorker → ControllerWorker}
    (next : workerManager.nextWorkerId = roster.manager.workerManager.nextWorkerId)
    (found : ∀ workerId, workerManager.workers.lookup workerId =
      ((workersOf roster.manager).lookup workerId).map (change workerId))
    (later : ∀ workerId worker, Later worker.controller (change workerId worker).controller) :
    Counted (roster.withWorkers workerManager) := by
  constructor
  · exact next.trans counted.next
  · intro index controller listed
    obtain ⟨worker, held, kept⟩ := counted.own listed
    refine ⟨change (index + 1) worker, ?_, Later.trans _ _ _ kept (later (index + 1) worker)⟩
    exact (found (index + 1)).trans (by rw [held, Option.map_some])
  · intro workerId worker held
    obtain ⟨before, held, -⟩ := Option.map_eq_some_iff.mp ((found workerId).symm.trans held)
    exact counted.only held

theorem Counted.start (counted : Counted roster) {controller : TTRiingQuad} {workerId : Nat}
    {workerManager : ControllerWorkerManager}
    (started : ControllerWorkerManager.startWorker controller roster.manager.workerManager =
      .ok workerId workerManager) :
    Counted { roster.withWorkers workerManager with started := roster.started ++ [controller] } := by
  obtain ⟨rfl, rfl⟩ := startWorker_ok started
  have next := counted.next
  have found (number : Nat) := AList.lookup_insert_eq (workersOf roster.manager)
    roster.manager.workerManager.nextWorkerId number
    { controllerId := roster.manager.workerManager.nextWorkerId, controller }
  constructor
  · simp only [withWorkers, List.length_append, List.length_singleton, next]
  · intro index other listed
    by_cases older : index < roster.started.length
    · rw [List.getElem?_append_left older] at listed
      obtain ⟨worker, held, kept⟩ := counted.own listed
      refine ⟨worker, (found (index + 1)).trans ?_, kept⟩
      rw [if_neg (by omega), held]
    · rw [List.getElem?_append_right (by omega), List.getElem?_singleton] at listed
      split at listed
      · cases listed
        refine ⟨_, (found (index + 1)).trans (if_pos (by omega)), Later.refl _⟩
      · contradiction
  · intro number worker held
    rw [List.length_append, List.length_singleton]
    have held := (found number).symm.trans held
    split at held
    · omega
    · obtain ⟨positive, bound⟩ := counted.only held
      omega

theorem Counted.perform (counted : Counted roster) {call : ManagerCall}
    (performed : roster.perform call = some after) : Counted after := by
  cases call with
  | startWorker controller =>
      simp only [Roster.perform] at performed
      split at performed
      · rename_i started
        cases performed
        exact counted.start started
      · contradiction
  | stopWorker workerId =>
      cases performed
      refine counted.changed (request_next workerId .stop _) (request_found workerId .stop _) fun other worker => ?_
      split
      · exact ControllerWorker.call_later .stop worker
      · exact Later.refl _
  | offer mode workerId command =>
      cases performed
      refine counted.changed (offer_next mode workerId command _) (offer_found mode workerId command _)
        fun other worker => ?_
      split
      · exact ControllerWorker.deliver_later mode command worker
      · exact Later.refl _
  | serve workerId =>
      cases performed
      refine counted.changed (serve_next workerId _) (serve_found workerId _) fun other worker => ?_
      split
      · exact ControllerWorker.serve_later worker
      · exact Later.refl _

/-! ## Numbers without a gap -/

/-- The loops over the numbers up to the count send one command to each worker that was ever started. -/
structure Contiguous (roster : Roster) : Prop where
  keys : ∀ workerId, workerId ∈ workersOf roster.manager ↔
    1 ≤ workerId ∧ workerId ≤ roster.manager.workerManager.workerCount
  next : roster.manager.workerManager.nextWorkerId = roster.manager.workerManager.workerCount + 1
  own : ∀ index controller, roster.started[index]? = some controller →
    ∃ worker, (workersOf roster.manager).lookup (index + 1) = some worker ∧ Later controller worker.controller
  once : ∀ index, index < roster.started.length → roster.manager.workerIds.count (index + 1) = 1
  init : ∀ workerId, (workersOf roster.manager.handleInit.2).lookup workerId =
    ((workersOf roster.manager).lookup workerId).map fun worker => (worker.call .init).2
  firmware : ∀ workerId, (workersOf roster.manager.handleFirmwareVersions.2).lookup workerId =
    ((workersOf roster.manager).lookup workerId).map fun worker => (worker.call .getFirmware).2

theorem Counted.mem_workers (counted : Counted roster) (workerId : Nat) :
    workerId ∈ workersOf roster.manager ↔ 1 ≤ workerId ∧ workerId ≤ roster.started.length := by
  rw [← AList.lookup_isSome, Option.isSome_iff_exists]
  constructor
  · intro ⟨worker, held⟩
    exact counted.only held
  · intro ⟨positive, bound⟩
    have inside : workerId - 1 < roster.started.length := by omega
    obtain ⟨worker, held, -⟩ := counted.own (List.getElem?_eq_getElem inside)
    rw [Nat.sub_add_cancel positive] at held
    exact ⟨worker, held⟩

theorem Counted.workerCount (counted : Counted roster) :
    roster.manager.workerManager.workerCount = roster.started.length :=
  AList.length_of_keys counted.mem_workers

theorem Counted.asks (counted : Counted roster) (command : ControllerCommand) (workerId : Nat) :
    (requestEach command roster.manager.workerIds roster.manager.workerManager).2.workers.lookup workerId =
      ((workersOf roster.manager).lookup workerId).map fun worker => (worker.call command).2 := by
  rw [requestEach_found (workerIds_nodup _)]
  cases held : (workersOf roster.manager).lookup workerId with
  | none => rfl
  | some worker =>
      have listed : workerId ∈ roster.manager.workerIds := by
        rw [mem_workerIds, counted.workerCount]
        exact counted.only held
      rw [Option.map_some, Option.map_some, if_pos listed]

theorem Counted.contiguous (counted : Counted roster) : Contiguous roster := by
  have count := counted.workerCount
  constructor
  · rw [count]
    exact counted.mem_workers
  · rw [count]
    exact counted.next
  · exact fun index controller => counted.own
  · intro index inside
    apply List.count_eq_one_of_mem (workerIds_nodup _)
    rw [mem_workerIds, count]
    omega
  · exact counted.asks .init
  · exact counted.asks .getFirmware

theorem Counted.initFromCfg {hidapi : Option HidApi} {cfg : Config} {statics : Statics} {hw : Hardware}
    {controllers : List TTRiingQuad} (started : initFromCfg hidapi cfg statics = .ok hw)
    (built : (Registry.buildControllersFromConfig hidapi cfg.controllers statics).1 = controllers) :
    Counted ⟨hw.manager, controllers⟩ := by
  obtain ⟨workers, -⟩ := initFromCfg_ok started
  rw [built] at workers
  constructor
  · exact initializeWorkers_next workers
  · intro index controller listed
    refine ⟨{ controllerId := index + 1, controller }, ?_, Later.refl controller⟩
    exact (initializeWorkers_lookup workers _ _).mpr ⟨index, controller, listed, rfl, rfl⟩
  · intro workerId worker held
    exact (initializeWorkers_mem workers workerId).mp (AList.lookup_isSome.mp (Option.isSome_of_eq_some held))

end Roster

/-! ## Start-up and every run after it -/

section StartUp
variable {hidapi : Option HidApi} {cfg : Config} {statics : Statics} {hw : Hardware}
  {controllers : List TTRiingQuad}

theorem initFromCfg_numbers (started : initFromCfg hidapi cfg statics = .ok hw)
    (built : (Registry.buildControllersFromConfig hidapi cfg.controllers statics).1 = controllers)
    (distinct : (controllers.map getId).Nodup) {index : Nat} {controller : TTRiingQuad}
    (listed : controllers[index]? = some controller) :
    hw.manager.controllerId2workerId.lookup controller.getId = some (some (index + 1)) ∧
      (workersOf hw.manager).lookup (index + 1) = some { controllerId := index + 1, controller } := by
  obtain ⟨workers, ids⟩ := initFromCfg_ok started
  rw [built] at workers ids
  rw [← workerEntries_names] at distinct
  constructor
  · rw [ids]
    apply AList.lookup_insertAll_of_nodup distinct
    exact mem_workerEntries.mpr ⟨index, controller, listed, rfl, rfl⟩
  · exact (initializeWorkers_lookup workers _ _).mpr ⟨index, controller, listed, rfl, rfl⟩

theorem workers_contiguous (started : initFromCfg hidapi cfg statics = .ok hw)
    (built : (Registry.buildControllersFromConfig hidapi cfg.controllers statics).1 = controllers)
    (distinct : (controllers.map getId).Nodup) {calls : List ManagerCall} {roster : Roster}
    (performed : Machine.run Roster.perform ⟨hw.manager, controllers⟩ calls = some roster) :
    roster.Contiguous ∧ ∀ index controller, controllers[index]? = some controller →
      hw.manager.controllerId2workerId.lookup controller.getId = some (some (index + 1)) ∧
        (workersOf hw.manager).lookup (index + 1) = some { controllerId := index + 1, controller } := by
  have counted : roster.Counted := Machine.run_invariant
    (fun _ _ _ counted performed => Roster.Counted.perform counted performed)
    (Roster.Counted.initFromCfg started built) performed
  exact ⟨counted.contiguous, fun _ _ listed => initFromCfg_numbers started built distinct listed⟩

end StartUp

def twoControllers : Config where
  controllers := [.riingQuad "main" ⟨0x264a, 0x232B, none⟩ [⟨1, "front"⟩], .riingQuad "top" ⟨0x264a, 0x232C, none⟩ []]

/-- A worker is stopped, one is started for the same controller, and one that never was is stopped. -/
theorem workers_contiguous_restart :
    ∃ controllers hw roster,
      (Registry.buildControllersFromConfig (some quietApi) twoControllers.controllers {}).1 = controllers ∧
      controllers.map getId = ["main", "top"] ∧
      initFromCfg (some quietApi) twoControllers {} = .ok hw ∧
      Machine.run Roster.perform ⟨hw.manager, controllers⟩
        [.stopWorker 1, .startWorker quietController, .stopWorker 9] = some roster ∧
      roster.manager.workerManager.workerCount = 3 ∧ roster.Contiguous := by
  have runs : ∃ hw roster, initFromCfg (some quietApi) twoControllers {} = .ok hw ∧
      Machine.run Roster.perform
        ⟨hw.manager, (Registry.buildControllersFromConfig (some quietApi) twoControllers.controllers {}).1⟩
        [.stopWorker 1, .startWorker quietController, .stopWorker 9] = some roster ∧
      roster.manager.workerManager.workerCount = 3 := ⟨_, _, rfl, rfl, rfl⟩
  obtain ⟨hw, roster, started, performed, count⟩ := runs
  have contiguous := (workers_contiguous started rfl (by decide) performed).1
  exact ⟨_, hw, roster, rfl, rfl, started, performed, count, contiguous⟩

end TtRiingd.Drivers
