import TtRiingd.Drivers.Manager
import TtRiingd.Library.Machine

/-!
# The maps of the controller manager

An id leads to a worker through `controllerId2workerId`, and the worker's run loop through
`workers`. This module says when the two agree: that every id with a worker leads to a running one,
and that every running worker is the one some id leads to.
-/

namespace TtRiingd.Drivers
open ControllerManager

inductive HotplugEvent where
  | connected (vendorId productId : UInt16) (serial : Option String)
  | disconnected (vendorId productId : UInt16) (serial : Option String)

inductive Operation where
  | event (event : HotplugEvent)
  | stopControllerWorker (controllerId : String)

/-- The state after a call; a call that panics ends the run. -/
def survives {σ α : Type} : EStateM.Result Fault σ α → Option σ
  | .ok _ state | .error (.error _) state => some state
  | .error .panic _ => none

section Steps
variable (hidapi : Option HidApi)

def handleHotplug (hw : Hardware) : HotplugEvent → Option Hardware
  | .connected vendorId productId serial => survives (deviceConnected hidapi vendorId productId serial hw)
  | .disconnected vendorId productId serial => some (deviceDisconnected vendorId productId serial hw).state

def operate (hw : Hardware) : Operation → Option Hardware
  | .event event => handleHotplug hidapi hw event
  | .stopControllerWorker controllerId => some (stopControllerWorker controllerId hw).state

end Steps

/-! ## What the operations do to the maps -/

def workerFor (manager : ControllerManager) (controllerId : String) : Option Nat :=
  (manager.controllerId2workerId.lookup controllerId).join

theorem ne_of_workerFor_none {manager : ControllerManager} {controllerId : String}
    (vacant : workerFor manager controllerId = none) (workerId : Nat) :
    manager.controllerId2workerId.lookup controllerId ≠ some (some workerId) := by
  intro leads
  simp [workerFor, leads] at vacant

abbrev workersOf (manager : ControllerManager) : AList fun _ : Nat => ControllerWorker :=
  manager.workerManager.workers

def attach (manager : ControllerManager) (fingerprint : HardwareFingerprint) (controller : TTRiingQuad) :
    ControllerManager :=
  let workerId := manager.workerManager.nextWorkerId
  { workerManager := {
      workers := (workersOf manager).insert workerId { controllerId := workerId, controller }
      nextWorkerId := workerId + 1 }
    controllerId2workerId := manager.controllerId2workerId.insert controller.name (some workerId)
    fingerprint2controllerId := manager.fingerprint2controllerId.insert fingerprint controller.name }

def stopAt (workerManager : ControllerWorkerManager) (workerId : Nat) (worker : ControllerWorker) :
    ControllerWorkerManager :=
  { workerManager with workers := workerManager.workers.insert workerId worker.stopped }

def detach (manager : ControllerManager) (controllerId : String) (workerId : Nat)
    (worker : ControllerWorker) : ControllerManager :=
  { manager with
    workerManager := stopAt manager.workerManager workerId worker
    controllerId2workerId := manager.controllerId2workerId.insert controllerId none }

@[simp] theorem attach_leads (manager : ControllerManager) (fingerprint : HardwareFingerprint)
    (controller : TTRiingQuad) (controllerId : String) :
    (attach manager fingerprint controller).controllerId2workerId.lookup controllerId =
      if controllerId = controller.name then some (some manager.workerManager.nextWorkerId)
      else manager.controllerId2workerId.lookup controllerId :=
  AList.lookup_insert_eq _ _ _ _

@[simp] theorem attach_found (manager : ControllerManager) (fingerprint : HardwareFingerprint)
    (controller : TTRiingQuad) (workerId : Nat) :
    (workersOf (attach manager fingerprint controller)).lookup workerId =
      if workerId = manager.workerManager.nextWorkerId then
        some { controllerId := manager.workerManager.nextWorkerId, controller }
      else (workersOf manager).lookup workerId :=
  AList.lookup_insert_eq _ _ _ _

@[simp] theorem detach_leads (manager : ControllerManager) (controllerId : String) (workerId : Nat)
    (worker : ControllerWorker) (otherId : String) :
    (detach manager controllerId workerId worker).controllerId2workerId.lookup otherId =
      if otherId = controllerId then some none else manager.controllerId2workerId.lookup otherId :=
  AList.lookup_insert_eq _ _ _ _

@[simp] theorem detach_found (manager : ControllerManager) (controllerId : String) (workerId : Nat)
    (worker : ControllerWorker) (otherWorkerId : Nat) :
    (workersOf (detach manager controllerId workerId worker)).lookup otherWorkerId =
      if otherWorkerId = workerId then some worker.stopped
      else (workersOf manager).lookup otherWorkerId :=
  AList.lookup_insert_eq _ _ _ _

theorem startWorker_ok {controller : TTRiingQuad} {workerManager after : ControllerWorkerManager}
    {workerId : Nat}
    (started : ControllerWorkerManager.startWorker controller workerManager = .ok workerId after) :
    workerId = workerManager.nextWorkerId ∧ after = {
      workers := workerManager.workers.insert workerId { controllerId := workerId, controller }
      nextWorkerId := workerId + 1 } := by
  unfold ControllerWorkerManager.startWorker at started
  simp only at started
  split at started
  · simp only [EStateM.Result.ok.injEq] at started
    obtain ⟨rfl, rfl⟩ := started
    exact ⟨rfl, rfl⟩
  · contradiction

theorem startWorker_error {controller : TTRiingQuad} {workerManager after : ControllerWorkerManager}
    {fault : Fault}
    (started : ControllerWorkerManager.startWorker controller workerManager = .error fault after) :
    fault = .panic ∧ after = workerManager := by
  unfold ControllerWorkerManager.startWorker at started
  simp only at started
  split at started
  · contradiction
  · simp only [EStateM.Result.error.injEq] at started
    exact ⟨started.1.symm, started.2.symm⟩

theorem deviceConnected_cases {hidapi : Option HidApi} {vendorId productId : UInt16}
    {serial : Option String} {hw after : Hardware}
    (result : survives (deviceConnected hidapi vendorId productId serial hw) = some after) :
    ¬ (Registry.found hidapi hw.statics.opens
        (Registry.configFor hw.statics ⟨vendorId, productId, serial⟩)).isSome ∧ after.manager = hw.manager ∨
    ∃ controller, controller.name = (Registry.configFor hw.statics ⟨vendorId, productId, serial⟩).getId ∧
      (Registry.found hidapi hw.statics.opens
        (Registry.configFor hw.statics ⟨vendorId, productId, serial⟩)).isSome ∧
      (∃ info wire, controller.dev = .opened info wire) ∧
      after.manager = attach hw.manager ⟨vendorId, productId, serial⟩ controller := by
  unfold deviceConnected at result
  cases built : Registry.buildControllerFromFingerprint hidapi ⟨vendorId, productId, serial⟩ hw.statics with
  | error e statics =>
      simp only [built, survives, Option.some.injEq] at result
      refine .inl ⟨?_, by rw [← result]⟩
      rw [← Registry.buildControllerFromFingerprint_isOk, built]
      simp
  | ok controller statics =>
      cases started : ControllerWorkerManager.startWorker controller hw.manager.workerManager with
      | error fault workerManager =>
          obtain ⟨rfl, -⟩ := startWorker_error started
          simp [built, started, survives] at result
      | ok workerId workerManager =>
          obtain ⟨rfl, rfl⟩ := startWorker_ok started
          simp only [built, started, survives, Option.some.injEq] at result
          obtain ⟨api, -, created, wired⟩ := Registry.buildControllerFromFingerprint_ok built
          obtain ⟨name, -, info, wire, -, unused⟩ := TTRiingQuad.createOne_ok created
          exact .inr ⟨controller, name, by rw [wired]; rfl, ⟨info, wire, unused⟩, by rw [← result]; rfl⟩

theorem stopWorker_idle {workerManager : ControllerWorkerManager} {workerId : Nat}
    {worker : ControllerWorker} (found : workerManager.workers.lookup workerId = some worker)
    (running : worker.running = true) (idle : worker.mailbox = []) :
    ControllerWorkerManager.stopWorker workerId workerManager =
      .ok .done (stopAt workerManager workerId worker) := by
  have replied : worker.call .stop = (some (.ok .done), worker.stopped) := by
    unfold ControllerWorker.call ControllerWorker.drain
    rw [idle]
    simp only [ControllerWorker.work, running, if_true]
    rfl
  unfold ControllerWorkerManager.stopWorker ControllerWorkerManager.request
  simp only [found, replied]
  rfl

/-! ## Ids lead to running workers -/

def NoDanglingWorker (manager : ControllerManager) : Prop :=
  ∀ controllerId workerId, manager.controllerId2workerId.lookup controllerId = some (some workerId) →
    ∃ worker, (workersOf manager).lookup workerId = some worker ∧ worker.running = true ∧
      worker.controller.getId = controllerId

structure Attached (manager : ControllerManager) : Prop where
  target : ∀ {controllerId workerId},
    manager.controllerId2workerId.lookup controllerId = some (some workerId) →
    ∃ worker, (workersOf manager).lookup workerId = some worker ∧ worker.running = true ∧
      worker.controller.name = controllerId ∧ worker.mailbox = []
  fresh : ∀ {workerId worker}, (workersOf manager).lookup workerId = some worker →
    workerId < manager.workerManager.nextWorkerId

theorem Attached.noDangling {manager : ControllerManager} (attached : Attached manager) :
    NoDanglingWorker manager := by
  intro controllerId workerId leads
  obtain ⟨worker, found, running, name, -⟩ := attached.target leads
  exact ⟨worker, found, running, name⟩

theorem Attached.attach {manager : ControllerManager} (attached : Attached manager)
    (fingerprint : HardwareFingerprint) (controller : TTRiingQuad) :
    Attached (attach manager fingerprint controller) := by
  constructor
  · intro controllerId workerId leads
    simp only [attach_leads, attach_found] at leads ⊢
    by_cases same : controllerId = controller.name
    · rw [if_pos same, Option.some.injEq, Option.some.injEq] at leads
      subst leads
      exact ⟨_, if_pos rfl, rfl, same.symm, rfl⟩
    · rw [if_neg same] at leads
      obtain ⟨worker, found, kept⟩ := attached.target leads
      have older := attached.fresh found
      exact ⟨worker, by rw [if_neg (Nat.ne_of_lt older)]; exact found, kept⟩
  · intro workerId worker found
    rw [attach_found] at found
    change workerId < manager.workerManager.nextWorkerId + 1
    by_cases same : workerId = manager.workerManager.nextWorkerId
    · omega
    · rw [if_neg same] at found
      exact Nat.lt_succ_of_lt (attached.fresh found)

theorem Attached.detach {manager : ControllerManager} {controllerId : String} {workerId : Nat}
    {worker : ControllerWorker} (attached : Attached manager)
    (leads : manager.controllerId2workerId.lookup controllerId = some (some workerId))
    (found : (workersOf manager).lookup workerId = some worker) :
    Attached (detach manager controllerId workerId worker) := by
  constructor
  · intro otherId otherWorkerId leads'
    simp only [detach_leads, detach_found] at leads' ⊢
    by_cases same : otherId = controllerId
    · simp [same] at leads'
    · rw [if_neg same] at leads'
      obtain ⟨other, found', kept, name, idle⟩ := attached.target leads'
      -- A worker drives the controller of its id, so no other id leads to it.
      have different : otherWorkerId ≠ workerId := by
        rintro rfl
        obtain ⟨worker', found'', -, name', -⟩ := attached.target leads
        rw [found'', Option.some.injEq] at found'
        exact same (name.symm.trans (found' ▸ name'))
      exact ⟨other, by rw [if_neg different]; exact found', kept, name, idle⟩
  · intro otherWorkerId other found'
    rw [detach_found] at found'
    change otherWorkerId < manager.workerManager.nextWorkerId
    by_cases same : otherWorkerId = workerId
    · exact same ▸ attached.fresh found
    · rw [if_neg same] at found'
      exact attached.fresh found'

theorem deviceDisconnected_cases (vendorId productId : UInt16) (serial : Option String) {hw : Hardware}
    (attached : Attached hw.manager) :
    (∀ id ∈ hw.manager.fingerprint2controllerId.lookup ⟨vendorId, productId, serial⟩,
        workerFor hw.manager id = none) ∧
      (deviceDisconnected vendorId productId serial hw).state = hw ∨
    ∃ controllerId workerId worker,
      hw.manager.fingerprint2controllerId.lookup ⟨vendorId, productId, serial⟩ = some controllerId ∧
      hw.manager.controllerId2workerId.lookup controllerId = some (some workerId) ∧
      (workersOf hw.manager).lookup workerId = some worker ∧
      (deviceDisconnected vendorId productId serial hw).state.manager =
        detach hw.manager controllerId workerId worker := by
  unfold deviceDisconnected
  cases known : hw.manager.fingerprint2controllerId.lookup ⟨vendorId, productId, serial⟩ with
  | none => exact .inl ⟨by simp, rfl⟩
  | some controllerId =>
      simp only
      cases entry : hw.manager.controllerId2workerId.lookup controllerId with
      | none => exact .inl ⟨by simp [workerFor, entry], rfl⟩
      | some value =>
          cases value with
          | none => exact .inl ⟨by simp [workerFor, entry], rfl⟩
          | some workerId =>
              obtain ⟨worker, found, running, -, idle⟩ := attached.target entry
              simp only [stopWorker_idle found running idle]
              exact .inr ⟨controllerId, workerId, worker, rfl, entry, found, rfl⟩

theorem Attached.handleHotplug {hidapi : Option HidApi} {hw after : Hardware} {event : HotplugEvent}
    (attached : Attached hw.manager) (result : handleHotplug hidapi hw event = some after) :
    Attached after.manager := by
  cases event with
  | connected vendorId productId serial =>
      rcases deviceConnected_cases result with ⟨-, same⟩ | ⟨controller, -, -, -, changed⟩
      · rw [same]
        exact attached
      · rw [changed]
        exact attached.attach _ _
  | disconnected vendorId productId serial =>
      simp only [Drivers.handleHotplug, Option.some.injEq] at result
      subst result
      rcases deviceDisconnected_cases vendorId productId serial attached with
        ⟨-, same⟩ | ⟨_, _, _, -, leads, found, changed⟩
      · rw [same]
        exact attached
      · rw [changed]
        exact attached.detach leads found

/-! ## Start-up -/

theorem initializeWorkers_found {controllers : List TTRiingQuad}
    {before after : ControllerWorkerManager} {workerId : Nat} {worker : ControllerWorker}
    (started : ControllerWorkerManager.initializeWorkers controllers before = .ok () after)
    (found : after.workers.lookup workerId = some worker) :
    before.workers.lookup workerId = some worker ∨ ∃ index controller,
      controllers[index]? = some controller ∧ workerId = before.nextWorkerId + index ∧
      worker = { controllerId := workerId, controller } := by
  induction controllers generalizing before with
  | nil =>
      cases started
      exact .inl found
  | cons controller rest ih =>
      obtain ⟨middle, first, others⟩ := EStateM.forM_cons_eq_ok.mp started
      obtain ⟨newId, state, first, done⟩ := EStateM.bind_eq_ok.mp first
      cases done
      obtain ⟨rfl, rfl⟩ := startWorker_ok first
      rcases ih others with older | ⟨index, later, listed, number, made⟩
      · rcases (AList.sets_insert _ _ _).lookup older with ⟨rfl, rfl⟩ | older
        · exact .inr ⟨0, controller, rfl, rfl, rfl⟩
        · exact .inl older
      · refine .inr ⟨index + 1, later, listed, ?_, made⟩
        rw [number, Nat.add_right_comm, Nat.add_assoc]

theorem initializeWorkers_added {controllers : List TTRiingQuad}
    {before after : ControllerWorkerManager}
    (started : ControllerWorkerManager.initializeWorkers controllers before = .ok () after) :
    after.nextWorkerId = before.nextWorkerId + controllers.length ∧
    (∀ workerId, workerId < before.nextWorkerId →
      after.workers.lookup workerId = before.workers.lookup workerId) ∧
    ∀ index controller, controllers[index]? = some controller →
      after.workers.lookup (before.nextWorkerId + index) =
        some { controllerId := before.nextWorkerId + index, controller } := by
  induction controllers generalizing before with
  | nil =>
      cases started
      exact ⟨rfl, fun _ _ => rfl, by simp⟩
  | cons controller rest ih =>
      obtain ⟨middle, first, others⟩ := EStateM.forM_cons_eq_ok.mp started
      obtain ⟨newId, state, first, done⟩ := EStateM.bind_eq_ok.mp first
      cases done
      obtain ⟨rfl, rfl⟩ := startWorker_ok first
      obtain ⟨count, kept, added⟩ := ih others
      refine ⟨?_, fun workerId older => ?_, fun index later listed => ?_⟩
      · rw [count, List.length_cons, Nat.add_right_comm, Nat.add_assoc]
      · rw [kept workerId (by simp only; omega)]
        exact AList.lookup_insert_ne (Nat.ne_of_lt older)
      · cases index with
        | zero =>
            simp only [List.getElem?_cons_zero, Option.some.injEq] at listed
            subst listed
            rw [kept _ (by simp only; omega)]
            exact AList.lookup_insert _
        | succ index =>
            have number : before.nextWorkerId + (index + 1) = before.nextWorkerId + 1 + index := by omega
            rw [number]
            exact added index later listed

theorem initializeWorkers_lookup {controllers : List TTRiingQuad} {after : ControllerWorkerManager}
    (started : ControllerWorkerManager.initializeWorkers controllers {} = .ok () after) (workerId : Nat)
    (worker : ControllerWorker) :
    after.workers.lookup workerId = some worker ↔ ∃ index controller, controllers[index]? = some controller ∧
      workerId = index + 1 ∧ worker = { controllerId := index + 1, controller } := by
  have first : ({} : ControllerWorkerManager).nextWorkerId = 1 := rfl
  constructor
  · intro found
    rcases initializeWorkers_found started found with older | ⟨index, controller, listed, rfl, rfl⟩
    · simp at older
    · rw [first, Nat.add_comm 1 index]
      exact ⟨index, controller, listed, rfl, rfl⟩
  · rintro ⟨index, controller, listed, rfl, rfl⟩
    rw [Nat.add_comm index 1]
    exact (initializeWorkers_added started).2.2 index controller listed

theorem initializeWorkers_next {controllers : List TTRiingQuad} {after : ControllerWorkerManager}
    (started : ControllerWorkerManager.initializeWorkers controllers {} = .ok () after) :
    after.nextWorkerId = controllers.length + 1 :=
  (initializeWorkers_added started).1.trans (Nat.add_comm _ _)

theorem initializeWorkers_mem {controllers : List TTRiingQuad} {after : ControllerWorkerManager}
    (started : ControllerWorkerManager.initializeWorkers controllers {} = .ok () after) (workerId : Nat) :
    workerId ∈ after.workers ↔ 1 ≤ workerId ∧ workerId ≤ controllers.length := by
  rw [← AList.lookup_isSome, Option.isSome_iff_exists]
  constructor
  · intro ⟨worker, found⟩
    obtain ⟨index, controller, listed, rfl, -⟩ := (initializeWorkers_lookup started workerId worker).mp found
    exact ⟨Nat.le_add_left 1 index, (List.getElem?_eq_some_iff.mp listed).1⟩
  · intro ⟨positive, bound⟩
    have inside : workerId - 1 < controllers.length := by omega
    exact ⟨_, (initializeWorkers_lookup started workerId _).mpr
      ⟨workerId - 1, _, List.getElem?_eq_getElem inside, (Nat.sub_add_cancel positive).symm, rfl⟩⟩

theorem mem_workerEntries {controllers : List TTRiingQuad} {controllerId : String} {value : Option Nat} :
    (controllerId, value) ∈ workerEntries controllers ↔ ∃ index controller,
      controllers[index]? = some controller ∧ controller.name = controllerId ∧ value = some (index + 1) := by
  simp only [workerEntries, List.mem_map, Prod.exists, List.mem_zipIdx_iff_getElem?, Prod.mk.injEq,
    TTRiingQuad.getId]
  constructor
  · rintro ⟨controller, index, listed, name, rfl⟩
    exact ⟨index, controller, listed, name, rfl⟩
  · rintro ⟨index, controller, listed, name, rfl⟩
    exact ⟨controller, index, listed, name, rfl⟩

theorem workerEntries_names (controllers : List TTRiingQuad) :
    (workerEntries controllers).map Prod.fst = controllers.map TTRiingQuad.getId := by
  have names : (workerEntries controllers).map Prod.fst =
      (controllers.zipIdx.map Prod.fst).map TTRiingQuad.getId := by
    rw [workerEntries, List.map_map, List.map_map]
    rfl
  rw [names, List.zipIdx_map_fst]

theorem initFromCfg_ok {hidapi : Option HidApi} {cfg : Config} {statics : Statics} {hw : Hardware}
    (started : initFromCfg hidapi cfg statics = .ok hw) :
    let controllers := (Registry.buildControllersFromConfig hidapi cfg.controllers statics).1
    ControllerWorkerManager.initializeWorkers controllers {} = .ok () hw.manager.workerManager ∧
      hw.manager.controllerId2workerId = AList.insertAll ∅ (workerEntries controllers) := by
  unfold initFromCfg at started
  intro controllers
  simp only at started
  split at started
  · contradiction
  · split at started
    · contradiction
    · rename_i workers
      simp only [Except.ok.injEq] at started
      subst started
      exact ⟨workers, rfl⟩

theorem Attached.initFromCfg {hidapi : Option HidApi} {cfg : Config} {statics : Statics} {hw : Hardware}
    (started : initFromCfg hidapi cfg statics = .ok hw) : Attached hw.manager := by
  obtain ⟨workers, ids⟩ := initFromCfg_ok started
  constructor
  · intro controllerId workerId leads
    rw [ids] at leads
    rcases AList.lookup_insertAll leads with member | empty
    · obtain ⟨index, controller, listed, name, number⟩ := mem_workerEntries.mp member
      obtain rfl : workerId = index + 1 := by simpa using number
      refine ⟨{ controllerId := index + 1, controller }, ?_, rfl, name, rfl⟩
      exact (initializeWorkers_lookup workers _ _).mpr ⟨index, controller, listed, rfl, rfl⟩
    · simp at empty
  · intro workerId worker found
    obtain ⟨-, bound⟩ := (initializeWorkers_mem workers workerId).mp
      (AList.lookup_isSome.mp (Option.isSome_of_eq_some found))
    rw [initializeWorkers_next workers]
    exact Nat.lt_succ_of_le bound

/-! ## Runs with `stop_controller_worker` -/

def StopsNothing (hw : Hardware) : Operation → Prop
  | .stopControllerWorker controllerId => workerFor hw.manager controllerId = none
  | .event _ => True

instance (hw : Hardware) : (operation : Operation) → Decidable (StopsNothing hw operation)
  | .stopControllerWorker _ => inferInstanceAs (Decidable (_ = none))
  | .event _ => .isTrue trivial

theorem stopControllerWorker_nothing {hw : Hardware} {controllerId : String}
    (nothing : StopsNothing hw (.stopControllerWorker controllerId)) :
    (stopControllerWorker controllerId hw).state = hw := by
  unfold stopControllerWorker
  cases entry : hw.manager.controllerId2workerId.lookup controllerId with
  | none => rfl
  | some value =>
      cases value with
      | none => rfl
      | some workerId => exact absurd entry (ne_of_workerFor_none nothing workerId)

theorem Attached.operate {hidapi : Option HidApi} {hw after : Hardware} {operation : Operation}
    (attached : Attached hw.manager) (nothing : StopsNothing hw operation)
    (result : operate hidapi hw operation = some after) : Attached after.manager := by
  cases operation with
  | event event => exact attached.handleHotplug result
  | stopControllerWorker controllerId =>
      simp only [Drivers.operate, Option.some.injEq] at result
      rw [← result, stopControllerWorker_nothing nothing]
      exact attached

theorem noDanglingWorker_of_stopsNothing {hidapi : Option HidApi} {cfg : Config} {hw : Hardware}
    (reachable : Machine.Reachable (operate hidapi) (fun start => initFromCfg hidapi cfg {} = .ok start)
      StopsNothing hw) : NoDanglingWorker hw.manager := by
  have attached : Attached hw.manager := by
    refine reachable.invariant (fun state => Attached state.manager) ?_ ?_
    · exact fun state started => Attached.initFromCfg started
    · exact fun state operation after attached nothing result => attached.operate nothing result
  exact attached.noDangling

def oneController : Config :=
  { controllers := [.riingQuad "main" ⟨0x264a, 0x232B, none⟩ [⟨1, "front"⟩]] }

def leadsTo (controllerId : String) (workerId : Nat) (running : Bool) (hw : Hardware) : Bool :=
  hw.manager.controllerId2workerId.lookup controllerId = some (some workerId) ∧
    ((workersOf hw.manager).lookup workerId).any fun worker => worker.running = running

theorem stopControllerWorker_leaves_dangling :
    ((oneController.controllers.map ControllerCfg.getId).Nodup) ∧ ∃ hw,
      Machine.Reachable (operate (some quietApi))
        (fun start => initFromCfg (some quietApi) oneController {} = .ok start) Machine.free hw ∧
      ¬ NoDanglingWorker hw.manager := by
  refine ⟨by decide, ?_⟩
  obtain ⟨hw, reachable, stopped⟩ :=
    Machine.exists_reachable [.stopControllerWorker "main"] (leadsTo "main" 1 false)
      (show Machine.passes (operate (some quietApi)) Machine.free
        (initFromCfg (some quietApi) oneController {}) _ _ = true by decide)
  refine ⟨hw, reachable, fun fine => ?_⟩
  simp only [leadsTo, Bool.decide_and, Bool.and_eq_true, decide_eq_true_eq] at stopped
  obtain ⟨worker, found, running, -⟩ := fine "main" 1 stopped.1
  simp [found, running] at stopped

theorem noDanglingWorker_of_stopsNothing_replug :
    ∃ hw, Machine.Reachable (operate (some quietApi))
        (fun start => initFromCfg (some quietApi) oneController {} = .ok start) StopsNothing hw ∧
      leadsTo "main" 2 true hw = true ∧ NoDanglingWorker hw.manager := by
  obtain ⟨hw, reachable, replugged⟩ :=
    Machine.exists_reachable
      [.event (.disconnected 0x264a 0x232B none), .event (.connected 0x264a 0x232B none)]
      (leadsTo "main" 2 true)
      (show Machine.passes (operate (some quietApi)) StopsNothing
        (initFromCfg (some quietApi) oneController {}) _ _ = true by decide)
  exact ⟨hw, reachable, replugged, noDanglingWorker_of_stopsNothing reachable⟩

/-! ## Running workers are the ones ids lead to -/

def NoOrphanedWorker (manager : ControllerManager) : Prop :=
  (∀ workerId worker, (workersOf manager).lookup workerId = some worker → worker.running = true →
    ∃! controllerId, manager.controllerId2workerId.lookup controllerId = some (some workerId)) ∧
  ∀ workerId worker otherWorkerId other, (workersOf manager).lookup workerId = some worker →
    (workersOf manager).lookup otherWorkerId = some other → worker.running = true → other.running = true →
    worker.controller.getId = other.controller.getId → workerId = otherWorkerId

structure Covered (manager : ControllerManager) : Prop where
  entry : ∀ {workerId worker}, (workersOf manager).lookup workerId = some worker →
    worker.running = true →
    manager.controllerId2workerId.lookup worker.controller.name = some (some workerId)

theorem Covered.noOrphaned {manager : ControllerManager} (covered : Covered manager)
    (attached : Attached manager) : NoOrphanedWorker manager := by
  constructor
  · intro workerId worker found running
    refine ⟨worker.controller.name, covered.entry found running, fun controllerId leads => ?_⟩
    obtain ⟨target, found', -, name, -⟩ := attached.target leads
    rw [found, Option.some.injEq] at found'
    rw [← name, found']
  · intro workerId worker otherWorkerId other found found' running running' same
    have leads := covered.entry found running
    have leads' := covered.entry found' running'
    have same : worker.controller.name = other.controller.name := same
    rw [same, leads', Option.some.injEq, Option.some.injEq] at leads
    exact leads.symm

theorem Covered.attach {manager : ControllerManager} {controller : TTRiingQuad} (covered : Covered manager)
    (vacant : ∀ workerId, manager.controllerId2workerId.lookup controller.name ≠ some (some workerId))
    (fingerprint : HardwareFingerprint) : Covered (attach manager fingerprint controller) := by
  constructor
  intro workerId worker found running
  rw [attach_found] at found
  rw [attach_leads]
  by_cases new : workerId = manager.workerManager.nextWorkerId
  · rw [if_pos new, Option.some.injEq] at found
    subst found
    rw [if_pos rfl, new]
  · rw [if_neg new] at found
    have leads := covered.entry found running
    have other : worker.controller.name ≠ controller.name := by
      intro same
      rw [same] at leads
      exact vacant workerId leads
    rw [if_neg other, leads]

theorem Covered.detach {manager : ControllerManager} {controllerId : String} {workerId : Nat}
    (covered : Covered manager) (worker : ControllerWorker)
    (leads : manager.controllerId2workerId.lookup controllerId = some (some workerId)) :
    Covered (detach manager controllerId workerId worker) := by
  constructor
  intro otherWorkerId other found running
  rw [detach_found] at found
  rw [detach_leads]
  by_cases same : otherWorkerId = workerId
  · rw [if_pos same, Option.some.injEq] at found
    rw [← found] at running
    contradiction
  · rw [if_neg same] at found
    have leads' := covered.entry found running
    rw [if_neg ?_, leads']
    intro name
    rw [name, leads, Option.some.injEq, Option.some.injEq] at leads'
    exact same leads'.symm

theorem Covered.initFromCfg {hidapi : Option HidApi} {cfg : Config} {statics : Statics} {hw : Hardware}
    (started : initFromCfg hidapi cfg statics = .ok hw)
    (distinct : ((Registry.opened hidapi cfg.controllers statics.opens).map
      (·.1.getId)).Nodup) : Covered hw.manager := by
  obtain ⟨workers, ids⟩ := initFromCfg_ok started
  have ids_opened := congrArg (List.map Prod.fst)
    (Registry.buildControllersFromConfig_opened hidapi cfg.controllers statics)
  simp only [List.map_map, Function.comp_def] at ids_opened
  rw [← ids_opened] at distinct
  constructor
  intro workerId worker found running
  obtain ⟨index, controller, listed, rfl, rfl⟩ := (initializeWorkers_lookup workers workerId worker).mp found
  rw [← workerEntries_names] at distinct
  rw [ids]
  apply AList.lookup_insertAll_of_nodup distinct
  exact mem_workerEntries.mpr ⟨index, controller, listed, rfl, rfl⟩

def ConnectsVacant (hidapi : Option HidApi) (hw : Hardware) : HotplugEvent → Prop
  | .connected vendorId productId serial =>
      let config := Registry.configFor hw.statics ⟨vendorId, productId, serial⟩
      (Registry.found hidapi hw.statics.opens config).isSome → workerFor hw.manager config.getId = none
  | .disconnected .. => True

instance (hidapi : Option HidApi) (hw : Hardware) :
    (event : HotplugEvent) → Decidable (ConnectsVacant hidapi hw event)
  | .connected .. => inferInstanceAs (Decidable (_ = true → _ = none))
  | .disconnected .. => .isTrue trivial

theorem Covered.handleHotplug {hidapi : Option HidApi} {hw after : Hardware} {event : HotplugEvent}
    (covered : Covered hw.manager) (attached : Attached hw.manager)
    (vacant : ConnectsVacant hidapi hw event) (result : handleHotplug hidapi hw event = some after) :
    Covered after.manager := by
  cases event with
  | connected vendorId productId serial =>
      rcases deviceConnected_cases result with ⟨-, same⟩ | ⟨controller, name, opens, -, changed⟩
      · rw [same]
        exact covered
      · rw [changed]
        exact covered.attach (ne_of_workerFor_none (name ▸ vacant opens)) _
  | disconnected vendorId productId serial =>
      simp only [Drivers.handleHotplug, Option.some.injEq] at result
      subst result
      rcases deviceDisconnected_cases vendorId productId serial attached with
        ⟨-, same⟩ | ⟨_, _, worker, -, leads, -, changed⟩
      · rw [same]
        exact covered
      · rw [changed]
        exact covered.detach worker leads

theorem noOrphanedWorker_of_connectsVacant {hidapi : Option HidApi} {cfg : Config} {hw : Hardware}
    (distinct : ((Registry.opened hidapi cfg.controllers 0).map (·.1.getId)).Nodup)
    (reachable : Machine.Reachable (handleHotplug hidapi)
      (fun start => initFromCfg hidapi cfg {} = .ok start) (ConnectsVacant hidapi) hw) :
    NoOrphanedWorker hw.manager := by
  have kept : Attached hw.manager ∧ Covered hw.manager := by
    refine reachable.invariant (fun state => Attached state.manager ∧ Covered state.manager) ?_ ?_
    · exact fun state started => ⟨Attached.initFromCfg started, Covered.initFromCfg started distinct⟩
    · intro state event after inv vacant result
      exact ⟨inv.1.handleHotplug result, inv.2.handleHotplug inv.1 vacant result⟩
  exact kept.2.noOrphaned kept.1

theorem noOrphanedWorker_of_connectsVacant_replug :
    ∃ hw, Machine.Reachable (handleHotplug (some quietApi))
        (fun start => initFromCfg (some quietApi) oneController {} = .ok start)
        (ConnectsVacant (some quietApi)) hw ∧
      leadsTo "main" 2 true hw = true ∧ NoOrphanedWorker hw.manager := by
  obtain ⟨hw, reachable, replugged⟩ :=
    Machine.exists_reachable [.disconnected 0x264a 0x232B none, .connected 0x264a 0x232B none]
      (leadsTo "main" 2 true)
      (show Machine.passes (handleHotplug (some quietApi)) (ConnectsVacant (some quietApi))
        (initFromCfg (some quietApi) oneController {}) _ _ = true by decide)
  exact ⟨hw, reachable, replugged, noOrphanedWorker_of_connectsVacant (by decide) reachable⟩

def doubled (workerId otherWorkerId : Nat) (hw : Hardware) : Bool :=
  match (workersOf hw.manager).lookup workerId, (workersOf hw.manager).lookup otherWorkerId with
  | some worker, some other =>
      worker.running ∧ other.running ∧ worker.controller.getId = other.controller.getId
  | _, _ => false

theorem connected_twice_doubles_worker :
    ∃ hw, Machine.Reachable (handleHotplug (some quietApi))
        (fun start => initFromCfg (some quietApi) {} {} = .ok start) Machine.free hw ∧
      ¬ NoOrphanedWorker hw.manager := by
  obtain ⟨hw, reachable, twice⟩ :=
    Machine.exists_reachable [.connected 0x264a 0x232B none, .connected 0x264a 0x232B none] (doubled 1 2)
      (show Machine.passes (handleHotplug (some quietApi)) Machine.free
        (initFromCfg (some quietApi) {} {}) _ _ = true by decide)
  refine ⟨hw, reachable, fun fine => ?_⟩
  unfold doubled at twice
  split at twice
  · rename_i worker other found found'
    simp only [Bool.decide_and, Bool.and_eq_true, decide_eq_true_eq] at twice
    exact absurd (fine.2 1 worker 2 other found found' twice.1 twice.2.1 twice.2.2) (by decide)
  · contradiction

end TtRiingd.Drivers
