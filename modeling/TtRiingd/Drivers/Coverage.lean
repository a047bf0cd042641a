import TtRiingd.Drivers.BatchStats

/-!
# Which workers a batch without data reaches

The Init and firmware batches ask the workers `1` to `workerCount`. That is every worker ever started,
and these are the connected ones as long as no worker was ever given up: a stopped worker stays in
`workers`, and so does one whose controller was connected again.
-/

namespace TtRiingd.Drivers
open ControllerManager

def connected (manager : ControllerManager) : List (String × Nat) :=
  manager.controllerId2workerId.entries.filterMap fun entry => entry.2.map fun workerId => (entry.1, workerId)

theorem mem_connected {manager : ControllerManager} {id : String} {workerId : Nat} :
    (id, workerId) ∈ connected manager ↔ manager.controllerId2workerId.lookup id = some (some workerId) := by
  rw [connected, List.mem_filterMap, ← AList.mem_entries_iff_lookup]
  constructor
  · rintro ⟨⟨key, value⟩, member, found⟩
    obtain ⟨number, rfl, same⟩ := Option.map_eq_some_iff.mp found
    cases same
    exact member
  · exact fun member => ⟨_, member, rfl⟩

structure Numbered (manager : ControllerManager) : Prop where
  attached : Attached manager
  started : 1 ≤ manager.workerManager.nextWorkerId
  found : ∀ workerId, ((workersOf manager).lookup workerId).isSome = true ↔
    1 ≤ workerId ∧ workerId < manager.workerManager.nextWorkerId

section Numbers
variable {manager : ControllerManager}

theorem Attached.distinct (attached : Attached manager) : DistinctWorkers manager := by
  apply distinctWorkers_of_named
  intro id workerId leads
  obtain ⟨worker, found, -, name, -⟩ := attached.target leads
  exact ⟨worker, found, name⟩

theorem Numbered.mem_workerIds (numbered : Numbered manager) (workerId : Nat) :
    workerId ∈ manager.workerIds ↔ ((workersOf manager).lookup workerId).isSome = true := by
  have started := numbered.started
  have count : manager.workerManager.workerCount = manager.workerManager.nextWorkerId - 1 := by
    apply AList.length_of_keys
    intro number
    rw [← AList.lookup_isSome, numbered.found]
    omega
  rw [Drivers.mem_workerIds, count, numbered.found]
  omega

theorem Numbered.attach (numbered : Numbered manager) (fingerprint : HardwareFingerprint)
    (controller : TTRiingQuad) :
    Numbered (attach manager fingerprint controller) := by
  have started := numbered.started
  refine ⟨numbered.attached.attach fingerprint controller, Nat.le_succ_of_le started, fun workerId => ?_⟩
  have before := numbered.found workerId
  rw [attach_found]
  change _ ↔ 1 ≤ workerId ∧ workerId < manager.workerManager.nextWorkerId + 1
  by_cases new : workerId = manager.workerManager.nextWorkerId
  · rw [if_pos new]
    simp only [Option.isSome_some, true_iff]
    omega
  · rw [if_neg new, before]
    omega

theorem Numbered.detach (numbered : Numbered manager) {id : String} {workerId : Nat} {worker : ControllerWorker}
    (leads : manager.controllerId2workerId.lookup id = some (some workerId))
    (found : (workersOf manager).lookup workerId = some worker) :
    Numbered (detach manager id workerId worker) := by
  refine ⟨numbered.attached.detach leads found, numbered.started, fun other => ?_⟩
  have before := numbered.found other
  rw [detach_found]
  change _ ↔ 1 ≤ other ∧ other < manager.workerManager.nextWorkerId
  by_cases same : other = workerId
  · subst same
    rw [found] at before
    rw [if_pos rfl]
    exact before
  · rw [if_neg same, before]

end Numbers

/-! ## Steps -/

/-- No worker is given up: a device that is unplugged has no worker, and one that is plugged in and
opens belongs to an id without a worker. -/
def GivesUpNone (hidapi : Option HidApi) (hw : Hardware) : HotplugEvent → Prop
  | .connected vendorId productId serial => ConnectsVacant hidapi hw (.connected vendorId productId serial)
  | .disconnected vendorId productId serial =>
      ∀ id ∈ hw.manager.fingerprint2controllerId.lookup ⟨vendorId, productId, serial⟩,
        workerFor hw.manager id = none

instance (hidapi : Option HidApi) (hw : Hardware) :
    (event : HotplugEvent) → Decidable (GivesUpNone hidapi hw event)
  | .connected vendorId productId serial =>
      inferInstanceAs (Decidable (ConnectsVacant hidapi hw (.connected vendorId productId serial)))
  | .disconnected .. => inferInstanceAs (Decidable (∀ id ∈ _, _ = none))

section Hotplug
variable {hidapi : Option HidApi} {hw after : Hardware} {event : HotplugEvent}

/-- What an event does to the manager: nothing, a new worker, or a stopped one. -/
theorem handleHotplug_cases (attached : Attached hw.manager)
    (result : handleHotplug hidapi hw event = some after) :
    (GivesUpNone hidapi hw event ∧ after.manager = hw.manager) ∨
    (∃ fingerprint controller, (GivesUpNone hidapi hw event ↔ workerFor hw.manager controller.name = none) ∧
      after.manager = attach hw.manager fingerprint controller) ∨
    ∃ id workerId worker, ¬ GivesUpNone hidapi hw event ∧
      hw.manager.controllerId2workerId.lookup id = some (some workerId) ∧
      (workersOf hw.manager).lookup workerId = some worker ∧
      after.manager = detach hw.manager id workerId worker := by
  cases event with
  | connected vendorId productId serial =>
      rcases deviceConnected_cases result with ⟨closed, same⟩ | ⟨controller, name, opens, -, changed⟩
      · exact .inl ⟨fun opens => absurd opens closed, same⟩
      · refine .inr (.inl ⟨_, controller, ?_, changed⟩)
        rw [name]
        exact ⟨fun vacant => vacant opens, fun vacant _ => vacant⟩
  | disconnected vendorId productId serial =>
      simp only [handleHotplug, Option.some.injEq] at result
      subst result
      rcases deviceDisconnected_cases vendorId productId serial attached with
        ⟨vacant, same⟩ | ⟨id, workerId, worker, known, leads, found, changed⟩
      · exact .inl ⟨vacant, by rw [same]⟩
      · refine .inr (.inr ⟨id, workerId, worker, fun vacant => ?_, leads, found, changed⟩)
        exact ne_of_workerFor_none (vacant id known) workerId leads

theorem Numbered.handleHotplug (numbered : Numbered hw.manager)
    (result : handleHotplug hidapi hw event = some after) : Numbered after.manager := by
  rcases handleHotplug_cases numbered.attached result with
    ⟨-, same⟩ | ⟨fingerprint, controller, -, changed⟩ | ⟨id, workerId, worker, -, leads, found, changed⟩
  · rw [same]
    exact numbered
  · rw [changed]
    exact numbered.attach fingerprint controller
  · rw [changed]
    exact numbered.detach leads found

end Hotplug

/-! ## Start-up -/

theorem Numbered.initFromCfg {hidapi : Option HidApi} {cfg : Config} {statics : Statics} {hw : Hardware}
    (started : initFromCfg hidapi cfg statics = .ok hw) : Numbered hw.manager := by
  obtain ⟨workers, -⟩ := initFromCfg_ok started
  have next := initializeWorkers_next workers
  refine ⟨Attached.initFromCfg started, by omega, fun workerId => ?_⟩
  rw [AList.lookup_isSome, initializeWorkers_mem workers, next]
  omega

section Firmware
variable {manager : ControllerManager}

end Firmware

/-! ## Coverage -/

end TtRiingd.Drivers
