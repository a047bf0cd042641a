import TtRiingd.Drivers.Coverage
import TtRiingd.Drivers.Survival

/-!
# Unplugging a controller

`device_disconnected` asks the worker of the controller to stop, and clears the entry of the id when it
has answered. A worker that is gone, or that dies on a command queued before the `Stop`, does not answer:
the error is passed on and the entry keeps leading to the dead worker.
-/

namespace TtRiingd.Drivers
open ControllerManager TTRiingQuad

/-! ## What a step does to the workers -/

/-- The maps are the same, and each worker is related to what it was at first. -/
structure Changes (R : Nat → ControllerWorker → ControllerWorker → Prop) (first after : ControllerManager) :
    Prop where
  leads : after.controllerId2workerId = first.controllerId2workerId
  names : after.fingerprint2controllerId = first.fingerprint2controllerId
  next : after.workerManager.nextWorkerId = first.workerManager.nextWorkerId
  found : ∀ workerId, Option.Rel (R workerId) ((workersOf first).lookup workerId)
    ((workersOf after).lookup workerId)

section Changes
variable {R : Nat → ControllerWorker → ControllerWorker → Prop} {first manager after : ControllerManager}

theorem Changes.refl (same : ∀ workerId start, (workersOf first).lookup workerId = some start →
    R workerId start start) : Changes R first first := by
  refine ⟨rfl, rfl, rfl, fun workerId => ?_⟩
  cases found : (workersOf first).lookup workerId with
  | none => exact .none
  | some start => exact .some (same workerId start found)

theorem Changes.known (changes : Changes R first after) {workerId : Nat} {start : ControllerWorker}
    (found : (workersOf first).lookup workerId = some start) :
    ∃ worker, (workersOf after).lookup workerId = some worker ∧ R workerId start worker := by
  have related := changes.found workerId
  rw [found] at related
  generalize (workersOf after).lookup workerId = held at related ⊢
  cases related with
  | some relates => exact ⟨_, rfl, relates⟩

theorem Changes.origin (changes : Changes R first after) {workerId : Nat} {worker : ControllerWorker}
    (found : (workersOf after).lookup workerId = some worker) :
    ∃ start, (workersOf first).lookup workerId = some start ∧ R workerId start worker := by
  have related := changes.found workerId
  rw [found] at related
  generalize (workersOf first).lookup workerId = held at related ⊢
  cases related with
  | some relates => exact ⟨_, rfl, relates⟩

theorem Changes.then {change : Nat → ControllerWorker → ControllerWorker} (changes : Changes R first manager)
    (leads : after.controllerId2workerId = manager.controllerId2workerId)
    (names : after.fingerprint2controllerId = manager.fingerprint2controllerId)
    (next : after.workerManager.nextWorkerId = manager.workerManager.nextWorkerId)
    (found : ∀ workerId, (workersOf after).lookup workerId =
      ((workersOf manager).lookup workerId).map (change workerId))
    (kept : ∀ workerId start worker, (workersOf first).lookup workerId = some start → R workerId start worker →
      R workerId start (change workerId worker)) : Changes R first after := by
  refine ⟨leads.trans changes.leads, names.trans changes.names, next.trans changes.next, fun workerId => ?_⟩
  rw [found]
  have related := changes.found workerId
  generalize (workersOf manager).lookup workerId = held at related ⊢
  cases started : (workersOf first).lookup workerId with
  | none =>
      rw [started] at related
      cases related
      exact .none
  | some start =>
      rw [started] at related
      cases related with
      | some relates => exact .some (kept workerId start _ started relates)

theorem send_names {α : Type} (mode : ExecutionMode) (command : α → ControllerCommand) (entry : String × α)
    (manager : ControllerManager) :
    (send mode command entry manager).2.fingerprint2controllerId = manager.fingerprint2controllerId := by
  rw [send_eq_offer]
  split <;> rfl

theorem Changes.sendAll {α : Type} {mode : ExecutionMode} {command : α → ControllerCommand}
    {data : List (String × α)} (changes : Changes R first manager)
    (kept : ∀ entry ∈ data, ∀ workerId start worker,
      first.controllerId2workerId.lookup entry.1 = some (some workerId) →
      (workersOf first).lookup workerId = some start → R workerId start worker →
      R workerId start (worker.deliver mode (command entry.2)).2) :
    Changes R first (sendAll mode command data manager).2 := by
  induction data generalizing manager with
  | nil => exact changes
  | cons entry rest ih =>
      rw [List.forall_mem_cons] at kept
      refine ih (changes.then (send_leads mode command entry manager) (send_names mode command entry manager)
        (send_next mode command entry manager) (send_found mode command entry manager) ?_) kept.2
      intro workerId start worker started relates
      split
      · rename_i leads
        rw [changes.leads] at leads
        exact kept.1 workerId start worker leads started relates
      · exact relates

theorem Changes.requestEach {command : ControllerCommand} (changes : Changes R first manager)
    (kept : ∀ workerId start worker, (workersOf first).lookup workerId = some start → R workerId start worker →
      R workerId start (worker.deliver .blocking command).2) :
    Changes R first { manager with
      workerManager := (requestEach command manager.workerIds manager.workerManager).2 } := by
  refine changes.then rfl rfl (requestEach_next _ _ _)
    (requestEach_found (workerIds_nodup manager) manager.workerManager) ?_
  intro workerId start worker started relates
  split
  · exact kept workerId start worker started relates
  · exact relates

/-- The commands of a batch, by the worker they are for. -/
def BatchCommand.Sends (manager : ControllerManager) (workerId : Nat) (sent : ControllerCommand) :
    BatchCommand → Prop
  | .setColors data => ∃ entry ∈ data,
      manager.controllerId2workerId.lookup entry.1 = some (some workerId) ∧ sent = .setColors entry.2
  | .setSpeeds data => ∃ entry ∈ data,
      manager.controllerId2workerId.lookup entry.1 = some (some workerId) ∧ sent = .setSpeeds entry.2
  | .init => sent = .init
  | .getFirmwares => sent = .getFirmware

theorem Changes.batchUpdate {command : BatchCommand} {mode : ExecutionMode} (changes : Changes R manager manager)
    (kept : ∀ mode workerId sent start worker, command.Sends manager workerId sent →
      (workersOf manager).lookup workerId = some start → R workerId start worker →
      R workerId start (worker.deliver mode sent).2) :
    Changes R manager (manager.batchUpdate command mode).2 := by
  cases command with
  | setColors data =>
      exact changes.sendAll fun entry member workerId start worker leads =>
        kept mode workerId _ start worker ⟨entry, member, leads, rfl⟩
  | setSpeeds data =>
      exact changes.sendAll fun entry member workerId start worker leads =>
        kept mode workerId _ start worker ⟨entry, member, leads, rfl⟩
  | init => exact changes.requestEach fun workerId start worker => kept .blocking workerId _ start worker rfl
  | getFirmwares =>
      exact changes.requestEach fun workerId start worker => kept .blocking workerId _ start worker rfl

end Changes

/-! ## The call -/

def stopRequested (manager : ControllerManager) (workerId : Nat) : ControllerManager :=
  { manager with
    workerManager := (ControllerWorkerManager.stopWorker workerId manager.workerManager).state }

def cleared (manager : ControllerManager) (controllerId : String) : ControllerManager :=
  { manager with controllerId2workerId := manager.controllerId2workerId.insert controllerId none }

@[simp] theorem cleared_leads (manager : ControllerManager) (controllerId otherId : String) :
    (cleared manager controllerId).controllerId2workerId.lookup otherId =
      if otherId = controllerId then some none else manager.controllerId2workerId.lookup otherId :=
  AList.lookup_insert_eq _ _ _ _

theorem stopRequested_found (manager : ControllerManager) (workerId otherId : Nat) :
    (workersOf (stopRequested manager workerId)).lookup otherId =
      ((workersOf manager).lookup otherId).map fun worker =>
        if otherId = workerId then (worker.call .stop).2 else worker :=
  request_found workerId .stop manager.workerManager otherId

theorem stopRequested_others {manager : ControllerManager} {workerId otherId : Nat} (apart : otherId ≠ workerId) :
    (workersOf (stopRequested manager workerId)).lookup otherId = (workersOf manager).lookup otherId := by
  simp only [stopRequested_found, if_neg apart, Option.map_id']

theorem stopWorker_isOk (workerId : Nat) (workerManager : ControllerWorkerManager) :
    (ControllerWorkerManager.stopWorker workerId workerManager).isOk =
      (workerManager.workers.lookup workerId).any fun worker => worker.drain.running := by
  refine (offer_succeeds .blocking workerId .stop workerManager).trans ?_
  congr 1
  funext worker
  unfold ControllerWorker.deliver
  simp only [ControllerWorker.call_stop]
  split <;> simp_all [Except.isOk, Except.toBool]

abbrev unplug (fingerprint : HardwareFingerprint) : EStateM Error Hardware Unit :=
  deviceDisconnected fingerprint.vendorId fingerprint.productId fingerprint.serial

section Unplug
variable {fingerprint : HardwareFingerprint} {controllerId : String} {workerId : Nat} {hw : Hardware}

theorem unplug_unled (known : hw.manager.fingerprint2controllerId.lookup fingerprint = some controllerId)
    (vacant : workerFor hw.manager controllerId = none) : unplug fingerprint hw = .ok () hw := by
  unfold unplug deviceDisconnected
  simp only [known]
  cases entry : hw.manager.controllerId2workerId.lookup controllerId with
  | none => rfl
  | some value =>
      cases value with
      | none => rfl
      | some workerId => exact absurd entry (ne_of_workerFor_none vacant workerId)

theorem unplug_led (known : hw.manager.fingerprint2controllerId.lookup fingerprint = some controllerId)
    (leads : hw.manager.controllerId2workerId.lookup controllerId = some (some workerId)) :
    let stops := (ControllerWorkerManager.stopWorker workerId hw.manager.workerManager).isOk
    (unplug fingerprint hw).isOk = stops ∧ (unplug fingerprint hw).state = { hw with
      manager := if stops then cleared (stopRequested hw.manager workerId) controllerId
        else stopRequested hw.manager workerId } := by
  unfold unplug deviceDisconnected stopRequested
  simp only [known, leads]
  cases ControllerWorkerManager.stopWorker workerId hw.manager.workerManager <;> exact ⟨rfl, rfl⟩

theorem unplug_unknown (unknown : hw.manager.fingerprint2controllerId.lookup fingerprint = none) :
    (unplug fingerprint hw).state = hw := by
  unfold unplug deviceDisconnected
  simp only [unknown]
  rfl

end Unplug

/-! ## What every run keeps -/

/-- An id leads to a worker of its own, whether the worker runs or not, and an id that a fingerprint
stands for has an entry. -/
structure Mapped (manager : ControllerManager) : Prop where
  target : ∀ {controllerId workerId},
    manager.controllerId2workerId.lookup controllerId = some (some workerId) →
    ∃ worker, (workersOf manager).lookup workerId = some worker ∧ worker.controller.name = controllerId
  fresh : ∀ {workerId worker}, (workersOf manager).lookup workerId = some worker →
    workerId < manager.workerManager.nextWorkerId
  known : ∀ {fingerprint controllerId},
    manager.fingerprint2controllerId.lookup fingerprint = some controllerId →
    ∃ value, manager.controllerId2workerId.lookup controllerId = some value

section Mapped
variable {manager after : ControllerManager}

theorem Mapped.changes {R : Nat → ControllerWorker → ControllerWorker → Prop} (mapped : Mapped manager)
    (changes : Changes R manager after)
    (later : ∀ workerId start worker, R workerId start worker → Later start.controller worker.controller) :
    Mapped after := by
  constructor
  · intro controllerId workerId leads
    rw [changes.leads] at leads
    obtain ⟨start, found, name⟩ := mapped.target leads
    obtain ⟨worker, found, relates⟩ := changes.known found
    exact ⟨worker, found, (later workerId _ _ relates).name.trans name⟩
  · intro workerId worker found
    rw [changes.next]
    obtain ⟨start, started, -⟩ := changes.origin found
    exact mapped.fresh started
  · intro fingerprint controllerId known
    rw [changes.names] at known
    rw [changes.leads]
    exact mapped.known known

theorem Mapped.attach (mapped : Mapped manager) (fingerprint : HardwareFingerprint) (controller : TTRiingQuad) :
    Mapped (attach manager fingerprint controller) := by
  constructor
  · intro controllerId workerId leads
    rw [attach_leads] at leads
    simp only [attach_found]
    split at leads
    · rename_i same
      cases leads
      exact ⟨_, if_pos rfl, same.symm⟩
    · obtain ⟨worker, found, name⟩ := mapped.target leads
      exact ⟨worker, by rw [if_neg (Nat.ne_of_lt (mapped.fresh found))]; exact found, name⟩
  · intro workerId worker found
    rw [attach_found] at found
    change workerId < manager.workerManager.nextWorkerId + 1
    split at found
    · omega
    · exact Nat.lt_succ_of_lt (mapped.fresh found)
  · intro other controllerId known
    rw [attach_leads]
    split
    · exact ⟨_, rfl⟩
    · rename_i different
      rcases (AList.sets_insert _ _ _).lookup known with ⟨-, same⟩ | older
      · exact absurd same.symm different
      · exact mapped.known older

theorem Mapped.cleared (mapped : Mapped manager) (controllerId : String) :
    Mapped (cleared manager controllerId) := by
  refine ⟨fun {otherId workerId} leads => ?_, mapped.fresh, fun {fingerprint otherId} known => ?_⟩
  · rw [cleared_leads] at leads
    split at leads
    · cases leads
    · exact mapped.target leads
  · rw [cleared_leads]
    split
    · exact ⟨none, rfl⟩
    · exact mapped.known known

end Mapped

theorem fingerprintEntries_ids {controllers : List TTRiingQuad} {entries : List (HardwareFingerprint × String)}
    (listed : fingerprintEntries controllers = .ok entries) :
    entries.map Prod.snd = controllers.map TTRiingQuad.getId := by
  induction controllers generalizing entries with
  | nil =>
      cases listed
      rfl
  | cons controller rest ih =>
      unfold fingerprintEntries at listed
      cases identified : controller.getFingerprint with
      | error e => simp [identified] at listed
      | ok fingerprint =>
          simp only [identified] at listed
          cases others : fingerprintEntries rest with
          | error fault => simp [others, bind, Except.bind] at listed
          | ok more =>
              simp only [others, bind, Except.bind, Except.ok.injEq] at listed
              rw [← listed, List.map_cons, List.map_cons, ih others]

theorem initFromCfg_names {hidapi : Option HidApi} {cfg : Config} {statics : Statics} {hw : Hardware}
    (started : initFromCfg hidapi cfg statics = .ok hw) : ∃ entries,
      fingerprintEntries (Registry.buildControllersFromConfig hidapi cfg.controllers statics).1 = .ok entries ∧
        hw.manager.fingerprint2controllerId = AList.insertAll ∅ entries := by
  unfold initFromCfg at started
  simp only at started
  split at started
  · contradiction
  · rename_i entries listed
    split at started
    · contradiction
    · cases started
      exact ⟨entries, listed, rfl⟩

theorem Mapped.initFromCfg {hidapi : Option HidApi} {cfg : Config} {statics : Statics} {hw : Hardware}
    (started : initFromCfg hidapi cfg statics = .ok hw) : Mapped hw.manager := by
  have attached := Attached.initFromCfg started
  constructor
  · intro controllerId workerId leads
    obtain ⟨worker, found, -, name, -⟩ := attached.target leads
    exact ⟨worker, found, name⟩
  · exact attached.fresh
  · intro fingerprint controllerId known
    obtain ⟨-, ids⟩ := initFromCfg_ok started
    obtain ⟨entries, listed, names⟩ := initFromCfg_names started
    rw [names] at known
    rw [ids]
    apply AList.exists_lookup_insertAll
    rw [workerEntries_names, ← fingerprintEntries_ids listed]
    rcases AList.lookup_insertAll known with member | empty
    · exact List.mem_map_of_mem member
    · simp at empty

/-! ## Runs -/

inductive Incident where
  | hotplug (event : HotplugEvent)
  | batch (command : BatchCommand) (mode : ExecutionMode)
  | serve (workerId : Nat)
  | die (workerId : Nat)

/-- The task of the worker panics: its mailbox is closed and what was queued is dropped. -/
def ControllerWorkerManager.die (workerId : Nat) (manager : ControllerWorkerManager) :
    ControllerWorkerManager :=
  match manager.workers.lookup workerId with
  | none => manager
  | some worker => stopAt manager workerId worker

def occur (hidapi : Option HidApi) (hw : Hardware) : Incident → Option Hardware
  | .hotplug event => handleHotplug hidapi hw event
  | .batch command mode => some { hw with manager := (hw.manager.batchUpdate command mode).2 }
  | .serve workerId =>
      some { hw with manager := { hw.manager with
        workerManager := hw.manager.workerManager.serve workerId } }
  | .die workerId =>
      some { hw with manager := { hw.manager with
        workerManager := hw.manager.workerManager.die workerId } }

theorem die_found (workerId : Nat) (workerManager : ControllerWorkerManager) (otherId : Nat) :
    (workerManager.die workerId).workers.lookup otherId =
      (workerManager.workers.lookup otherId).map fun worker =>
        if otherId = workerId then worker.stopped else worker := by
  unfold ControllerWorkerManager.die
  cases found : workerManager.workers.lookup workerId with
  | none => exact AList.lookup_changed_of_none found ControllerWorker.stopped otherId
  | some worker => exact AList.lookup_insert_changed found ControllerWorker.stopped otherId

theorem die_next (workerId : Nat) (workerManager : ControllerWorkerManager) :
    (workerManager.die workerId).nextWorkerId = workerManager.nextWorkerId := by
  unfold ControllerWorkerManager.die
  split <;> rfl

theorem unplug_cases (fingerprint : HardwareFingerprint) (hw : Hardware) :
    (unplug fingerprint hw).state = hw ∨ ∃ controllerId workerId,
      hw.manager.fingerprint2controllerId.lookup fingerprint = some controllerId ∧
      hw.manager.controllerId2workerId.lookup controllerId = some (some workerId) := by
  cases known : hw.manager.fingerprint2controllerId.lookup fingerprint with
  | none => exact .inl (unplug_unknown known)
  | some controllerId =>
      cases vacant : workerFor hw.manager controllerId with
      | none => exact .inl (by rw [unplug_unled known vacant]; rfl)
      | some workerId => exact .inr ⟨controllerId, workerId, rfl, Option.join_eq_some_iff.mp vacant⟩

section Steps
variable {hidapi : Option HidApi} {hw after : Hardware} {incident : Incident}

/-- A worker keeps its controller, and one that an id leads to stays alive. -/
def Spared (manager : ControllerManager) (workerId : Nat) (start worker : ControllerWorker) : Prop :=
  Later start.controller worker.controller ∧
    ((∃ controllerId, manager.controllerId2workerId.lookup controllerId = some (some workerId)) →
      Alive start → Alive worker)

theorem spared_refl (manager : ControllerManager) : Changes (Spared manager) manager manager :=
  Changes.refl fun _ _ _ => ⟨Later.refl _, fun _ alive => alive⟩

/-- The worker that the id leads to, if there is one, comes to the end of its mailbox. -/
def Stoppable (manager : ControllerManager) (controllerId : String) : Prop :=
  ∀ workerId worker, manager.controllerId2workerId.lookup controllerId = some (some workerId) →
    (workersOf manager).lookup workerId = some worker → Alive worker

def LedAlive (manager : ControllerManager) : Prop := ∀ controllerId, Stoppable manager controllerId

theorem LedAlive.changes {manager after : ControllerManager} (alive : LedAlive manager)
    (changes : Changes (Spared manager) manager after) : LedAlive after := by
  intro controllerId workerId worker leads found
  rw [changes.leads] at leads
  obtain ⟨start, started, spared⟩ := changes.origin found
  exact spared.2 ⟨controllerId, leads⟩ (alive controllerId workerId start leads started)

/-- No worker that an id leads to dies: not on its own, and not of a channel without a fan. -/
def SparesLed (hw : Hardware) : Incident → Prop
  | .batch (.setSpeeds data) _ => ∀ entry ∈ data, ∀ workerId ∈ workerFor hw.manager entry.1,
      ∀ worker ∈ (workersOf hw.manager).lookup workerId,
      ∀ target ∈ entry.2, 1 ≤ target.1 ∧ target.1 ≤ worker.controller.fans.length
  | .die workerId => workerId ∉ (connected hw.manager).map Prod.snd
  | .hotplug _ | .batch .. | .serve _ => True

instance (hw : Hardware) : (incident : Incident) → Decidable (SparesLed hw incident)
  | .batch (.setSpeeds data) _ => inferInstanceAs (Decidable (∀ entry ∈ data, _))
  | .die workerId => inferInstanceAs (Decidable (workerId ∉ _))
  | .hotplug _ | .batch (.setColors _) _ | .batch .init _ | .batch .getFirmwares _ | .serve _ => .isTrue trivial

/-- What a batch, a worker at its mailbox or a death does, from what it does to a worker. -/
theorem Changes.occur {R : Nat → ControllerWorker → ControllerWorker → Prop} (same : Changes R hw.manager hw.manager)
    (occurred : occur hidapi hw incident = some after) (inside : ∀ event, incident ≠ .hotplug event)
    (delivered : ∀ command sentMode, incident = .batch command sentMode → ∀ mode workerId sent start worker,
      command.Sends hw.manager workerId sent → (workersOf hw.manager).lookup workerId = some start →
      R workerId start worker → R workerId start (worker.deliver mode sent).2)
    (served : ∀ workerId start worker, R workerId start worker → R workerId start worker.serve)
    (died : ∀ workerId, incident = .die workerId → ∀ start worker, R workerId start worker →
      R workerId start worker.stopped) : Changes R hw.manager after.manager := by
  cases incident with
  | hotplug event => exact absurd rfl (inside event)
  | batch command mode =>
      cases occurred
      exact same.batchUpdate (delivered command mode rfl)
  | serve workerId =>
      cases occurred
      refine same.then rfl rfl (serve_next _ _) (serve_found workerId hw.manager.workerManager) ?_
      intro otherId start worker _ relates
      split
      · exact served otherId start worker relates
      · exact relates
  | die workerId =>
      cases occurred
      refine same.then rfl rfl (die_next _ _) (die_found workerId hw.manager.workerManager) ?_
      intro otherId start worker _ relates
      split
      · rename_i same
        exact died otherId (same ▸ rfl) start worker relates
      · exact relates

theorem stopRequested_changes (manager : ControllerManager) (workerId : Nat) :
    Changes (fun _ start worker => Later start.controller worker.controller) manager
      (stopRequested manager workerId) := by
  refine (Changes.refl fun _ _ _ => Later.refl _).then rfl rfl (request_next workerId .stop _)
    (stopRequested_found manager workerId) ?_
  intro otherId start worker _ relates
  split
  · exact Later.trans _ _ _ relates (ControllerWorker.call_later .stop worker)
  · exact relates

/-- An event of the bus leaves the maps alone, adds a worker, or asks one to stop. -/
theorem hotplug_cases {event : HotplugEvent} (occurred : occur hidapi hw (.hotplug event) = some after) :
    after.manager = hw.manager ∨
      (∃ fingerprint controller, after.manager = attach hw.manager fingerprint controller) ∨
      ∃ controllerId workerId, hw.manager.controllerId2workerId.lookup controllerId = some (some workerId) ∧
        after.manager = if (ControllerWorkerManager.stopWorker workerId hw.manager.workerManager).isOk
          then cleared (stopRequested hw.manager workerId) controllerId else stopRequested hw.manager workerId := by
  cases event with
  | connected vendorId productId serial =>
      rcases deviceConnected_cases occurred with ⟨-, same⟩ | ⟨controller, -, -, -, changed⟩
      · exact .inl same
      · exact .inr (.inl ⟨_, controller, changed⟩)
  | disconnected vendorId productId serial =>
      cases occurred
      change (unplug ⟨vendorId, productId, serial⟩ hw).state.manager = _ ∨ _
      rcases unplug_cases ⟨vendorId, productId, serial⟩ hw with same | ⟨controllerId, workerId, known, leads⟩
      · rw [same]
        exact .inl rfl
      · exact .inr (.inr ⟨controllerId, workerId, leads, congrArg Hardware.manager (unplug_led known leads).2⟩)

theorem Mapped.occur (mapped : Mapped hw.manager) (occurred : occur hidapi hw incident = some after) :
    Mapped after.manager := by
  by_cases inside : ∀ event, incident ≠ .hotplug event
  · refine mapped.changes (Changes.occur (Changes.refl fun _ _ _ => Later.refl _) occurred inside ?_ ?_ ?_)
      fun _ _ _ later => later
    · intro _ _ _ mode _ sent _ worker _ _ relates
      exact Later.trans _ _ _ relates (ControllerWorker.deliver_later mode sent worker)
    · exact fun _ _ worker relates => Later.trans _ _ _ relates (ControllerWorker.serve_later worker)
    · exact fun _ _ _ _ relates => relates
  · obtain ⟨event, rfl⟩ := not_forall_not.mp inside
    rcases hotplug_cases occurred with same | ⟨fingerprint, controller, changed⟩ | ⟨controllerId, workerId, -, changed⟩
    · rw [same]
      exact mapped
    · rw [changed]
      exact mapped.attach fingerprint controller
    · have requested := mapped.changes (stopRequested_changes hw.manager workerId) fun _ _ _ later => later
      rw [changed]
      split
      · exact requested.cleared controllerId
      · exact requested

theorem LedAlive.attach {manager : ControllerManager} (alive : LedAlive manager)
    (fingerprint : HardwareFingerprint) (controller : TTRiingQuad) :
    LedAlive (attach manager fingerprint controller) := by
  intro controllerId workerId worker leads found
  rw [attach_leads] at leads
  rw [attach_found] at found
  split at found
  · cases found
    exact ⟨rfl, trivial⟩
  · rename_i older
    split at leads
    · cases leads
      exact absurd rfl older
    · exact alive controllerId workerId worker leads found

theorem LedAlive.unplug (alive : LedAlive hw.manager) (mapped : Mapped hw.manager)
    {controllerId : String} {workerId : Nat}
    (leads : hw.manager.controllerId2workerId.lookup controllerId = some (some workerId)) :
    LedAlive (cleared (stopRequested hw.manager workerId) controllerId) := by
  intro otherId otherWorkerId worker leads' found
  rw [cleared_leads] at leads'
  split at leads'
  · cases leads'
  · rename_i different
    -- The worker that stops is no other id's.
    have apart : otherWorkerId ≠ workerId := by
      intro same
      subst same
      exact different (distinctWorkers_of_named mapped.target _ _ _ leads' leads)
    change (workersOf (stopRequested hw.manager workerId)).lookup otherWorkerId = some worker at found
    rw [stopRequested_others apart] at found
    exact alive otherId otherWorkerId worker leads' found

theorem stops_iff (mapped : Mapped hw.manager) {controllerId : String} {workerId : Nat}
    (leads : hw.manager.controllerId2workerId.lookup controllerId = some (some workerId)) :
    (ControllerWorkerManager.stopWorker workerId hw.manager.workerManager).isOk = true ↔
      Stoppable hw.manager controllerId := by
  obtain ⟨worker, found, -⟩ := mapped.target leads
  rw [stopWorker_isOk, found, Option.any_some, ControllerWorker.drain_running]
  constructor
  · intro alive otherId other leads' found'
    rw [leads, Option.some.injEq, Option.some.injEq] at leads'
    rw [← leads', found, Option.some.injEq] at found'
    exact found' ▸ alive
  · exact fun stoppable => stoppable workerId worker leads found

theorem inRange_of_sparesLed {command : BatchCommand} {mode : ExecutionMode}
    (spares : SparesLed hw (.batch command mode)) {workerId : Nat} {sent : ControllerCommand}
    (sends : command.Sends hw.manager workerId sent) {start : ControllerWorker}
    (found : (workersOf hw.manager).lookup workerId = some start) :
    sent.InRange start.controller.fans.length := by
  cases command with
  | setColors data =>
      obtain ⟨entry, -, -, rfl⟩ := sends
      trivial
  | setSpeeds data =>
      obtain ⟨entry, member, leads, rfl⟩ := sends
      exact spares entry member workerId (Option.join_eq_some_iff.mpr leads) start found
  | init =>
      cases sends
      trivial
  | getFirmwares =>
      cases sends
      trivial

theorem LedAlive.occur (alive : LedAlive hw.manager) (mapped : Mapped hw.manager)
    (spares : SparesLed hw incident) (occurred : occur hidapi hw incident = some after) :
    LedAlive after.manager := by
  by_cases inside : ∀ event, incident ≠ .hotplug event
  · refine alive.changes (Changes.occur (spared_refl hw.manager) occurred inside ?_ ?_ ?_)
    · rintro command batchMode rfl mode workerId sent start worker sends found ⟨later, spared⟩
      refine ⟨Later.trans _ _ _ later (ControllerWorker.deliver_later mode sent worker), fun leads lives => ?_⟩
      apply (spared leads lives).deliver mode
      rw [later.fans]
      exact inRange_of_sparesLed spares sends found
    · rintro workerId start worker ⟨later, spared⟩
      exact ⟨Later.trans _ _ _ later (ControllerWorker.serve_later worker),
        fun leads lives => (spared leads lives).serve⟩
    · rintro workerId rfl start worker ⟨later, -⟩
      refine ⟨later, fun leads => ?_⟩
      obtain ⟨controllerId, leads⟩ := leads
      exact absurd (List.mem_map_of_mem (mem_connected.mpr leads)) spares
  · obtain ⟨event, rfl⟩ := not_forall_not.mp inside
    rcases hotplug_cases occurred with
      same | ⟨fingerprint, controller, changed⟩ | ⟨controllerId, workerId, leads, changed⟩
    · rw [same]
      exact alive
    · rw [changed]
      exact alive.attach fingerprint controller
    · rw [changed, if_pos ((stops_iff mapped leads).mpr (alive controllerId))]
      exact alive.unplug mapped leads

theorem LedAlive.initFromCfg {cfg : Config} {statics : Statics} (started : initFromCfg hidapi cfg statics = .ok hw) :
    LedAlive hw.manager := by
  intro controllerId workerId worker leads found
  obtain ⟨other, found', running, -, idle⟩ := (Attached.initFromCfg started).target leads
  rw [found, Option.some.injEq] at found'
  subst found'
  exact ⟨running, by rw [idle]; trivial⟩

end Steps

/-! ## The result of the call -/

/-- Unplugging succeeds: the id leads nowhere, its worker has left its loop, all else is as before, and
doing it again does nothing. -/
structure Unplugs (fingerprint : HardwareFingerprint) (controllerId : String) (hw : Hardware) : Prop where
  ok : (unplug fingerprint hw).isOk = true
  entry : (unplug fingerprint hw).state.manager.controllerId2workerId.lookup controllerId = some none
  stopped : ∀ workerId, hw.manager.controllerId2workerId.lookup controllerId = some (some workerId) →
    ∃ worker, (workersOf (unplug fingerprint hw).state.manager).lookup workerId = some worker ∧
      worker.running = false
  otherIds : ∀ otherId, otherId ≠ controllerId →
    (unplug fingerprint hw).state.manager.controllerId2workerId.lookup otherId =
      hw.manager.controllerId2workerId.lookup otherId
  otherWorkers : ∀ workerId, hw.manager.controllerId2workerId.lookup controllerId ≠ some (some workerId) →
    (workersOf (unplug fingerprint hw).state.manager).lookup workerId = (workersOf hw.manager).lookup workerId
  rest : (unplug fingerprint hw).state.manager.fingerprint2controllerId = hw.manager.fingerprint2controllerId ∧
    (unplug fingerprint hw).state.statics = hw.statics
  again : unplug fingerprint (unplug fingerprint hw).state = .ok () (unplug fingerprint hw).state

section Unplugs
variable {fingerprint : HardwareFingerprint} {controllerId : String} {workerId : Nat} {hw : Hardware}

theorem unplugs_unled (mapped : Mapped hw.manager)
    (known : hw.manager.fingerprint2controllerId.lookup fingerprint = some controllerId)
    (vacant : workerFor hw.manager controllerId = none) : Unplugs fingerprint controllerId hw := by
  have unled := unplug_unled known vacant
  have state : (unplug fingerprint hw).state = hw := by rw [unled]; rfl
  obtain ⟨value, entry⟩ := mapped.known known
  have cleared : value = none := by rw [workerFor, entry] at vacant; exact vacant
  refine ⟨by rw [unled]; rfl, by rw [state, entry, cleared], fun workerId leads => ?_, ?_, ?_, ?_, ?_⟩
  · exact absurd leads (ne_of_workerFor_none vacant workerId)
  · exact fun _ _ => by rw [state]
  · exact fun _ _ => by rw [state]
  · exact ⟨by rw [state], by rw [state]⟩
  · rw [state, unled]

theorem stopRequested_stopped {worker : ControllerWorker} (found : (workersOf hw.manager).lookup workerId = some worker)
    (alive : Alive worker) :
    (workersOf (stopRequested hw.manager workerId)).lookup workerId = some worker.drain.stopped := by
  have runs := (ControllerWorker.drain_running worker).mpr alive
  rw [stopRequested_found, found, Option.map_some, if_pos rfl, ControllerWorker.call_stop, if_pos runs]

theorem unplugs_led (mapped : Mapped hw.manager)
    (known : hw.manager.fingerprint2controllerId.lookup fingerprint = some controllerId)
    (leads : hw.manager.controllerId2workerId.lookup controllerId = some (some workerId))
    (stoppable : Stoppable hw.manager controllerId) : Unplugs fingerprint controllerId hw := by
  obtain ⟨ok, state⟩ := unplug_led known leads
  simp only [(stops_iff mapped leads).mpr stoppable, if_true] at ok state
  obtain ⟨worker, found, -⟩ := mapped.target leads
  refine ⟨ok, ?_, fun otherId leads' => ?_, fun otherId different => ?_, fun otherId unled => ?_, ?_, ?_⟩
  · rw [state, cleared_leads, if_pos rfl]
  · rw [leads, Option.some.injEq, Option.some.injEq] at leads'
    subst leads'
    rw [state]
    exact ⟨_, stopRequested_stopped found (stoppable workerId worker leads found), rfl⟩
  · rw [state, cleared_leads, if_neg different]
    rfl
  · rw [state]
    exact stopRequested_others fun same => unled (same ▸ leads)
  · rw [state]
    exact ⟨rfl, rfl⟩
  · rw [state]
    refine unplug_unled known ?_
    rw [workerFor, cleared_leads, if_pos rfl]
    rfl

theorem unplugs_iff (mapped : Mapped hw.manager)
    (known : hw.manager.fingerprint2controllerId.lookup fingerprint = some controllerId) :
    Unplugs fingerprint controllerId hw ↔ Stoppable hw.manager controllerId := by
  cases vacant : workerFor hw.manager controllerId with
  | none =>
      refine iff_of_true (unplugs_unled mapped known vacant) fun workerId worker leads => ?_
      exact absurd leads (ne_of_workerFor_none vacant workerId)
  | some workerId =>
      have leads := Option.join_eq_some_iff.mp vacant
      refine ⟨fun unplugs => ?_, unplugs_led mapped known leads⟩
      exact (stops_iff mapped leads).mp ((unplug_led known leads).1 ▸ unplugs.ok)

end Unplugs

/-! ## Every run -/

theorem unplugs_iff_stoppable {hidapi : Option HidApi} {cfg : Config} {hw : Hardware}
    (reachable : Machine.Reachable (occur hidapi) (fun start => initFromCfg hidapi cfg {} = .ok start)
      Machine.free hw) {fingerprint : HardwareFingerprint} {controllerId : String}
    (known : hw.manager.fingerprint2controllerId.lookup fingerprint = some controllerId) :
    (Unplugs fingerprint controllerId hw ↔ Stoppable hw.manager controllerId) ∧
      (Machine.Reachable (occur hidapi) (fun start => initFromCfg hidapi cfg {} = .ok start) SparesLed hw →
        Unplugs fingerprint controllerId hw) := by
  have mapped : Mapped hw.manager := by
    refine reachable.invariant (fun state => Mapped state.manager) ?_ ?_
    · exact fun state started => Mapped.initFromCfg started
    · exact fun state incident after mapped _ occurred => mapped.occur occurred
  refine ⟨unplugs_iff mapped known, fun spared => (unplugs_iff mapped known).mpr ?_⟩
  have kept : Mapped hw.manager ∧ LedAlive hw.manager := by
    refine spared.invariant (fun state => Mapped state.manager ∧ LedAlive state.manager) ?_ ?_
    · exact fun state started => ⟨Mapped.initFromCfg started, LedAlive.initFromCfg started⟩
    · intro state incident after inv spares occurred
      exact ⟨inv.1.occur occurred, inv.2.occur inv.1 spares occurred⟩
  exact kept.2 controllerId

def oneFingerprint : HardwareFingerprint := ⟨0x264a, 0x232B, none⟩

theorem unplugs_iff_stoppable_queued :
    ∃ hw, Machine.Reachable (occur (some quietApi))
        (fun start => initFromCfg (some quietApi) oneController {} = .ok start) SparesLed hw ∧
      Unplugs oneFingerprint "main" hw := by
  obtain ⟨hw, spared, known⟩ :=
    Machine.exists_reachable [.batch (.setSpeeds [("main", [(1, 50)])]) .fireAndForget]
      (fun hw => hw.manager.fingerprint2controllerId.lookup oneFingerprint = some "main")
      (show Machine.passes (occur (some quietApi)) SparesLed
        (initFromCfg (some quietApi) oneController {}) _ _ = true by decide)
  have reachable : Machine.Reachable (occur (some quietApi))
      (fun start => initFromCfg (some quietApi) oneController {} = .ok start) Machine.free hw :=
    spared.relax (fun _ => True) (fun _ _ => trivial) (fun _ _ _ _ _ _ => trivial) fun _ _ _ _ => trivial
  exact ⟨hw, spared, (unplugs_iff_stoppable reachable (of_decide_eq_true known)).2 spared⟩

/-- The controller has one fan. The speed of a second one ends its worker, and then it cannot be
unplugged. -/
theorem dead_worker_stays_connected :
    ∃ hw, Machine.Reachable (occur (some quietApi))
        (fun start => initFromCfg (some quietApi) oneController {} = .ok start) Machine.free hw ∧
      hw.manager.fingerprint2controllerId.lookup oneFingerprint = some "main" ∧
      (unplug oneFingerprint hw).state.manager.controllerId2workerId.lookup "main" = some (some 1) ∧
      ¬ Unplugs oneFingerprint "main" hw := by
  obtain ⟨hw, reachable, stuck⟩ :=
    Machine.exists_reachable [.batch (.setSpeeds [("main", [(2, 50)])]) .blocking]
      (fun hw => hw.manager.fingerprint2controllerId.lookup oneFingerprint = some "main" ∧
        (unplug oneFingerprint hw).state.manager.controllerId2workerId.lookup "main" = some (some 1) ∧
        (unplug oneFingerprint hw).isOk = false)
      (show Machine.passes (occur (some quietApi)) Machine.free
        (initFromCfg (some quietApi) oneController {}) _ _ = true by decide +kernel)
  obtain ⟨known, leads, failed⟩ := of_decide_eq_true stuck
  refine ⟨hw, reachable, known, leads, fun unplugs => ?_⟩
  rw [unplugs.ok] at failed
  contradiction

end TtRiingd.Drivers
