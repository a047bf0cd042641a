import TtRiingd.Drivers.Delivery

/-!
# Init before use

Only the Init batch of start-up sends the Init frame. A handle opened later, by a hotplug event,
never gets one, so a batch that reaches it comes too early.
-/

namespace TtRiingd.Drivers
open ControllerManager

def initFrame : List UInt8 := Command.init.toBytes

def Command.uses : Command → Bool
  | .setSpeed .. | .getData _ | .setRgb .. => true
  | .init | .getFirmwareVersion => false

def IsUse (frame : List UInt8) : Prop := ∃ cmd : Command, cmd.uses = true ∧ frame = cmd.toBytes

def InitFirst (received : List (List UInt8)) : Prop :=
  ∀ earlier frame later, received = earlier ++ frame :: later → IsUse frame → initFrame ∈ earlier

def Unused (received : List (List UInt8)) : Prop := ∀ frame ∈ received, ¬ IsUse frame

theorem not_isUse_of_not_uses {cmd : Command} (idle : cmd.uses = false) : ¬ IsUse cmd.toBytes := by
  rintro ⟨other, uses, same⟩
  cases cmd with
  | init => cases other <;> simp_all [Command.uses, Command.toBytes]
  | getFirmwareVersion => cases other <;> simp_all [Command.uses, Command.toBytes]
  | setSpeed port speed => contradiction
  | getData port => contradiction
  | setRgb port mode colors => contradiction

theorem Unused.initFirst {received : List (List UInt8)} (unused : Unused received) :
    InitFirst received := by
  intro earlier frame later split use
  exact absurd use (unused frame (by simp [split]))

theorem initFirst_of_head {received : List (List UInt8)} (head : received.head? = some initFrame) :
    InitFirst received := by
  intro earlier frame later split use
  cases earlier with
  | nil =>
      rw [split, List.nil_append, List.head?_cons, Option.some.injEq] at head
      exact absurd (head ▸ use) (not_isUse_of_not_uses rfl)
  | cons first rest =>
      rw [split, List.cons_append, List.head?_cons, Option.some.injEq] at head
      exact head ▸ List.mem_cons_self

/-! ## One worker -/

def ControllerCommand.Harmless : ControllerCommand → Prop
  | .setSpeeds data => data = []
  | .setColors data => data = []
  | .init | .getFirmware | .ledCount | .stop => True

theorem request_unused {cmd : Command} (idle : cmd.uses = false) {dev : HidDevice}
    (unused : Unused dev.received) : Unused (request cmd dev).state.received := by
  rw [request_received]
  split
  · intro frame member
    rcases List.mem_append.mp member with older | new
    · exact unused frame older
    · rw [List.mem_singleton.mp new]
      exact not_isUse_of_not_uses idle
  · exact unused

theorem onDevice_unused {α : Type} {call : EStateM Error HidDevice α} {cmd : Command}
    (asks : ∀ dev, (call dev).state = (request cmd dev).state) (idle : cmd.uses = false)
    {ctrl : TTRiingQuad} (unused : Unused ctrl.dev.received) :
    Unused (TTRiingQuad.onDevice call ctrl).state.dev.received := by
  rw [TTRiingQuad.onDevice_state, asks]
  exact request_unused idle unused

theorem execute_unused {command : ControllerCommand} (harmless : command.Harmless) {ctrl : TTRiingQuad}
    (unused : Unused ctrl.dev.received) : Unused (execute command ctrl).state.dev.received := by
  have ending {α : Type} (call : EStateM Fault TTRiingQuad α) (reply : α → Reply) :
      ((do let a ← call; pure (reply a)) ctrl).state = (call ctrl).state :=
    EStateM.bind_pure_state call reply ctrl
  cases command with
  | setSpeeds data =>
      obtain rfl : data = [] := harmless
      exact unused
  | setColors data =>
      obtain rfl : data = [] := harmless
      exact unused
  | init =>
      have kept : Unused (TTRiingQuad.sendInit ctrl).state.dev.received := by
        unfold TTRiingQuad.sendInit
        rw [TTRiingQuad.mapErr_state]
        exact onDevice_unused (requestStatus_state .init _ _) rfl unused
      exact (ending _ _).symm ▸ kept
  | getFirmware =>
      have kept := onDevice_unused getFirmwareVersion_state rfl unused
      exact (ending _ _).symm ▸ kept
  | ledCount => exact unused
  | stop => exact unused

/-- A worker that was initialised keeps its Init frame in front. Any other one has not used its
device, and has nothing queued that would. -/
structure Prepared (initialised : Prop) (worker : ControllerWorker) : Prop where
  head : initialised → worker.controller.dev.received.head? = some initFrame
  unused : ¬ initialised → Unused worker.controller.dev.received
  queued : ¬ initialised → ∀ command ∈ worker.mailbox, command.Harmless

theorem Prepared.initFirst {initialised : Prop} {worker : ControllerWorker}
    (prepared : Prepared initialised worker) : InitFirst worker.controller.dev.received := by
  by_cases ready : initialised
  · exact initFirst_of_head (prepared.head ready)
  · exact (prepared.unused ready).initFirst

theorem Prepared.stopped {initialised : Prop} {worker : ControllerWorker}
    (prepared : Prepared initialised worker) : Prepared initialised worker.stopped :=
  ⟨prepared.head, prepared.unused, by simp [ControllerWorker.stopped]⟩

theorem Prepared.handle {initialised : Prop} {worker : ControllerWorker} {command : ControllerCommand}
    (prepared : Prepared initialised worker) (allowed : ¬ initialised → command.Harmless) :
    Prepared initialised (worker.handle command).2 := by
  constructor
  · intro ready
    have later := (execute_later command worker.controller).received
    rw [← handle_controller] at later
    obtain ⟨more, frames⟩ := later
    rw [← frames, List.head?_append, prepared.head ready]
    rfl
  · intro unready
    rw [handle_controller]
    exact execute_unused (allowed unready) (prepared.unused unready)
  · intro unready other queued
    exact prepared.queued unready other ((handle_mailbox command worker).subset queued)

theorem Prepared.work {initialised : Prop} {commands : List ControllerCommand} {worker : ControllerWorker}
    (prepared : Prepared initialised worker)
    (allowed : ¬ initialised → ∀ command ∈ commands, command.Harmless) :
    Prepared initialised (worker.work commands) := by
  induction commands generalizing worker with
  | nil => exact prepared
  | cons command rest ih =>
      unfold ControllerWorker.work
      split
      · apply ih
        · exact prepared.handle fun unready => allowed unready command List.mem_cons_self
        · exact fun unready other member => allowed unready other (List.mem_cons_of_mem _ member)
      · exact prepared

theorem Prepared.call {initialised : Prop} {worker : ControllerWorker} {command : ControllerCommand}
    (prepared : Prepared initialised worker) (allowed : ¬ initialised → command.Harmless) :
    Prepared initialised (worker.call command).2 := by
  have emptied : Prepared initialised { worker with mailbox := [] } :=
    ⟨prepared.head, prepared.unused, by simp⟩
  have drained : Prepared initialised worker.drain := emptied.work prepared.queued
  unfold ControllerWorker.call
  simp only
  split
  · exact drained.handle allowed
  · exact drained

theorem Prepared.post {initialised : Prop} {worker : ControllerWorker} {command : ControllerCommand}
    (prepared : Prepared initialised worker) (allowed : ¬ initialised → command.Harmless) :
    Prepared initialised (worker.post command) := by
  unfold ControllerWorker.post
  split
  · refine ⟨prepared.head, prepared.unused, fun unready other member => ?_⟩
    rcases List.mem_append.mp member with older | new
    · exact prepared.queued unready other older
    · rw [List.mem_singleton.mp new]
      exact allowed unready
  · exact prepared

theorem Prepared.deliver {initialised : Prop} {worker : ControllerWorker} {command : ControllerCommand}
    (prepared : Prepared initialised worker) (mode : ExecutionMode) (allowed : ¬ initialised → command.Harmless) :
    Prepared initialised (worker.deliver mode command).2 := by
  cases mode with
  | blocking => exact prepared.call allowed
  | fireAndForget =>
      simp only [ControllerWorker.deliver]
      split
      · exact prepared.post allowed
      · exact prepared

theorem Prepared.serve {initialised : Prop} {worker : ControllerWorker}
    (prepared : Prepared initialised worker) : Prepared initialised worker.serve := by
  unfold ControllerWorker.serve
  cases queue : worker.mailbox with
  | nil => exact prepared
  | cons command rest =>
      have queued := prepared.queued
      rw [queue] at queued
      simp only
      split
      · have shortened : Prepared initialised { worker with mailbox := rest } :=
          ⟨prepared.head, prepared.unused,
            fun unready other member => queued unready other (List.mem_cons_of_mem _ member)⟩
        exact shortened.handle fun unready => queued unready command List.mem_cons_self
      · exact prepared

/-! ## All workers -/

section Workers
variable {initialised : Nat → Prop}

def AllPrepared (initialised : Nat → Prop) (workerManager : ControllerWorkerManager) : Prop :=
  ∀ workerId worker, workerManager.workers.lookup workerId = some worker →
    Prepared (initialised workerId) worker

theorem AllPrepared.insert {workerManager : ControllerWorkerManager}
    (prepared : AllPrepared initialised workerManager) {workerId : Nat} {worker : ControllerWorker}
    (new : Prepared (initialised workerId) worker) (nextWorkerId : Nat) :
    AllPrepared initialised ⟨workerManager.workers.insert workerId worker, nextWorkerId⟩ := by
  intro otherId other found
  rcases (AList.sets_insert _ _ _).lookup found with ⟨rfl, rfl⟩ | older
  · exact new
  · exact prepared otherId other older

theorem AllPrepared.request {workerManager : ControllerWorkerManager}
    (prepared : AllPrepared initialised workerManager) {workerId : Nat} {command : ControllerCommand}
    (allowed : ¬ initialised workerId → command.Harmless) :
    AllPrepared initialised (ControllerWorkerManager.request workerId command workerManager).state := by
  intro otherId other found
  rw [request_found] at found
  obtain ⟨before, older, rfl⟩ := Option.map_eq_some_iff.mp found
  have idle := prepared otherId before older
  split
  · rename_i same
    subst same
    exact idle.call allowed
  · exact idle

theorem AllPrepared.serve {workerManager : ControllerWorkerManager}
    (prepared : AllPrepared initialised workerManager) (workerId : Nat) :
    AllPrepared initialised (ControllerWorkerManager.serve workerId workerManager) := by
  intro otherId other found
  rw [serve_found] at found
  obtain ⟨before, older, rfl⟩ := Option.map_eq_some_iff.mp found
  have idle := prepared otherId before older
  split
  · exact idle.serve
  · exact idle

end Workers

/-! ## Batches and events -/

structure Orderly (initialised : Nat → Prop) (manager : ControllerManager) : Prop where
  prepared : AllPrepared initialised manager.workerManager
  taken : ∀ workerId, initialised workerId → workerId < manager.workerManager.nextWorkerId

section Managers
variable {initialised : Nat → Prop} {α : Type}

theorem Orderly.send {mode : ExecutionMode} {command : α → ControllerCommand} {entry : String × α}
    {manager : ControllerManager} (orderly : Orderly initialised manager)
    (allowed : ∀ workerId, workerFor manager entry.1 = some workerId → ¬ initialised workerId →
      (command entry.2).Harmless) :
    Orderly initialised (send mode command entry manager).2 := by
  constructor
  · intro workerId worker found
    rw [send_found] at found
    obtain ⟨before, older, rfl⟩ := Option.map_eq_some_iff.mp found
    have idle := orderly.prepared workerId before older
    split
    · rename_i leads
      apply idle.deliver mode
      apply allowed workerId
      rw [workerFor, leads]
      rfl
    · exact idle
  · rw [send_next]
    exact orderly.taken

theorem Orderly.sendAll {mode : ExecutionMode} {command : α → ControllerCommand}
    {data : List (String × α)} {manager : ControllerManager} (orderly : Orderly initialised manager)
    (allowed : ∀ entry ∈ data, ∀ workerId, workerFor manager entry.1 = some workerId →
      ¬ initialised workerId → (command entry.2).Harmless) :
    Orderly initialised (sendAll mode command data manager).2 := by
  induction data generalizing manager with
  | nil => exact orderly
  | cons entry rest ih =>
      apply ih (orderly.send (allowed entry List.mem_cons_self))
      intro other member workerId leads
      rw [workerFor, send_leads] at leads
      exact allowed other (List.mem_cons_of_mem _ member) workerId leads

theorem Orderly.deviceConnected {hidapi : Option HidApi} {vendorId productId : UInt16}
    {serial : Option String} {hw after : Hardware} (orderly : Orderly initialised hw.manager)
    (result : survives (deviceConnected hidapi vendorId productId serial hw) = some after) :
    Orderly initialised after.manager := by
  rcases deviceConnected_cases result with ⟨-, same⟩ | ⟨controller, -, -, ⟨info, wire, unused⟩, changed⟩
  · rw [same]
    exact orderly
  · rw [changed]
    have unready : ¬ initialised hw.manager.workerManager.nextWorkerId :=
      fun ready => Nat.lt_irrefl _ (orderly.taken _ ready)
    refine ⟨orderly.prepared.insert ⟨fun ready => absurd ready unready, fun _ => ?_, fun _ => ?_⟩ _, ?_⟩
    · simp [unused, HidDevice.opened, Unused]
    · simp
    · exact fun id ready => Nat.lt_succ_of_lt (orderly.taken id ready)

theorem Orderly.deviceDisconnected {vendorId productId : UInt16} {serial : Option String} {hw : Hardware}
    (orderly : Orderly initialised hw.manager) :
    Orderly initialised (deviceDisconnected vendorId productId serial hw).state.manager := by
  unfold ControllerManager.deviceDisconnected
  cases hw.manager.fingerprint2controllerId.lookup ⟨vendorId, productId, serial⟩ with
  | none => exact orderly
  | some controllerId =>
      simp only
      cases hw.manager.controllerId2workerId.lookup controllerId with
      | none => exact orderly
      | some value =>
          cases value with
          | none => exact orderly
          | some workerId =>
              have prepared : AllPrepared initialised
                  (ControllerWorkerManager.request workerId .stop hw.manager.workerManager).state :=
                orderly.prepared.request fun _ => trivial
              have next := request_next workerId .stop hw.manager.workerManager
              simp only [ControllerWorkerManager.stopWorker]
              split <;> rename_i requested <;> rw [requested] at prepared next <;>
                exact ⟨prepared, fun id ready => next.symm ▸ orderly.taken id ready⟩

end Managers

/-! ## Start-up -/

def initialisedAtStartUp (hidapi : Option HidApi) (cfg : Config) : Nat → Bool
  | 0 => false
  | index + 1 =>
      match (Registry.opened hidapi cfg.controllers 0)[index]? with
      | some entry => (entry.2.writeError 0).isNone
      | none => false

def startUp (hidapi : Option HidApi) (cfg : Config) : Except Fault Hardware :=
  match initFromCfg hidapi cfg {} with
  | .ok hw => .ok { hw with manager := (hw.manager.batchUpdate .init .blocking).2 }
  | .error fault => .error fault

theorem call_init_received (controllerId : Nat) {controller : TTRiingQuad}
    {info : Except String DeviceInfo} {wire : Wire} (new : controller.dev = .opened info wire) :
    (ControllerWorker.call .init { controllerId, controller }).2.controller.dev.received =
      if wire.writeError 0 = none then [initFrame] else [] := by
  have handled : (ControllerWorker.call .init { controllerId, controller }).2 =
      (ControllerWorker.handle .init { controllerId, controller }).2 := rfl
  have asked : (TTRiingQuad.sendInit controller).state.dev = (request .init controller.dev).state := by
    unfold TTRiingQuad.sendInit
    rw [TTRiingQuad.mapErr_state, TTRiingQuad.onDevice_state]
    exact requestStatus_state .init _ _ controller.dev
  have executed : (execute .init controller).state = (TTRiingQuad.sendInit controller).state :=
    EStateM.bind_pure_state _ _ controller
  have sends : Sends (.opened info wire) .init ↔ wire.writeError 0 = none :=
    and_iff_right (show Command.init.encodes = true from rfl)
  rw [handled, handle_controller, executed, asked, request_received, new]
  simp only [sends]
  rfl

theorem Prepared.initialise {initialised : Prop} (controllerId : Nat) {controller : TTRiingQuad}
    {info : Except String DeviceInfo} {wire : Wire} (new : controller.dev = .opened info wire)
    (accepted : initialised → wire.writeError 0 = none) :
    Prepared initialised (ControllerWorker.call .init { controllerId, controller }).2 := by
  have fresh : Prepared False { controllerId, controller } :=
    ⟨False.elim, fun _ => by simp [new, HidDevice.opened, Unused], by simp⟩
  have called : Prepared False (ControllerWorker.call .init { controllerId, controller }).2 :=
    fresh.call fun _ => trivial
  refine ⟨fun ready => ?_, fun _ => called.unused id, fun _ => called.queued id⟩
  rw [call_init_received controllerId new, if_pos (accepted ready)]
  rfl

theorem opened_of_built {hidapi : Option HidApi} {cfgs : List ControllerCfg} {statics : Statics}
    {index : Nat} {controller : TTRiingQuad}
    (listed : (Registry.buildControllersFromConfig hidapi cfgs statics).1[index]? = some controller) :
    ∃ entry, (Registry.opened hidapi cfgs statics.opens)[index]? = some entry ∧
      entry.2 = controller.dev.wire ∧ ∃ info, controller.dev = .opened info entry.2 := by
  have same := congrArg (fun entries => entries[index]?)
    (Registry.buildControllersFromConfig_opened hidapi cfgs statics)
  simp only [List.getElem?_map, listed, Option.map_some] at same
  obtain ⟨entry, found, pair⟩ := Option.map_eq_some_iff.mp same.symm
  obtain ⟨api, attempt, source, -, -, created⟩ :=
    Registry.buildControllersFromConfig_member (List.mem_of_getElem? listed)
  obtain ⟨-, -, info, wire, -, new⟩ := TTRiingQuad.createOne_ok created
  have wires : entry.2 = controller.dev.wire := congrArg Prod.snd pair
  refine ⟨entry, found, wires, info, ?_⟩
  rw [wires, new]
  rfl

theorem initialisedAtStartUp_bound {hidapi : Option HidApi} {cfg : Config} {workerId : Nat}
    (initialised : initialisedAtStartUp hidapi cfg workerId = true) :
    workerId < 1 + (Registry.buildControllersFromConfig hidapi cfg.controllers {}).1.length := by
  cases workerId with
  | zero => contradiction
  | succ index =>
      cases opened : (Registry.opened hidapi cfg.controllers 0)[index]? with
      | none => simp [initialisedAtStartUp, opened] at initialised
      | some entry =>
          have bound := (List.getElem?_eq_some_iff.mp opened).1
          have lengths := congrArg List.length
            (Registry.buildControllersFromConfig_opened hidapi cfg.controllers {})
          rw [List.length_map, List.length_map] at lengths
          rw [lengths, Nat.add_comm]
          exact Nat.add_lt_add_left bound 1

/-- After the Init batch the initialised workers have got their Init frame, and no other has got any. -/
theorem Orderly.startUp {hidapi : Option HidApi} {cfg : Config} {hw : Hardware}
    (started : startUp hidapi cfg = .ok hw) :
    Orderly (fun workerId => initialisedAtStartUp hidapi cfg workerId = true) hw.manager := by
  unfold Drivers.startUp at started
  cases begun : initFromCfg hidapi cfg {} with
  | error fault => simp [begun] at started
  | ok start =>
      simp only [begun, Except.ok.injEq] at started
      subst started
      obtain ⟨workers, -⟩ := initFromCfg_ok begun
      have count : start.manager.workerManager.workerCount = _ := AList.length_of_keys (initializeWorkers_mem workers)
      constructor
      · intro workerId worker found
        change (requestEach .init start.manager.workerIds start.manager.workerManager).2.workers.lookup
          workerId = some worker at found
        rw [requestEach_found (workerIds_nodup start.manager)] at found
        obtain ⟨before, created, rfl⟩ := Option.map_eq_some_iff.mp found
        obtain ⟨index, controller, listed, rfl, rfl⟩ := (initializeWorkers_lookup workers _ before).mp created
        obtain ⟨entry, opened, wires, info, new⟩ := opened_of_built listed
        have asked : index + 1 ∈ start.manager.workerIds := by
          have bound := (List.getElem?_eq_some_iff.mp listed).1
          rw [mem_workerIds, count]
          omega
        rw [if_pos asked]
        refine .initialise (index + 1) new fun initialised => ?_
        simpa only [initialisedAtStartUp, opened, Option.isNone_iff_eq_none] using initialised
      · intro workerId initialised
        change workerId < (requestEach .init start.manager.workerIds
          start.manager.workerManager).2.nextWorkerId
        rw [requestEach_next, initializeWorkers_next workers, Nat.add_comm]
        exact initialisedAtStartUp_bound initialised

/-! ## Runs -/

inductive Activity where
  | event (event : HotplugEvent)
  | setSpeeds (mode : ExecutionMode) (data : List (String × List (Nat × UInt8)))
  | setColors (mode : ExecutionMode) (data : List (String × List (Nat × List Rgb)))
  | serve (workerId : Nat)

def act (hidapi : Option HidApi) (hw : Hardware) : Activity → Option Hardware
  | .event event => handleHotplug hidapi hw event
  | .setSpeeds mode data => some { hw with manager := (hw.manager.batchUpdate (.setSpeeds data) mode).2 }
  | .setColors mode data => some { hw with manager := (hw.manager.batchUpdate (.setColors data) mode).2 }
  | .serve workerId =>
      some { hw with manager := { hw.manager with
        workerManager := hw.manager.workerManager.serve workerId } }

def LeadsToInitialised {α : Type} (initialised : Nat → Bool) (manager : ControllerManager)
    (data : List (String × List α)) : Prop :=
  ∀ entry ∈ data, entry.2.isEmpty = true ∨ (workerFor manager entry.1).all initialised = true

instance {α : Type} (initialised : Nat → Bool) (manager : ControllerManager)
    (data : List (String × List α)) : Decidable (LeadsToInitialised initialised manager data) :=
  inferInstanceAs (Decidable (∀ entry ∈ data, _ ∨ _))

def SendsToInitialised (initialised : Nat → Bool) (hw : Hardware) : Activity → Prop
  | .setSpeeds _ data => LeadsToInitialised initialised hw.manager data
  | .setColors _ data => LeadsToInitialised initialised hw.manager data
  | .event _ | .serve _ => True

instance (initialised : Nat → Bool) (hw : Hardware) :
    (activity : Activity) → Decidable (SendsToInitialised initialised hw activity)
  | .setSpeeds _ data => inferInstanceAs (Decidable (LeadsToInitialised initialised hw.manager data))
  | .setColors _ data => inferInstanceAs (Decidable (LeadsToInitialised initialised hw.manager data))
  | .event _ | .serve _ => .isTrue trivial

theorem harmless_of_leadsToInitialised {α : Type} {initialised : Nat → Bool} {manager : ControllerManager}
    {data : List (String × List α)} (leads : LeadsToInitialised initialised manager data)
    {command : List α → ControllerCommand} (empty : (command []).Harmless) :
    ∀ entry ∈ data, ∀ workerId, workerFor manager entry.1 = some workerId →
      ¬ initialised workerId = true → (command entry.2).Harmless := by
  intro entry member workerId leads' unready
  rcases leads entry member with nothing | ready
  · rw [List.isEmpty_iff.mp nothing]
    exact empty
  · rw [leads'] at ready
    exact absurd ready unready

theorem Orderly.act {hidapi : Option HidApi} {initialised : Nat → Bool} {hw after : Hardware}
    {activity : Activity} (orderly : Orderly (fun workerId => initialised workerId = true) hw.manager)
    (allowed : SendsToInitialised initialised hw activity) (result : act hidapi hw activity = some after) :
    Orderly (fun workerId => initialised workerId = true) after.manager := by
  cases activity with
  | event event =>
      cases event with
      | connected vendorId productId serial => exact orderly.deviceConnected result
      | disconnected vendorId productId serial =>
          simp only [Drivers.act, handleHotplug, Option.some.injEq] at result
          exact result ▸ orderly.deviceDisconnected
  | setSpeeds mode data =>
      simp only [Drivers.act, Option.some.injEq] at result
      exact result ▸ orderly.sendAll (harmless_of_leadsToInitialised allowed rfl)
  | setColors mode data =>
      simp only [Drivers.act, Option.some.injEq] at result
      exact result ▸ orderly.sendAll (harmless_of_leadsToInitialised allowed rfl)
  | serve workerId =>
      simp only [Drivers.act, Option.some.injEq] at result
      have next := serve_next workerId hw.manager.workerManager
      exact result ▸ ⟨orderly.prepared.serve workerId, fun id ready => next.symm ▸ orderly.taken id ready⟩

theorem initFirst_of_sendsToInitialised {hidapi : Option HidApi} {cfg : Config} {hw : Hardware}
    (reachable : Machine.Reachable (act hidapi) (fun start => startUp hidapi cfg = .ok start)
      (SendsToInitialised (initialisedAtStartUp hidapi cfg)) hw) :
    ∀ workerId worker, (workersOf hw.manager).lookup workerId = some worker →
      InitFirst worker.controller.dev.received := by
  have orderly : Orderly (fun workerId => initialisedAtStartUp hidapi cfg workerId = true) hw.manager := by
    refine reachable.invariant
      (fun state => Orderly (fun workerId => initialisedAtStartUp hidapi cfg workerId = true) state.manager)
      ?_ ?_
    · exact fun state started => Orderly.startUp started
    · exact fun state activity after inv allowed result => inv.act allowed result
  intro workerId worker found
  exact (orderly.prepared workerId worker found).initFirst

def receivedBy (workerId : Nat) (frames : List (List UInt8)) (hw : Hardware) : Bool :=
  ((workersOf hw.manager).lookup workerId).any fun worker => worker.controller.dev.received = frames

theorem initFirst_of_sendsToInitialised_speed :
    ∃ hw, Machine.Reachable (act (some quietApi)) (fun start => startUp (some quietApi) oneController = .ok start)
        (SendsToInitialised (initialisedAtStartUp (some quietApi) oneController)) hw ∧
      receivedBy 1 [initFrame, (Command.setSpeed 1 50).toBytes, (Command.getData 1).toBytes] hw = true ∧
      ∀ workerId worker, (workersOf hw.manager).lookup workerId = some worker →
        InitFirst worker.controller.dev.received := by
  obtain ⟨hw, reachable, frames⟩ :=
    Machine.exists_reachable [.setSpeeds .blocking [("main", [(1, 50)])]]
      (receivedBy 1 [initFrame, (Command.setSpeed 1 50).toBytes, (Command.getData 1).toBytes])
      (show Machine.passes (act (some quietApi))
        (SendsToInitialised (initialisedAtStartUp (some quietApi) oneController))
        (startUp (some quietApi) oneController) _ _ = true by decide +kernel)
  exact ⟨hw, reachable, frames, initFirst_of_sendsToInitialised reachable⟩

theorem replugged_used_before_init :
    ∃ hw, Machine.Reachable (act (some quietApi)) (fun start => startUp (some quietApi) oneController = .ok start)
        Machine.free hw ∧
      ∃ worker, (workersOf hw.manager).lookup 2 = some worker ∧ ¬ InitFirst worker.controller.dev.received := by
  obtain ⟨hw, reachable, frames⟩ :=
    Machine.exists_reachable
      [.event (.disconnected 0x264a 0x232B none), .event (.connected 0x264a 0x232B none),
        .setSpeeds .blocking [("main", [(1, 50)])]]
      (receivedBy 2 [(Command.setSpeed 1 50).toBytes, (Command.getData 1).toBytes])
      (show Machine.passes (act (some quietApi)) Machine.free
        (startUp (some quietApi) oneController) _ _ = true by decide +kernel)
  refine ⟨hw, reachable, ?_⟩
  cases found : (workersOf hw.manager).lookup 2 with
  | none => simp [receivedBy, found] at frames
  | some worker =>
      simp only [receivedBy, found, Option.any_some, decide_eq_true_eq] at frames
      refine ⟨worker, rfl, fun first => ?_⟩
      have early := first [] _ _ frames ⟨.setSpeed 1 50, rfl, rfl⟩
      contradiction

end TtRiingd.Drivers
