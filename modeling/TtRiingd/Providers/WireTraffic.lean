import Mathlib.Data.List.Flatten
import TtRiingd.Drivers.InitOrder
import TtRiingd.Drivers.Unplug
import TtRiingd.Providers.SpeedRange

/-!
# What the devices are sent

A worker writes to its device for the commands that it serves, and for nothing else. What the device has been
sent, and behind it what is queued for it, make one line: frames join the line at its end, as the batches ask
for them. Some never get through, but none overtakes another and none is sent twice.
-/

namespace TtRiingd.Drivers
open ControllerManager TTRiingQuad Providers

/-! ## One call on the device -/

/-- The frames of a command that is carried out to its end. -/
def ControllerCommand.frames : ControllerCommand → List (List UInt8)
  | .setSpeeds data => data.flatMap entryFrames
  | .setColors data => data.flatMap fun entry => [(Command.setRgb (UInt8.ofNat entry.1) 0x24 entry.2).toBytes]
  | .init => [Command.init.toBytes]
  | .getFirmware => [Command.getFirmwareVersion.toBytes]
  | .ledCount | .stop => []

/-- Some of the frames are sent, in their order. -/
def SendsPart (frames : List (List UInt8)) (before after : TTRiingQuad) : Prop :=
  ∃ part, part.Sublist frames ∧ after.dev.received = before.dev.received ++ part

section Calls
variable {first second frames : List (List UInt8)} {α β : Type}

theorem SendsPart.of_same {before after : TTRiingQuad} (same : after.dev.received = before.dev.received) :
    SendsPart frames before after :=
  ⟨[], List.nil_sublist _, by rw [same, List.append_nil]⟩

theorem SendsPart.append {before middle after : TTRiingQuad} (earlier : SendsPart first before middle)
    (later : SendsPart second middle after) : SendsPart (first ++ second) before after := by
  obtain ⟨part, inside, received⟩ := earlier
  obtain ⟨rest, inside', received'⟩ := later
  exact ⟨part ++ rest, inside.append inside', by rw [received', received, List.append_assoc]⟩

theorem sendsPart_bind {call : EStateM Fault TTRiingQuad α} {next : α → EStateM Fault TTRiingQuad β}
    (begins : EStateM.Along (SendsPart first) call) (ends : ∀ a, EStateM.Along (SendsPart second) (next a)) :
    EStateM.Along (SendsPart (first ++ second)) (call >>= next) := by
  refine EStateM.Along.bind_of (R := SendsPart first) (S := SendsPart second) ?_ (fun _ _ _ => .append) begins ends
  rintro before after ⟨part, inside, received⟩
  exact ⟨part, inside.trans (List.sublist_append_left _ _), received⟩

theorem sendsPart_pure {call : EStateM Fault TTRiingQuad α} (value : α → β)
    (sends : EStateM.Along (SendsPart frames) call) :
    EStateM.Along (SendsPart frames) (do let a ← call; pure (value a)) := by
  intro ctrl
  rw [EStateM.bind_pure_state]
  exact sends ctrl

theorem sendsPart_forM {call : α → EStateM Fault TTRiingQuad PUnit} {frames : α → List (List UInt8)}
    (each : ∀ item, EStateM.Along (SendsPart (frames item)) (call item)) (items : List α) :
    EStateM.Along (SendsPart (items.flatMap frames)) (items.forM call) := by
  induction items with
  | nil => exact fun _ => .of_same rfl
  | cons item rest ih => exact sendsPart_bind (each item) fun _ => ih

theorem sendsPart_mapM' {call : α → EStateM Fault TTRiingQuad β} {frames : α → List (List UInt8)}
    (each : ∀ item, EStateM.Along (SendsPart (frames item)) (call item)) (items : List α) :
    EStateM.Along (SendsPart (items.flatMap frames)) (items.mapM' call) := by
  induction items with
  | nil => exact fun _ => .of_same rfl
  | cons item rest ih => exact sendsPart_bind (each item) fun _ => sendsPart_pure _ ih

theorem onDevice_sendsPart {call : EStateM Error HidDevice α} {cmd : Command}
    (asks : ∀ dev, (call dev).state = (request cmd dev).state) :
    EStateM.Along (SendsPart [cmd.toBytes]) (onDevice call) := by
  intro ctrl
  have sent := request_received_cases cmd ctrl.dev
  rw [← asks] at sent
  rw [onDevice_state]
  rcases sent with none_sent | one_sent
  · exact .of_same none_sent
  · exact ⟨_, List.Sublist.refl _, one_sent⟩

end Calls

theorem mapErr_along {σ α : Type} {R : σ → σ → Prop} (message : Error → String) {call : EStateM Fault σ α}
    (along : EStateM.Along R call) : EStateM.Along R (mapErr message call) := by
  intro state
  rw [mapErr_state]
  exact along state

theorem processFanInner_sendsPart (entry : Nat × UInt8) :
    EStateM.Along (SendsPart (entryFrames entry)) (processFanInner entry.1 entry.2) :=
  sendsPart_bind (onDevice_sendsPart (requestStatus_state _ _ _)) fun _ => onDevice_sendsPart (getData_state _)

theorem updateSpeedBatch_sendsPart (batch : List (Nat × UInt8)) :
    EStateM.Along (SendsPart (batch.flatMap entryFrames)) (updateSpeedBatch batch) := by
  have still (channel : Nat) (speed : UInt8) (rpm : UInt16) :
      EStateM.Along (SendsPart []) (updateFan channel speed rpm) := by
    intro ctrl
    obtain ⟨frames, received, nothing⟩ := @updateFan_receives (fun _ => False) channel speed rpm ctrl
    rw [List.eq_nil_iff_forall_not_mem.mpr nothing, List.append_nil] at received
    exact .of_same received
  rw [← List.append_nil (batch.flatMap entryFrames)]
  apply sendsPart_bind
  · exact sendsPart_mapM' (fun entry => sendsPart_pure _ (processFanInner_sendsPart entry)) batch
  · intro results
    have written := sendsPart_forM (fun entry : Nat × UInt8 × UInt16 => still entry.1 entry.2.1 entry.2.2) results
    rw [List.flatMap_eq_nil_iff.mpr fun _ _ => rfl] at written
    exact written

theorem execute_sendsPart (command : ControllerCommand) :
    EStateM.Along (SendsPart command.frames) (execute command) := by
  cases command with
  | setSpeeds data => exact sendsPart_pure _ (updateSpeedBatch_sendsPart data)
  | setColors data =>
      apply sendsPart_pure
      apply sendsPart_forM
      intro entry
      exact mapErr_along _ (onDevice_sendsPart (requestStatus_state _ _ _))
  | init => exact sendsPart_pure _ (mapErr_along _ (onDevice_sendsPart (requestStatus_state .init _ _)))
  | getFirmware => exact sendsPart_pure _ (onDevice_sendsPart getFirmwareVersion_state)
  | ledCount => exact fun _ => .of_same rfl
  | stop => exact fun _ => .of_same rfl

/-! ## One worker -/

namespace ControllerWorker

/-- The frames sent to the device, and those of the commands that wait for it. -/
def line (worker : ControllerWorker) : List (List UInt8) :=
  worker.controller.dev.received ++ worker.mailbox.flatMap ControllerCommand.frames

theorem handle_received (command : ControllerCommand) (worker : ControllerWorker) :
    (worker.handle command).2.controller.dev.received.Sublist
      (worker.controller.dev.received ++ command.frames) := by
  obtain ⟨part, inside, received⟩ := execute_sendsPart command worker.controller
  rw [handle_controller, received]
  exact inside.append_left _

theorem work_received {commands : List ControllerCommand} {worker : ControllerWorker} (empty : worker.mailbox = []) :
    (worker.work commands).mailbox = [] ∧
      (worker.work commands).controller.dev.received.Sublist
        (worker.controller.dev.received ++ commands.flatMap ControllerCommand.frames) := by
  induction commands generalizing worker with
  | nil => exact ⟨empty, by simp [work]⟩
  | cons command rest ih =>
      unfold work
      split
      · have emptied : (worker.handle command).2.mailbox = [] :=
          List.prefix_nil.mp (empty ▸ handle_mailbox command worker)
        obtain ⟨mailbox, received⟩ := ih emptied
        refine ⟨mailbox, received.trans ?_⟩
        rw [List.flatMap_cons, ← List.append_assoc]
        exact (handle_received command worker).append_right _
      · exact ⟨empty, List.sublist_append_left _ _⟩

theorem drain_received (worker : ControllerWorker) :
    worker.drain.mailbox = [] ∧ worker.drain.controller.dev.received.Sublist worker.line := by
  unfold drain
  exact work_received rfl

theorem call_line (command : ControllerCommand) (worker : ControllerWorker) :
    (worker.call command).2.line.Sublist (worker.line ++ command.frames) := by
  obtain ⟨empty, received⟩ := worker.drain_received
  unfold call
  simp only
  split
  · have emptied : (worker.drain.handle command).2.mailbox = [] :=
      List.prefix_nil.mp (empty ▸ handle_mailbox command worker.drain)
    rw [line, emptied, List.flatMap_nil, List.append_nil]
    exact (handle_received command worker.drain).trans (received.append_right _)
  · rw [line, empty, List.flatMap_nil, List.append_nil]
    exact received.trans (List.sublist_append_left _ _)

theorem post_line (command : ControllerCommand) (worker : ControllerWorker) :
    (worker.post command).line.Sublist (worker.line ++ command.frames) := by
  unfold post
  split
  · simp [line]
  · exact List.sublist_append_left _ _

theorem deliver_line (mode : ExecutionMode) (command : ControllerCommand) (worker : ControllerWorker) :
    (worker.deliver mode command).2.line.Sublist (worker.line ++ command.frames) := by
  cases mode with
  | blocking => exact call_line command worker
  | fireAndForget =>
      unfold deliver
      simp only
      split
      · exact post_line command worker
      · exact List.sublist_append_left _ _

theorem serve_line (worker : ControllerWorker) : worker.serve.line.Sublist worker.line := by
  unfold serve
  split
  · rename_i command rest queue
    split
    · have received := handle_received command { worker with mailbox := rest }
      have left := (handle_mailbox command { worker with mailbox := rest }).sublist
      rw [line, line, queue, List.flatMap_cons, ← List.append_assoc]
      exact received.append (left.flatMap _)
    · exact List.Sublist.refl _
  · exact List.Sublist.refl _

theorem stopped_line (worker : ControllerWorker) : worker.stopped.line.Sublist worker.line := by
  rw [line, stopped, List.flatMap_nil, List.append_nil]
  exact List.sublist_append_left _ _

end ControllerWorker

/-! ## All workers -/

/-- The frames that a batch asks for, for one controller. -/
def BatchCommand.frames (command : BatchCommand) (controllerId : String) : List (List UInt8) :=
  match command with
  | .setColors data => data.flatMap fun entry =>
      if entry.1 = controllerId then (ControllerCommand.setColors entry.2).frames else []
  | .setSpeeds data => data.flatMap fun entry =>
      if entry.1 = controllerId then (ControllerCommand.setSpeeds entry.2).frames else []
  | .init => ControllerCommand.init.frames
  | .getFirmwares => ControllerCommand.getFirmware.frames

def Incident.frames (incident : Incident) (controllerId : String) : List (List UInt8) :=
  match incident with
  | .batch command _ => command.frames controllerId
  | .hotplug _ | .serve _ | .die _ => []

/-- Incidents with the host that each of them meets. -/
abbrev Incidents := List (Option HidApi × Incident)

def happen (hw : Hardware) (incident : Option HidApi × Incident) : Option Hardware :=
  occur incident.1 hw incident.2

/-- Whatever a worker has sent or still has to send is part of the log that it has for its controller, in the
order of the log. -/
structure Logged (log : Nat → String → List (List UInt8)) (manager : ControllerManager) : Prop where
  mapped : Mapped manager
  line : ∀ {workerId worker}, (workersOf manager).lookup workerId = some worker →
    worker.line.Sublist (log workerId worker.controller.name)

def lineOf (manager : ControllerManager) (workerId : Nat) : List (List UInt8) :=
  ((workersOf manager).lookup workerId).elim [] ControllerWorker.line

/-- Some of the frames join the line. -/
def Joins (frames : String → List (List UInt8)) (_ : Nat) (start worker : ControllerWorker) : Prop :=
  Later start.controller worker.controller ∧ worker.line.Sublist (start.line ++ frames start.controller.name)

section Logged
variable {log : Nat → String → List (List UInt8)} {joining : String → List (List UInt8)}
  {manager after : ControllerManager} {hidapi : Option HidApi} {hw later : Hardware}

theorem Logged.lineOf (mapped : Mapped manager) : Logged (fun workerId _ => lineOf manager workerId) manager := by
  refine ⟨mapped, fun found => ?_⟩
  rw [Drivers.lineOf, found]
  exact List.Sublist.refl _

theorem Logged.mono {longer : Nat → String → List (List UInt8)} (logged : Logged log manager)
    (more : ∀ workerId controllerId, (log workerId controllerId).Sublist (longer workerId controllerId)) :
    Logged longer manager :=
  ⟨logged.mapped, fun found => (logged.line found).trans (more _ _)⟩

theorem Logged.changes (logged : Logged log manager) (changes : Changes (Joins joining) manager after) :
    Logged (fun workerId controllerId => log workerId controllerId ++ joining controllerId) after := by
  refine ⟨logged.mapped.changes changes fun _ _ _ joins => joins.1, fun found => ?_⟩
  obtain ⟨start, known, same, line⟩ := changes.origin found
  rw [same.name]
  exact line.trans ((logged.line known).append_right _)

theorem Logged.silent (logged : Logged log manager) (changes : Changes (Joins fun _ => []) manager after) :
    Logged log after := by
  have added := logged.changes changes
  simp only [List.append_nil] at added
  exact added

theorem Logged.attach (logged : Logged log manager) (fingerprint : HardwareFingerprint)
    {controller : TTRiingQuad} (unused : controller.dev.received = []) :
    Logged log (attach manager fingerprint controller) := by
  refine ⟨logged.mapped.attach fingerprint controller, fun {workerId worker} found => ?_⟩
  rw [attach_found] at found
  split at found
  · cases found
    rw [ControllerWorker.line, unused]
    exact List.nil_sublist _
  · exact logged.line found

theorem Joins.call {start worker : ControllerWorker} {workerId : Nat} {command : ControllerCommand}
    (joins : Joins (fun _ => []) workerId start worker) (quiet : command.frames = []) :
    Joins (fun _ => []) workerId start (worker.call command).2 := by
  have line := worker.call_line command
  rw [quiet, List.append_nil] at line
  exact ⟨Later.trans _ _ _ joins.1 (ControllerWorker.call_later command worker), line.trans joins.2⟩

theorem Logged.stays (manager : ControllerManager) : Changes (Joins fun _ => []) manager manager :=
  Changes.refl fun _ start _ => ⟨Later.refl _, by rw [List.append_nil]⟩

theorem Logged.stopRequested (logged : Logged log manager) (workerId : Nat) :
    Logged log (stopRequested manager workerId) := by
  apply logged.silent
  refine (Logged.stays manager).then rfl rfl (request_next workerId .stop _) (stopRequested_found manager workerId) ?_
  intro otherId start worker _ joins
  split
  · exact joins.call rfl
  · exact joins

theorem Logged.hotplug {event : HotplugEvent} (logged : Logged log hw.manager)
    (occurred : handleHotplug hidapi hw event = some later) : Logged log later.manager := by
  cases event with
  | connected vendorId productId serial =>
      rcases deviceConnected_cases occurred with ⟨-, same⟩ | ⟨controller, -, -, ⟨info, wire, opened⟩, changed⟩
      · rw [same]
        exact logged
      · rw [changed]
        exact logged.attach _ (by rw [opened]; rfl)
  | disconnected vendorId productId serial =>
      cases occurred
      change Logged log (unplug ⟨vendorId, productId, serial⟩ hw).state.manager
      rcases unplug_cases ⟨vendorId, productId, serial⟩ hw with same | ⟨controllerId, workerId, known, leads⟩
      · rw [same]
        exact logged
      · have requested := logged.stopRequested workerId
        rw [(unplug_led known leads).2]
        change Logged log (if _ then _ else _)
        split
        · exact ⟨requested.mapped.cleared controllerId, requested.line⟩
        · exact requested

/-! ## Batches -/

theorem Logged.send {α : Type} (logged : Logged log manager) (mode : ExecutionMode)
    (command : α → ControllerCommand) (entry : String × α) :
    Logged (fun workerId controllerId => log workerId controllerId ++
        if entry.1 = controllerId then (command entry.2).frames else [])
      (send mode command entry manager).2 := by
  apply logged.changes
  refine ⟨send_leads mode command entry manager, send_names mode command entry manager,
    send_next mode command entry manager, fun workerId => ?_⟩
  rw [send_found]
  cases found : (workersOf manager).lookup workerId with
  | none => exact .none
  | some start =>
      refine .some ?_
      split
      · rename_i leads
        obtain ⟨target, found', name⟩ := logged.mapped.target leads
        cases found.symm.trans found'
        refine ⟨ControllerWorker.deliver_later mode _ start, ?_⟩
        simp only [if_pos name.symm]
        exact start.deliver_line mode _
      · exact ⟨Later.refl _, List.sublist_append_left _ _⟩

theorem Logged.sendAll {α : Type} (logged : Logged log manager) (mode : ExecutionMode)
    (command : α → ControllerCommand) (data : List (String × α)) :
    Logged (fun workerId controllerId => log workerId controllerId ++ data.flatMap fun entry =>
        if entry.1 = controllerId then (command entry.2).frames else [])
      (sendAll mode command data manager).2 := by
  induction data generalizing log manager with
  | nil =>
      simp only [List.flatMap_nil, List.append_nil]
      exact logged
  | cons entry rest ih =>
      simp only [List.flatMap_cons, ← List.append_assoc]
      exact ih (logged.send mode command entry)

theorem Logged.requestEach (logged : Logged log manager) (command : ControllerCommand) :
    Logged (fun workerId controllerId => log workerId controllerId ++ command.frames) { manager with
      workerManager := (requestEach command manager.workerIds manager.workerManager).2 } := by
  apply Logged.changes logged
  refine ⟨rfl, rfl, requestEach_next _ _ _, fun workerId => ?_⟩
  have asked := @requestEach_found command _ (workerIds_nodup manager) manager.workerManager workerId
  change Option.Rel _ _ ((ControllerManager.requestEach command manager.workerIds manager.workerManager).2.workers.lookup
    workerId)
  rw [asked]
  cases found : (workersOf manager).lookup workerId with
  | none => exact .none
  | some start =>
      refine .some ?_
      split
      · exact ⟨ControllerWorker.call_later command start, start.call_line command⟩
      · exact ⟨Later.refl _, List.sublist_append_left _ _⟩

theorem Logged.batch (logged : Logged log manager) (command : BatchCommand) (mode : ExecutionMode) :
    Logged (fun workerId controllerId => log workerId controllerId ++ command.frames controllerId)
      (manager.batchUpdate command mode).2 := by
  cases command with
  | setColors data => exact logged.sendAll mode .setColors data
  | setSpeeds data => exact logged.sendAll mode .setSpeeds data
  | init => exact logged.requestEach .init
  | getFirmwares => exact logged.requestEach .getFirmware

/-! ## Whole runs -/

theorem Logged.occur {incident : Incident} (logged : Logged log hw.manager)
    (occurred : occur hidapi hw incident = some later) :
    Logged (fun workerId controllerId => log workerId controllerId ++ incident.frames controllerId) later.manager := by
  cases incident with
  | hotplug event =>
      simp only [Incident.frames, List.append_nil]
      exact logged.hotplug occurred
  | batch command mode =>
      cases occurred
      exact logged.batch command mode
  | serve workerId =>
      simp only [Incident.frames, List.append_nil]
      apply logged.silent
      refine Changes.occur (Logged.stays _) occurred (by simp) (by simp) ?_ (by simp)
      exact fun _ _ worker ⟨same, line⟩ =>
        ⟨Later.trans _ _ _ same (ControllerWorker.serve_later worker), worker.serve_line.trans line⟩
  | die workerId =>
      simp only [Incident.frames, List.append_nil]
      apply logged.silent
      refine Changes.occur (Logged.stays _) occurred (by simp) (by simp) ?_ ?_
      · exact fun _ _ worker ⟨same, line⟩ =>
          ⟨Later.trans _ _ _ same (ControllerWorker.serve_later worker), worker.serve_line.trans line⟩
      · exact fun _ _ _ worker ⟨same, line⟩ => ⟨same, worker.stopped_line.trans line⟩

theorem Logged.initFromCfg {cfg : Config} {statics : Statics} (started : initFromCfg hidapi cfg statics = .ok hw) :
    Logged log hw.manager := by
  refine ⟨Mapped.initFromCfg started, fun {workerId worker} found => ?_⟩
  obtain ⟨workers, -⟩ := initFromCfg_ok started
  obtain ⟨index, controller, listed, rfl, rfl⟩ := (initializeWorkers_lookup workers _ worker).mp found
  obtain ⟨entry, -, -, info, new⟩ := opened_of_built listed
  simp [ControllerWorker.line, new, HidDevice.opened]

theorem Logged.run {incidents : Incidents} (logged : Logged log hw.manager)
    (ran : Machine.run happen hw incidents = some later) :
    Logged (fun workerId controllerId => log workerId controllerId ++ incidents.flatMap fun incident =>
      incident.2.frames controllerId) later.manager := by
  induction incidents generalizing log hw with
  | nil =>
      cases ran
      simp only [List.flatMap_nil, List.append_nil]
      exact logged
  | cons incident rest ih =>
      obtain ⟨middle, first, others⟩ := Option.bind_eq_some_iff.mp ran
      simp only [List.flatMap_cons, ← List.append_assoc]
      exact ih (logged.occur first) others

theorem Logged.received (logged : Logged log manager) {workerId : Nat} {worker : ControllerWorker}
    (found : (workersOf manager).lookup workerId = some worker) :
    worker.controller.dev.received.Sublist (log workerId worker.controller.name) :=
  (List.sublist_append_left _ _).trans (logged.line found)

end Logged

theorem frames_keep_order {hidapi : Option HidApi} {cfg : Config} {incidents : Incidents} {hw after : Hardware}
    (started : initFromCfg hidapi cfg {} = .ok hw) (ran : Machine.run happen hw incidents = some after)
    {workerId : Nat} {worker : ControllerWorker} (found : (workersOf after.manager).lookup workerId = some worker) :
    worker.controller.dev.received.Sublist
      (incidents.flatMap fun incident => incident.2.frames worker.controller.name) := by
  have begun : Logged (fun _ _ => []) hw.manager := .initFromCfg started
  exact (begun.run ran).received found

def framesReceived (workerId count : Nat) (hw : Hardware) : Bool :=
  ((workersOf hw.manager).lookup workerId).any fun worker => worker.controller.dev.received.length = count

def twoBatches : Incidents :=
  [(none, .batch .init .blocking), (none, .batch (.setSpeeds [("main", [(1, 50)])]) .fireAndForget),
    (none, .serve 1)]

theorem frames_keep_order_twoBatches :
    ∃ hw after worker, initFromCfg (some quietApi) oneController {} = .ok hw ∧
      Machine.run happen hw twoBatches = some after ∧ (workersOf after.manager).lookup 1 = some worker ∧
      worker.controller.dev.received.length = 3 ∧
      worker.controller.dev.received.Sublist
        (twoBatches.flatMap fun incident => incident.2.frames worker.controller.name) := by
  obtain ⟨hw, after, started, -, ran, received⟩ :=
    Machine.run_of_passes (show Machine.passes happen Machine.free (initFromCfg (some quietApi) oneController {})
      twoBatches (framesReceived 1 3) = true by decide +kernel)
  obtain ⟨worker, found, count⟩ := (Option.any_eq_true _ _).mp received
  exact ⟨hw, after, worker, started, ran, found, of_decide_eq_true count, frames_keep_order started ran found⟩

/-! ## Which frames are allowed -/

theorem mem_frames_setSpeeds {data : List (String × List (Nat × UInt8))} {controllerId : String}
    {frame : List UInt8} (member : frame ∈ (BatchCommand.setSpeeds data).frames controllerId) :
    ∃ entry ∈ data, entry.1 = controllerId ∧ ∃ pair ∈ entry.2,
      frame = (Command.setSpeed (UInt8.ofNat pair.1) pair.2).toBytes ∨
        frame = (Command.getData (UInt8.ofNat pair.1)).toBytes := by
  obtain ⟨entry, listed, inside⟩ := List.mem_flatMap.mp member
  split at inside
  · obtain ⟨pair, known, either⟩ := List.mem_flatMap.mp inside
    exact ⟨entry, listed, ‹_›, pair, known, by simpa [entryFrames] using either⟩
  · contradiction

theorem mem_frames_setColors {data : List (String × List (Nat × List Rgb))} {controllerId : String}
    {frame : List UInt8} (member : frame ∈ (BatchCommand.setColors data).frames controllerId) :
    ∃ entry ∈ data, entry.1 = controllerId ∧ ∃ pair ∈ entry.2,
      frame = (Command.setRgb (UInt8.ofNat pair.1) 0x24 pair.2).toBytes := by
  obtain ⟨entry, listed, inside⟩ := List.mem_flatMap.mp member
  split at inside
  · obtain ⟨pair, known, same⟩ := List.mem_flatMap.mp inside
    exact ⟨entry, listed, ‹_›, pair, known, List.mem_singleton.mp same⟩
  · contradiction

/-- Each device has been sent allowed frames only, and those that wait for it are allowed. -/
def Traced (allowed : String → List UInt8 → Prop) (manager : ControllerManager) : Prop :=
  ∃ log, Logged log manager ∧
    ∀ workerId controllerId, ∀ frame ∈ log workerId controllerId, allowed controllerId frame

section Traced
variable {allowed wider : String → List UInt8 → Prop} {manager : ControllerManager}

theorem Traced.mono (traced : Traced allowed manager) (more : ∀ id frame, allowed id frame → wider id frame) :
    Traced wider manager := by
  obtain ⟨log, logged, good⟩ := traced
  exact ⟨log, logged, fun workerId id frame member => more id frame (good workerId id frame member)⟩

theorem Traced.received (traced : Traced allowed manager) {workerId : Nat} {worker : ControllerWorker}
    (found : (workersOf manager).lookup workerId = some worker) :
    ∀ frame ∈ worker.controller.dev.received, allowed worker.controller.name frame := by
  obtain ⟨log, logged, good⟩ := traced
  exact fun frame member => good _ _ frame ((logged.received found).subset member)

end Traced

end TtRiingd.Drivers
