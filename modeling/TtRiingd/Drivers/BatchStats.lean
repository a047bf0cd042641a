import TtRiingd.Drivers.Delivery

/-!
# Batches of commands

A batch goes through its entries one by one. What an entry does is told by its id and by the worker that
the id leads to, so with one worker for each id the entries do not meet.
-/

namespace TtRiingd.Drivers
open ControllerManager

/-! ## Whole batches -/

section Entries
variable {α : Type}

def DistinctWorkers (manager : ControllerManager) : Prop :=
  ∀ id other workerId, manager.controllerId2workerId.lookup id = some (some workerId) →
    manager.controllerId2workerId.lookup other = some (some workerId) → id = other

theorem distinctWorkers_of_named {manager : ControllerManager}
    (named : ∀ {id workerId}, manager.controllerId2workerId.lookup id = some (some workerId) →
      ∃ worker, (workersOf manager).lookup workerId = some worker ∧ worker.controller.name = id) :
    DistinctWorkers manager := by
  intro id other workerId leads leads'
  obtain ⟨worker, found, name⟩ := named leads
  obtain ⟨worker', found', name'⟩ := named leads'
  rw [found, Option.some.injEq] at found'
  rw [← name, ← name', found']

section Distinct
variable {mode : ExecutionMode} {command : α → ControllerCommand} {data : List (String × α)}
  {manager : ControllerManager}

theorem outcomeOf_send {first other : String × α} (distinct : DistinctWorkers manager)
    (apart : first.1 ≠ other.1) :
    outcomeOf mode command (send mode command first manager).2 other = outcomeOf mode command manager other := by
  unfold outcomeOf
  rw [send_leads]
  cases leads : manager.controllerId2workerId.lookup other.1 with
  | none => rfl
  | some value =>
      cases value with
      | none => rfl
      | some workerId =>
          have elsewhere : ¬ manager.controllerId2workerId.lookup first.1 = some (some workerId) :=
            fun leads' => apart (distinct _ _ workerId leads' leads)
          simp only [send_found, if_neg elsewhere, Option.map_id']

theorem DistinctWorkers.send (distinct : DistinctWorkers manager) (entry : String × α) :
    DistinctWorkers (send mode command entry manager).2 := by
  unfold DistinctWorkers
  rw [send_leads]
  exact distinct

theorem sendAll_outcomes (distinct : DistinctWorkers manager) (ids : (data.map Prod.fst).Nodup) :
    (sendAll mode command data manager).1 =
      data.map fun entry => (entry.1, outcomeOf mode command manager entry) := by
  induction data generalizing manager with
  | nil => rfl
  | cons entry rest ih =>
      rw [List.map_cons, List.nodup_cons] at ids
      have later : ∀ other ∈ rest,
          (other.1, outcomeOf mode command (ControllerManager.send mode command entry manager).2 other) =
            (other.1, outcomeOf mode command manager other) := by
        intro other member
        have apart : entry.1 ≠ other.1 := fun same => ids.1 (same ▸ List.mem_map_of_mem member)
        rw [outcomeOf_send distinct apart]
      rw [sendAll, ih (distinct.send entry) ids.2, List.map_congr_left later, send_outcome]
      rfl

theorem sendAll_found_elsewhere {workerId : Nat}
    (elsewhere : ∀ entry ∈ data, manager.controllerId2workerId.lookup entry.1 ≠ some (some workerId)) :
    (workersOf (sendAll mode command data manager).2).lookup workerId = (workersOf manager).lookup workerId := by
  induction data generalizing manager with
  | nil => rfl
  | cons entry rest ih =>
      rw [List.forall_mem_cons] at elsewhere
      simp only [sendAll]
      rw [ih, send_found]
      · simp only [if_neg elsewhere.1, Option.map_id']
      · rw [send_leads]
        exact elsewhere.2

theorem sendAll_found (distinct : DistinctWorkers manager) (ids : (data.map Prod.fst).Nodup) {entry : String × α}
    (member : entry ∈ data) {workerId : Nat}
    (leads : manager.controllerId2workerId.lookup entry.1 = some (some workerId)) :
    (workersOf (sendAll mode command data manager).2).lookup workerId =
      ((workersOf manager).lookup workerId).map fun worker => (worker.deliver mode (command entry.2)).2 := by
  induction data generalizing manager with
  | nil => contradiction
  | cons first rest ih =>
      rw [List.map_cons, List.nodup_cons] at ids
      simp only [sendAll]
      rcases List.mem_cons.mp member with rfl | later
      · rw [sendAll_found_elsewhere, send_found]
        · simp only [if_pos leads]
        · intro other listed leads'
          rw [send_leads] at leads'
          exact ids.1 (distinct _ _ workerId leads leads' ▸ List.mem_map_of_mem listed)
      · have apart : first.1 ≠ entry.1 := fun same => ids.1 (same ▸ List.mem_map_of_mem later)
        have unmet : ¬ manager.controllerId2workerId.lookup first.1 = some (some workerId) :=
          fun leads' => apart (distinct _ _ workerId leads' leads)
        rw [ih (distinct.send first) ids.2 later (by rwa [send_leads]), send_found]
        simp only [if_neg unmet, Option.map_id']

end Distinct

end Entries

/-! ## Statistics -/

/-- The statistics account for each requested id: it was updated, or it is listed as failed, once. -/
structure AccountsFor (requested : List String) (updated : String → Prop) [DecidablePred updated]
    (stats : ControllerBatchStats) : Prop where
  total : stats.total = requested.length
  sum : stats.successful + stats.failed = stats.total
  failures : stats.failedControllers.Perm (requested.filter fun id => ¬ updated id)
  failed : stats.failed = stats.failedControllers.length

section Complete
variable {outcomes : List (String × Outcome)}

end Complete

section Commands
variable {α : Type}

def requests (data : AList fun _ : String => α) : List (String × α) :=
  data.entries.map fun entry => (entry.1, entry.2)

theorem requests_ids (data : AList fun _ : String => α) : (requests data).map Prod.fst = data.keys := by
  unfold requests AList.keys List.keys
  rw [List.map_map]
  rfl

def Accounted (mode : ExecutionMode) (command : α → ControllerCommand) (manager : ControllerManager)
    (data : AList fun _ : String => α) (stats : ControllerBatchStats) : Prop :=
  AccountsFor data.keys (fun id => (id, some true) ∈ (sendAll mode command (requests data) manager).1) stats

end Commands

/-- The controller does each of the commands in turn with `Ok`, and none of them stops its worker. -/
def succeeds : List ControllerCommand → TTRiingQuad → Bool
  | [], _ => true
  | command :: rest, controller =>
      command ≠ .stop && match execute command controller with
        | .ok _ after => succeeds rest after
        | .error _ _ => false

theorem succeeds_cons {command : ControllerCommand} {rest : List ControllerCommand} {controller : TTRiingQuad} :
    succeeds (command :: rest) controller = true ↔ command ≠ .stop ∧
      ∃ reply after, execute command controller = .ok reply after ∧ succeeds rest after = true := by
  rw [succeeds, Bool.and_eq_true, decide_eq_true_eq]
  apply and_congr_right
  intro other
  cases execute command controller with
  | ok reply after =>
      constructor
      · exact fun later => ⟨reply, after, rfl, later⟩
      · rintro ⟨_, _, same, later⟩
        cases same
        exact later
  | error fault after => simp

namespace ControllerWorker

theorem handle_ok {command : ControllerCommand} {worker : ControllerWorker} {reply : Reply} {after : TTRiingQuad}
    (other : command ≠ .stop) (executed : execute command worker.controller = .ok reply after) :
    worker.handle command = (some (.ok reply), { worker with controller := after }) := by
  simp only [handle, executed, if_neg other]

theorem work_stopped (commands : List ControllerCommand) {worker : ControllerWorker}
    (gone : worker.running = false) : work commands worker = worker := by
  cases commands with
  | nil => rfl
  | cons command rest => rw [work, if_neg (by simp [gone])]

theorem work_append (before after : List ControllerCommand) (worker : ControllerWorker) :
    work (before ++ after) worker = work after (work before worker) := by
  induction before generalizing worker with
  | nil => rfl
  | cons command rest ih =>
      simp only [List.cons_append, work]
      by_cases running : worker.running = true
      · rw [if_pos running, if_pos running, ih]
      · rw [if_neg running, if_neg running, work_stopped after (Bool.eq_false_iff.mpr running)]

theorem call_eq_drain (command : ControllerCommand) (worker : ControllerWorker) :
    (worker.call command).2 = (worker.post command).drain := by
  by_cases running : worker.running = true
  · rw [post, if_pos running]
    unfold drain call
    simp only [work_append]
    change _ = work [command] worker.drain
    simp only [work]
    split
    · rfl
    · rfl
  · have gone : worker.running = false := Bool.eq_false_iff.mpr running
    have drained : worker.drain = { worker with mailbox := [] } := work_stopped _ gone
    rw [post, if_neg running, call, drained]
    simp [gone]

theorem work_succeeds {commands later : List ControllerCommand} {worker : ControllerWorker}
    (running : worker.running = true) (succeed : succeeds (commands ++ later) worker.controller = true) :
    ∃ controller, work commands worker = { worker with controller } ∧ succeeds later controller = true := by
  induction commands generalizing worker with
  | nil => exact ⟨worker.controller, rfl, succeed⟩
  | cons command rest ih =>
      obtain ⟨other, reply, after, executed, others⟩ := succeeds_cons.mp succeed
      rw [work, if_pos running, handle_ok other executed]
      exact @ih { worker with controller := after } running others

theorem call_succeeds {command : ControllerCommand} {worker : ControllerWorker} (running : worker.running = true)
    (succeed : succeeds (worker.mailbox ++ [command]) worker.controller = true) :
    ∃ reply, (worker.call command).1 = some (.ok reply) := by
  obtain ⟨controller, drained, last⟩ :=
    @work_succeeds worker.mailbox [command] { worker with mailbox := [] } running succeed
  obtain ⟨other, reply, after, executed, -⟩ := succeeds_cons.mp last
  have whole : worker.drain = { worker with mailbox := [], controller } := drained
  refine ⟨reply, ?_⟩
  rw [call, whole]
  simp only
  rw [if_pos running, handle_ok other executed]

theorem call_stopped {command : ControllerCommand} {worker : ControllerWorker} (gone : worker.running = false) :
    (worker.call command).1 = none := by
  have drained : worker.drain = { worker with mailbox := [] } := work_stopped _ gone
  rw [call, drained]
  simp [gone]

theorem deliver_agrees {command : ControllerCommand} {worker : ControllerWorker}
    (room : worker.running = true → worker.mailbox.length < CHANNEL_CAPACITY)
    (succeed : worker.running = true → succeeds (worker.mailbox ++ [command]) worker.controller = true) :
    (worker.deliver .blocking command).1 = (worker.deliver .fireAndForget command).1 ∧
      (worker.deliver .fireAndForget command).2 = worker.post command ∧
      (worker.deliver .blocking command).2 = (worker.post command).drain := by
  unfold deliver
  by_cases running : worker.running = true
  · obtain ⟨reply, replied⟩ := call_succeeds running (succeed running)
    simp only [if_pos (And.intro running (room running)), replied]
    exact ⟨rfl, trivial, call_eq_drain command worker⟩
  · have gone : worker.running = false := Bool.eq_false_iff.mpr running
    simp only [call_stopped gone, gone, Bool.false_eq_true, false_and, if_false]
    refine ⟨rfl, ?_, call_eq_drain command worker⟩
    rw [post, if_neg running]

end ControllerWorker

section Agreement
variable {α : Type}

/-- Each running worker that the data reaches has room for one more command, and succeeds with those in
its mailbox and then with its own. -/
def Serviceable (command : α → ControllerCommand) (manager : ControllerManager)
    (data : List (String × α)) : Prop :=
  ∀ entry ∈ data, ∀ workerId worker, manager.controllerId2workerId.lookup entry.1 = some (some workerId) →
    (workersOf manager).lookup workerId = some worker → worker.running = true →
    worker.mailbox.length < CHANNEL_CAPACITY ∧
      succeeds (worker.mailbox ++ [command entry.2]) worker.controller = true

/-- The two modes return the same statistics and post the same commands to the same workers; those that
wait have also been served. -/
structure SameDelivery (command : α → ControllerCommand) (manager : ControllerManager)
    (data : List (String × α)) (blocking fired : ControllerBatchStats × ControllerManager) : Prop where
  stats : blocking.1 = fired.1
  posted : ∀ entry ∈ data, ∀ workerId, manager.controllerId2workerId.lookup entry.1 = some (some workerId) →
    (workersOf fired.2).lookup workerId =
        ((workersOf manager).lookup workerId).map (ControllerWorker.post (command entry.2)) ∧
      (workersOf blocking.2).lookup workerId = ((workersOf fired.2).lookup workerId).map ControllerWorker.drain
  others : ∀ workerId,
    (∀ entry ∈ data, manager.controllerId2workerId.lookup entry.1 ≠ some (some workerId)) →
    (workersOf fired.2).lookup workerId = (workersOf manager).lookup workerId ∧
      (workersOf blocking.2).lookup workerId = (workersOf manager).lookup workerId

variable {command : α → ControllerCommand} {manager : ControllerManager}

theorem outcomeOf_agrees {data : List (String × α)} (serviceable : Serviceable command manager data)
    {entry : String × α} (member : entry ∈ data) :
    outcomeOf .blocking command manager entry = outcomeOf .fireAndForget command manager entry := by
  unfold outcomeOf
  cases leads : manager.controllerId2workerId.lookup entry.1 with
  | none => rfl
  | some value =>
      cases value with
      | none => rfl
      | some workerId =>
          cases found : (workersOf manager).lookup workerId with
          | none => simp [found]
          | some worker =>
              have fine := serviceable entry member workerId worker leads found
              have agrees := ControllerWorker.deliver_agrees (fun running => (fine running).1)
                fun running => (fine running).2
              simp only [found, Option.any_some, agrees.1]

theorem sendAll_agrees (distinct : DistinctWorkers manager) (data : AList fun _ : String => α)
    (serviceable : Serviceable command manager (requests data)) :
    let sent (mode : ExecutionMode) := sendAll mode command (requests data) manager
    SameDelivery command manager (requests data) (batchStats (sent .blocking).1, (sent .blocking).2)
      (batchStats (sent .fireAndForget).1, (sent .fireAndForget).2) := by
  have ids : ((requests data).map Prod.fst).Nodup := by
    rw [requests_ids]
    exact data.keys_nodup
  constructor
  · have same : (requests data).map (fun entry => (entry.1, outcomeOf .blocking command manager entry)) =
        (requests data).map fun entry => (entry.1, outcomeOf .fireAndForget command manager entry) := by
      apply List.map_congr_left
      intro entry member
      rw [outcomeOf_agrees serviceable member]
    change batchStats _ = batchStats _
    rw [sendAll_outcomes distinct ids, sendAll_outcomes distinct ids, same]
  · intro entry member workerId leads
    have fired := @sendAll_found _ .fireAndForget command _ manager distinct ids entry member workerId leads
    have waited := @sendAll_found _ .blocking command _ manager distinct ids entry member workerId leads
    rw [fired, waited]
    cases found : (workersOf manager).lookup workerId with
    | none => exact ⟨rfl, rfl⟩
    | some worker =>
        have fine := serviceable entry member workerId worker leads found
        obtain ⟨-, posted, served⟩ := ControllerWorker.deliver_agrees (fun running => (fine running).1)
          fun running => (fine running).2
        simp only [Option.map_some, posted, served]
        exact ⟨trivial, trivial⟩
  · intro workerId elsewhere
    exact ⟨sendAll_found_elsewhere elsewhere, sendAll_found_elsewhere elsewhere⟩

end Agreement

theorem fireAndForget_agrees {manager : ControllerManager} (distinct : DistinctWorkers manager) :
    (∀ speedData : AList fun _ : String => List (Nat × UInt8),
      Serviceable .setSpeeds manager (requests speedData) →
      SameDelivery .setSpeeds manager (requests speedData) (manager.handleSetSpeeds .blocking (requests speedData))
        (manager.handleSetSpeeds .fireAndForget (requests speedData))) ∧
    ∀ colorData : AList fun _ : String => List (Nat × List Rgb),
      Serviceable .setColors manager (requests colorData) →
      SameDelivery .setColors manager (requests colorData) (manager.handleSetColors .blocking (requests colorData))
        (manager.handleSetColors .fireAndForget (requests colorData)) :=
  ⟨fun data serviceable => sendAll_agrees distinct data serviceable,
    fun data serviceable => sendAll_agrees distinct data serviceable⟩

def quietController : TTRiingQuad where
  name := "main"
  dev := .opened (.ok ⟨0x264a, 0x232B, none⟩) quietWire
  fans := [⟨0, 0⟩]

def oneWorker (mailbox : List ControllerCommand) : ControllerManager where
  workerManager := {
    workers := AList.insertAll ∅ [(1, { controllerId := 1, controller := quietController, mailbox })]
    nextWorkerId := 2 }
  controllerId2workerId := AList.insertAll ∅ [("main", some 1)]
  fingerprint2controllerId := ∅

theorem oneWorker_leads {mailbox : List ControllerCommand} {id : String} {workerId : Nat}
    (leads : (oneWorker mailbox).controllerId2workerId.lookup id = some (some workerId)) :
    id = "main" ∧ workerId = 1 := by
  have main : (oneWorker mailbox).controllerId2workerId.lookup id = if id = "main" then some (some 1) else none :=
    AList.lookup_insert_eq ∅ "main" id (some 1)
  rw [main] at leads
  split at leads
  · rename_i same
    cases leads
    exact ⟨same, rfl⟩
  · contradiction

theorem oneWorker_distinct (mailbox : List ControllerCommand) : DistinctWorkers (oneWorker mailbox) := by
  intro id other workerId leads leads'
  rw [(oneWorker_leads leads).1, (oneWorker_leads leads').1]

def someSpeeds : AList fun _ : String => List (Nat × UInt8) := AList.insertAll ∅ [("main", [(1, 50)])]

def tooManyColors : AList fun _ : String => List (Nat × List Rgb) :=
  AList.insertAll ∅ [("main", [(1, List.replicate 63 ⟨0, 0, 0⟩)])]

theorem fireAndForget_agrees_behind_firmware :
    SameDelivery .setSpeeds (oneWorker [.getFirmware]) (requests someSpeeds)
      ((oneWorker [.getFirmware]).handleSetSpeeds .blocking (requests someSpeeds))
      ((oneWorker [.getFirmware]).handleSetSpeeds .fireAndForget (requests someSpeeds)) := by
  apply (fireAndForget_agrees (oneWorker_distinct [.getFirmware])).1 someSpeeds
  intro entry member workerId worker leads found running
  obtain rfl : entry = ("main", [(1, 50)]) := List.mem_singleton.mp member
  obtain ⟨-, rfl⟩ := oneWorker_leads leads
  cases found
  exact ⟨by decide, by decide +kernel⟩

/-- A command that is accepted may still not be carried out: behind a `Stop` it is dropped, and colours
that do not fit into a frame fail before the device is asked. -/
theorem accepted_is_not_done :
    DistinctWorkers (oneWorker [.stop]) ∧ [ControllerCommand.stop].length < CHANNEL_CAPACITY ∧
      (execute (.setSpeeds [(1, 50)]) quietController).isOk = true ∧
      ((oneWorker [.stop]).handleSetSpeeds .blocking (requests someSpeeds)).1 = ⟨1, 0, 1, ["main"]⟩ ∧
      ((oneWorker [.stop]).handleSetSpeeds .fireAndForget (requests someSpeeds)).1 = ⟨1, 1, 0, []⟩ ∧
      ((oneWorker []).handleSetColors .blocking (requests tooManyColors)).1 = ⟨1, 0, 1, ["main"]⟩ ∧
      ((oneWorker []).handleSetColors .fireAndForget (requests tooManyColors)).1 = ⟨1, 1, 0, []⟩ := by
  refine ⟨oneWorker_distinct _, ?_, ?_, ?_, ?_, ?_, ?_⟩ <;> decide +kernel

end TtRiingd.Drivers
