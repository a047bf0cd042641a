import TtRiingd.Drivers.BatchStats
import TtRiingd.Drivers.SpeedBatch

/-!
# What a worker survives

The run loop of a worker ends with a `Stop`, and in the panic of a speed batch that names a channel
without a fan. Whether it comes to the end of its mailbox is told from the commands queued there.
-/

namespace TtRiingd.Drivers
open ControllerManager TTRiingQuad

/-! ## Which command ends the loop -/

/-- The fans are only written, and a channel looked up, once the device has answered the whole batch. -/
def ControllerCommand.Kills (controller : TTRiingQuad) : ControllerCommand → Prop
  | .stop => True
  | .setSpeeds data => (processBatch data controller).isOk = true ∧
      ¬ ∀ entry ∈ data, 1 ≤ entry.1 ∧ entry.1 ≤ controller.fans.length
  | .setColors _ | .init | .getFirmware | .ledCount => False

def Outlives : List ControllerCommand → TTRiingQuad → Prop
  | [], _ => True
  | command :: rest, controller => ¬ command.Kills controller ∧ Outlives rest (execute command controller).state

/-- A call that returns an error at worst. -/
def Survives {σ α : Type} (call : EStateM Fault σ α) : Prop :=
  ∀ state fault after, call state = .error fault after → ∃ e, fault = .error e

theorem onDevice_survives {α : Type} (call : EStateM Error HidDevice α) : Survives (onDevice call) := by
  intro controller fault after result
  obtain ⟨e, rfl, -⟩ := onDevice_error result
  exact ⟨e, rfl⟩

theorem mapErr_survives {σ α : Type} {message : Error → String} {call : EStateM Fault σ α}
    (survives : Survives call) : Survives (mapErr message call) := by
  intro state fault after result
  unfold mapErr at result
  cases called : call state with
  | ok value middle => simp [called] at result
  | error cause middle =>
      obtain ⟨e, rfl⟩ := survives state cause middle called
      simp only [called, EStateM.Result.error.injEq] at result
      exact ⟨_, result.1.symm⟩

theorem reply_survives {σ α : Type} {call : EStateM Fault σ α} (reply : α → Reply) (survives : Survives call) :
    Survives (do let a ← call; pure (reply a) : EStateM Fault σ Reply) := by
  intro state fault after result
  cases called : call state with
  | ok value middle =>
      have replied : (do let a ← call; pure (reply a) : EStateM Fault σ Reply) state = .ok (reply value) middle :=
        EStateM.bind_of_ok called
      rw [replied] at result
      contradiction
  | error cause middle =>
      have failed : (do let a ← call; pure (reply a) : EStateM Fault σ Reply) state = .error cause middle :=
        EStateM.bind_of_error called
      rw [failed] at result
      cases result
      exact survives state _ _ called

theorem updateColorBatch_survives (data : List (Nat × List Rgb)) : Survives (updateColorBatch data) := by
  intro state fault after failed
  refine @EStateM.forM_error _ _ _ _ (fun fault => ∃ e, fault = .error e) ?_ data state after fault failed
  exact fun entry middle cause last result => mapErr_survives (onDevice_survives _) middle cause last result

theorem setSpeeds_panics_iff (data : List (Nat × UInt8)) (controller : TTRiingQuad) :
    (∃ after, execute (.setSpeeds data) controller = .error .panic after) ↔
      ControllerCommand.Kills controller (.setSpeeds data) := by
  simp only [ControllerCommand.Kills]
  cases processed : processBatch data controller with
  | error fault middle =>
      have failed : execute (.setSpeeds data) controller = .error fault middle :=
        EStateM.bind_of_error (EStateM.bind_of_error processed)
      obtain ⟨e, rfl⟩ := (updateSpeedBatch_failed processed).error
      simp [failed, EStateM.Result.isOk]
  | ok results middle =>
      by_cases range : ∀ entry ∈ data, 1 ≤ entry.1 ∧ entry.1 ≤ controller.fans.length
      · obtain ⟨last, complete, -⟩ := updateSpeedBatch_done processed range
        have succeeded : execute (.setSpeeds data) controller = .ok .done last := EStateM.bind_of_ok complete
        simp only [succeeded, reduceCtorEq, exists_false, false_iff, not_and_not_right]
        exact fun _ => range
      · obtain ⟨last, panicked⟩ := updateSpeedBatch_panics processed range
        have died : execute (.setSpeeds data) controller = .error .panic last := EStateM.bind_of_error panicked
        exact ⟨fun _ => ⟨rfl, range⟩, fun _ => ⟨last, died⟩⟩

theorem execute_panics_iff {command : ControllerCommand} (other : command ≠ .stop) (controller : TTRiingQuad) :
    (∃ after, execute command controller = .error .panic after) ↔ command.Kills controller := by
  have never (survives : Survives (execute command)) :
      ¬ ∃ after, execute command controller = .error .panic after := by
    rintro ⟨after, panicked⟩
    obtain ⟨e, same⟩ := survives controller _ after panicked
    contradiction
  cases command with
  | setSpeeds data => exact setSpeeds_panics_iff data controller
  | setColors data =>
      exact iff_of_false (never (reply_survives _ (updateColorBatch_survives data))) not_false
  | init => exact iff_of_false (never (reply_survives _ (mapErr_survives (onDevice_survives _)))) not_false
  | getFirmware => exact iff_of_false (never (reply_survives _ (onDevice_survives _))) not_false
  | ledCount =>
      refine iff_of_false (never ?_) not_false
      intro state fault after failed
      contradiction
  | stop => contradiction

namespace ControllerWorker
variable {worker : ControllerWorker} {command : ControllerCommand}

theorem handle_running (running : worker.running = true) :
    (worker.handle command).2.running = true ↔ ¬ command.Kills worker.controller := by
  by_cases stops : command = .stop
  · subst stops
    have ended : (worker.handle .stop).2.running = false := rfl
    rw [ended]
    simp [ControllerCommand.Kills]
  · rw [← execute_panics_iff stops]
    unfold handle
    cases executed : execute command worker.controller with
    | ok reply after => simp [stops, running]
    | error fault after =>
        cases fault with
        | error e => simp [running]
        | panic => simp [stopped]

theorem work_running (commands : List ControllerCommand) (worker : ControllerWorker) :
    (work commands worker).running = true ↔ worker.running = true ∧ Outlives commands worker.controller := by
  induction commands generalizing worker with
  | nil => simp [work, Outlives]
  | cons command rest ih =>
      unfold work
      by_cases running : worker.running = true
      · rw [if_pos running, ih, handle_running running, handle_controller, Outlives]
        exact ⟨fun alive => ⟨running, alive⟩, fun alive => alive.2⟩
      · rw [if_neg running]
        exact iff_of_false running fun alive => running alive.1

theorem drain_running (worker : ControllerWorker) :
    worker.drain.running = true ↔ worker.running = true ∧ Outlives worker.mailbox worker.controller :=
  work_running worker.mailbox { worker with mailbox := [] }

theorem call_stop (worker : ControllerWorker) :
    worker.call .stop =
      if worker.drain.running then (some (.ok .done), worker.drain.stopped) else (none, worker.drain) := rfl

theorem handle_later (command : ControllerCommand) (worker : ControllerWorker) :
    Later worker.controller (worker.handle command).2.controller := by
  rw [handle_controller]
  exact execute_later command worker.controller

theorem work_later (commands : List ControllerCommand) (worker : ControllerWorker) :
    Later worker.controller (work commands worker).controller := by
  induction commands generalizing worker with
  | nil => exact Later.refl _
  | cons command rest ih =>
      unfold work
      split
      · exact Later.trans _ _ _ (handle_later command worker) (ih _)
      · exact Later.refl _

theorem call_later (command : ControllerCommand) (worker : ControllerWorker) :
    Later worker.controller (worker.call command).2.controller := by
  have drained : Later worker.controller worker.drain.controller :=
    work_later worker.mailbox { worker with mailbox := [] }
  unfold call
  simp only
  split
  · exact Later.trans _ _ _ drained (handle_later command _)
  · exact drained

theorem deliver_later (mode : ExecutionMode) (command : ControllerCommand) (worker : ControllerWorker) :
    Later worker.controller (worker.deliver mode command).2.controller := by
  cases mode with
  | blocking => exact call_later command worker
  | fireAndForget =>
      unfold deliver post
      simp only
      split
      · split <;> exact Later.refl _
      · exact Later.refl _

theorem serve_later (worker : ControllerWorker) : Later worker.controller worker.serve.controller := by
  unfold serve
  split
  · rename_i command rest queue
    split
    · exact handle_later command { worker with mailbox := rest }
    · exact Later.refl _
  · exact Later.refl _

end ControllerWorker

/-! ## Commands that leave a worker alive -/

def Alive (worker : ControllerWorker) : Prop :=
  worker.running = true ∧ Outlives worker.mailbox worker.controller

def ControllerCommand.InRange (count : Nat) : ControllerCommand → Prop
  | .stop => False
  | .setSpeeds data => ∀ entry ∈ data, 1 ≤ entry.1 ∧ entry.1 ≤ count
  | .setColors _ | .init | .getFirmware | .ledCount => True

theorem ControllerCommand.InRange.not_kills {command : ControllerCommand} {controller : TTRiingQuad}
    (range : command.InRange controller.fans.length) : ¬ command.Kills controller := by
  cases command with
  | setSpeeds data => exact fun kills => kills.2 range
  | stop => contradiction
  | _ => exact not_false

theorem Outlives.of_prefix {commands more : List ControllerCommand} {controller : TTRiingQuad}
    (outlives : Outlives more controller) (shorter : commands <+: more) : Outlives commands controller := by
  induction more generalizing commands controller with
  | nil =>
      rw [List.prefix_nil.mp shorter]
      trivial
  | cons command rest ih =>
      cases commands with
      | nil => trivial
      | cons first others =>
          obtain ⟨rfl, tail⟩ := List.cons_prefix_cons.mp shorter
          exact ⟨outlives.1, ih outlives.2 tail⟩

theorem Outlives.append {commands : List ControllerCommand} {command : ControllerCommand}
    {controller : TTRiingQuad} (outlives : Outlives commands controller)
    (range : command.InRange controller.fans.length) : Outlives (commands ++ [command]) controller := by
  induction commands generalizing controller with
  | nil => exact ⟨range.not_kills, trivial⟩
  | cons first rest ih =>
      have fans := (execute_later first controller).fans
      exact ⟨outlives.1, ih outlives.2 (fans ▸ range)⟩

section Alive
variable {worker : ControllerWorker} {command : ControllerCommand}

theorem Alive.post (alive : Alive worker) (range : command.InRange worker.controller.fans.length) :
    Alive (worker.post command) := by
  unfold ControllerWorker.post
  rw [if_pos alive.1]
  exact ⟨alive.1, alive.2.append range⟩

theorem Alive.work {commands : List ControllerCommand} (running : worker.running = true)
    (outlives : Outlives commands worker.controller) (emptied : worker.mailbox = []) :
    Alive (ControllerWorker.work commands worker) := by
  induction commands generalizing worker with
  | nil => exact ⟨running, by rw [ControllerWorker.work, emptied]; trivial⟩
  | cons command rest ih =>
      rw [ControllerWorker.work, if_pos running]
      apply ih
      · exact (ControllerWorker.handle_running running).mpr outlives.1
      · rw [handle_controller]
        exact outlives.2
      · apply List.prefix_nil.mp
        rw [← emptied]
        exact handle_mailbox command worker

theorem Alive.drain (alive : Alive worker) : Alive worker.drain := Alive.work alive.1 alive.2 rfl

theorem Alive.deliver (alive : Alive worker) (mode : ExecutionMode)
    (range : command.InRange worker.controller.fans.length) : Alive (worker.deliver mode command).2 := by
  cases mode with
  | blocking =>
      change Alive (worker.call command).2
      rw [ControllerWorker.call_eq_drain]
      exact (alive.post range).drain
  | fireAndForget =>
      unfold ControllerWorker.deliver
      simp only
      split
      · exact alive.post range
      · exact alive

theorem Alive.serve (alive : Alive worker) : Alive worker.serve := by
  have outlives := alive.2
  unfold ControllerWorker.serve
  split
  · rename_i first rest queue
    rw [queue] at outlives
    rw [if_pos alive.1]
    constructor
    · exact (@ControllerWorker.handle_running { worker with mailbox := rest } first alive.1).mpr outlives.1
    · rw [handle_controller]
      exact Outlives.of_prefix outlives.2 (handle_mailbox first { worker with mailbox := rest })
  · exact alive

end Alive

end TtRiingd.Drivers
