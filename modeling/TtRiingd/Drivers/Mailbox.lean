import TtRiingd.Drivers.BatchStats
import TtRiingd.Library.Mailbox

/-!
# The mailbox of a controller worker

The calls of `ControllerWorkerManager` that are for one worker, and the run loop of that worker, with each
send, receive and reply a step of its own. A worker is served by any number of callers at once, and told to
leave by a `Stop` or by the shutdown signal, which the `select!` may see before or after queued commands.
-/

namespace TtRiingd.Drivers

/-! ## Calls and commands -/

inductive WorkerCall where
  | setSpeeds (speeds : List (Nat × UInt8))
  | setColors (colors : List (Nat × List Rgb))
  | sendInit
  | getFirmware
  | ledCount
  | stopWorker
  | trySetSpeeds (speeds : List (Nat × UInt8))
  | trySetColors (colors : List (Nat × List Rgb))

def WorkerCall.command : WorkerCall → ControllerCommand
  | .setSpeeds speeds | .trySetSpeeds speeds => .setSpeeds speeds
  | .setColors colors | .trySetColors colors => .setColors colors
  | .sendInit => .init
  | .getFirmware => .getFirmware
  | .ledCount => .ledCount
  | .stopWorker => .stop

def WorkerCall.waits : WorkerCall → Bool
  | .trySetSpeeds _ | .trySetColors _ => false
  | .setSpeeds _ | .setColors _ | .sendInit | .getFirmware | .ledCount | .stopWorker => true

/-- What the worker sends on `result_tx`. In a panic the sender is dropped. -/
def sentReply : EStateM.Result Fault TTRiingQuad Reply → Option (Except Error Reply)
  | .ok reply _ => some (.ok reply)
  | .error (.error e) _ => some (.error e)
  | .error .panic _ => none

def mailbox (calls : Nat → WorkerCall) :
    Mailbox.Setting ControllerCommand TTRiingQuad (Except Error Reply) where
  calls call := ⟨(calls call).command, (calls call).waits⟩
  exec command controller :=
    (sentReply (execute command controller), (execute command controller).state)
  ends command := command = .stop
  capacity := CHANNEL_CAPACITY

abbrev WorkerState := Mailbox.State TTRiingQuad (Except Error Reply)

def resultOf (workerId : Nat) : Mailbox.Outcome (Except Error Reply) → Except Error Reply
  | .missing => .error (anyhow s!"Controller {workerId} not found")
  | .closed => .error (anyhow "channel closed")
  | .answer result => result

/-! ## The worker between two commands -/

section Worker
variable (controllerId : Nat) (calls : Nat → WorkerCall)

/-- The worker as the calls see it that do not meet any other. -/
def workerOf (state : WorkerState) : ControllerWorker :=
  let queued := state.queue.map fun call => (calls call).command
  match state.phase with
  | .idle | .busy _ => { controllerId, controller := state.device, mailbox := queued }
  | .leaving | .gone => { controllerId, controller := state.device, running := false }

theorem serve_simulates {state after : WorkerState} (idle : state.phase = .idle)
    (served : Machine.run (Mailbox.step (mailbox calls)) state [.take, .finish] = some after) :
    workerOf controllerId calls after = (workerOf controllerId calls state).serve := by
  cases queue : state.queue with
  | nil => simp [Machine.run, Mailbox.step, idle, queue] at served
  | cons call rest =>
      simp only [Machine.run, Mailbox.step, idle, queue, Option.bind_some, Option.some.injEq] at served
      subst served
      have before : workerOf controllerId calls state =
          { controllerId, controller := state.device,
            mailbox := (calls call).command :: rest.map fun call => (calls call).command } := by
        simp only [workerOf, idle, queue, List.map_cons]
      rw [before]
      simp only [ControllerWorker.serve, if_true]
      unfold ControllerWorker.handle Mailbox.answer
      simp only [mailbox]
      cases executed : execute (calls call).command state.device with
      | ok reply controller =>
          by_cases stops : (calls call).command = .stop
          · simp [sentReply, Mailbox.reply, workerOf, stops, ControllerWorker.stopped]
          · simp [sentReply, Mailbox.reply, workerOf, stops]
      | error fault controller =>
          cases fault with
          | error e =>
              have other : (calls call).command ≠ .stop := by
                intro stops
                rw [stops] at executed
                contradiction
              simp [sentReply, Mailbox.reply, workerOf, other]
          | panic =>
              simp [sentReply, Mailbox.panicked, Mailbox.State.release, workerOf, ControllerWorker.stopped]

theorem try_simulates {state after : WorkerState} {call : Nat} (idle : state.phase = .idle)
    (registered : state.registered = true) (polls : (calls call).waits = false)
    (called : Mailbox.step (mailbox calls) state (.call call) = some after) :
    let delivered := (workerOf controllerId calls state).deliver .fireAndForget (calls call).command
    after.callers call = .tried delivered.1 ∧ workerOf controllerId calls after = delivered.2 := by
  simp only [Mailbox.step] at called
  split at called <;> cases called
  have waits : ((mailbox calls).calls call).waits = false := polls
  unfold Mailbox.begin
  rw [if_pos registered, waits]
  simp only [Bool.false_eq_true, if_false, ControllerWorker.deliver, ControllerWorker.post, workerOf, idle,
    List.length_map, true_and, if_true]
  by_cases room : state.queue.length < CHANNEL_CAPACITY
  · have free : Mailbox.HasRoom (mailbox calls) state := ⟨by simp [idle], room⟩
    rw [if_pos free, if_pos room]
    simp [Mailbox.State.setCaller, Mailbox.State.enqueue, idle]
  · have full : ¬ Mailbox.HasRoom (mailbox calls) state := fun free => room free.2
    rw [if_neg full, if_neg room]
    simp [Mailbox.State.setCaller, idle]

end Worker

/-! ## The protocol -/

section Protocol
variable {workerId : Nat} {calls : Nat → WorkerCall} {controller : TTRiingQuad} {state : WorkerState}

/-- A `stop_worker` has returned `Ok`, or the worker is out of its loop. -/
def Ended (calls : Nat → WorkerCall) (state : WorkerState) : Prop :=
  (∃ call reply, calls call = .stopWorker ∧ state.callers call = .returned (.answer (.ok reply))) ∨ state.Over

theorem Ended.out (ended : Ended calls state) (replied : Mailbox.Replied (mailbox calls) state) : state.Over := by
  rcases ended with ⟨call, reply, stops, returned⟩ | out
  · apply replied.ended call (.ok reply) (replied.answered call _ returned)
    simp [mailbox, stops, WorkerCall.command]
  · exact out

structure Protocol (workerId : Nat) (calls : Nat → WorkerCall) (controller : TTRiingQuad) (state : WorkerState) :
    Prop where
  order : state.started <+: state.accepted ∧ state.accepted.Nodup
  device : Mailbox.replay (mailbox calls) (state.executed.map Prod.fst) controller = (state.executed, state.device)
  answered : ∀ call outcome reply, state.callers call = .returned outcome →
    resultOf workerId outcome = .ok reply → (call, some (.ok reply)) ∈ state.executed
  quiet : Ended calls state → ∀ acts after, Machine.run (Mailbox.step (mailbox calls)) state acts = some after →
    after.executed = state.executed ∧ after.device = state.device

theorem protocol_of_inv (inv : Mailbox.Inv (mailbox calls) controller state) :
    Protocol workerId calls controller state := by
  refine ⟨⟨inv.lined.started, inv.lined.distinct⟩, inv.replayed, ?_, ?_⟩
  · intro call outcome reply returned ok
    cases outcome with
    | answer result =>
        simp only [resultOf] at ok
        rw [ok] at returned
        exact inv.replied.answered call _ returned
    | missing => cases ok
    | closed => cases ok
  · intro ended acts after result
    exact ((ended.out inv.replied).run result).2

/-- The caller waits for a reply and was not served. -/
structure Unexecuted (calls : Nat → WorkerCall) (state : WorkerState) (call : Nat) : Prop where
  called : state.callers call ≠ .ready
  waits : (calls call).waits = true
  unexecuted : ∀ result, (call, result) ∉ state.executed

def ReturnsErr (workerId : Nat) (state : WorkerState) (call : Nat) : Prop :=
  ∃ outcome e, state.callers call = .returned outcome ∧ resultOf workerId outcome = .error e

theorem Unexecuted.cases {call : Nat} (unexecuted : Unexecuted calls state call)
    (replied : Mailbox.Replied (mailbox calls) state) :
    Mailbox.Unserved state call ∨ ReturnsErr workerId state call := by
  cases caller : state.callers call with
  | ready => exact absurd caller unexecuted.called
  | sending => exact .inl ⟨.inl caller, unexecuted.unexecuted⟩
  | waiting => exact .inl ⟨.inr caller, unexecuted.unexecuted⟩
  | returned outcome =>
      cases outcome with
      | missing => exact .inr ⟨_, _, caller, rfl⟩
      | closed => exact .inr ⟨_, _, caller, rfl⟩
      | answer result => exact absurd (replied.answered call result caller) (unexecuted.unexecuted _)
  | tried accepted =>
      have polls : (calls call).waits = false := replied.tried call accepted caller
      rw [unexecuted.waits] at polls
      contradiction

end Protocol

theorem mailbox_protocol (workerId : Nat) (calls : Nat → WorkerCall) (controller : TTRiingQuad) :
    (∀ state, Mailbox.Reached (mailbox calls) controller state → Protocol workerId calls controller state) ∧
    ∀ states acts call, states 0 = { device := controller } →
      Machine.Runs (Mailbox.step (mailbox calls)) states acts → Mailbox.Fair (mailbox calls) states acts call →
      ∀ ended time, Ended calls (states ended) → ended ≤ time → Unexecuted calls (states time) call →
        ∃ later, time ≤ later ∧ ReturnsErr workerId (states later) call := by
  refine ⟨fun state reached => protocol_of_inv reached.inv, ?_⟩
  intro states acts call begins runs fair ended time out late unexecuted
  have reached (time : Nat) : Mailbox.Reached (mailbox calls) controller (states time) := runs.reachable begins time
  have left := Mailbox.over_stays runs (out.out (reached ended).inv.replied) late
  rcases unexecuted.cases (reached time).inv.replied with unserved | told
  · obtain ⟨later, after, closed⟩ := Mailbox.over_leads_to runs fair (reached time).inv left unserved
    exact ⟨later, after, _, _, closed, rfl⟩
  · exact ⟨time, Nat.le_refl _, told⟩

def stopFirst (other : WorkerCall) (call : Nat) : WorkerCall := if call = 0 then .stopWorker else other

theorem mailbox_protocol_behind_stop :
    ∃ states acts, states 0 = { device := quietController } ∧
      Machine.Runs (Mailbox.step (mailbox (stopFirst .ledCount))) states acts ∧
      (states 7).callers 1 = .waiting ∧ Protocol 1 (stopFirst .ledCount) quietController (states 7) ∧
      ∃ later, 7 ≤ later ∧ ReturnsErr 1 (states later) 1 := by
  obtain ⟨last, -, result, ends⟩ :=
    @Machine.run_of_arrives _ _ (Mailbox.step (mailbox (stopFirst .ledCount))) Machine.free _
      { device := quietController }
      [.signal, .call 0, .accept 0, .call 1, .accept 1, .take, .finish, .drop, .receive 1]
      (fun last => last.signalled ∧ last.phase = .gone ∧ last.callers 1 = .returned .closed) (by decide)
  obtain ⟨signalled, gone, closed⟩ := of_decide_eq_true ends
  obtain ⟨states, acts, runs, passes, rests⟩ := Machine.exists_runs result (Mailbox.signal_idle signalled)
  have begins : states 0 = { device := quietController } := (Option.some.inj (passes 0 (Nat.zero_le _))).symm
  obtain ⟨seventh, -, reached, stopped⟩ :=
    @Machine.run_of_arrives _ _ (Mailbox.step (mailbox (stopFirst .ledCount))) Machine.free _
      { device := quietController } [.signal, .call 0, .accept 0, .call 1, .accept 1, .take, .finish]
      (fun state => state.phase = .leaving ∧ state.callers 1 = .waiting ∧ state.executed.map Prod.fst = [0])
      (by decide)
  obtain ⟨leaving, waiting, executed⟩ := of_decide_eq_true stopped
  obtain rfl : seventh = states 7 := Option.some.inj (reached.symm.trans (passes 7 (by decide)))
  have fair : Mailbox.Fair (mailbox (stopFirst .ledCount)) states acts 1 :=
    ⟨Machine.weaklyFair_of_disabled rests (by simp [Mailbox.step, gone]),
      Machine.weaklyFair_of_disabled rests (by simp [Mailbox.step, closed]),
      Machine.weaklyFair_of_disabled rests (by simp [Mailbox.step, closed])⟩
  have unexecuted : Unexecuted (stopFirst .ledCount) (states 7) 1 := by
    refine ⟨by simp [waiting], rfl, fun result served => ?_⟩
    have listed := List.mem_map_of_mem (f := Prod.fst) served
    simp [executed] at listed
  obtain ⟨safe, told⟩ := mailbox_protocol 1 (stopFirst .ledCount) quietController
  exact ⟨states, acts, begins, runs, waiting, safe _ (runs.reachable begins 7),
    told states acts 1 begins runs fair 7 7 (.inr (.inl leaving)) (Nat.le_refl _) unexecuted⟩

/-- A `try_set_speeds` that has returned `true` is not told that its command was dropped behind a `Stop`. -/
theorem dropped_try_is_not_told :
    ∃ state, Mailbox.Reached (mailbox (stopFirst (.trySetSpeeds [(1, 50)]))) quietController state ∧
      state.callers 0 = .returned (.answer (.ok .done)) ∧ 1 ∈ state.accepted ∧ state.callers 1 = .tried true ∧
      ∀ acts after, Machine.run (Mailbox.step (mailbox (stopFirst (.trySetSpeeds [(1, 50)])))) state acts = some after →
        (∀ result, (1, result) ∉ after.executed) ∧ ∀ workerId, ¬ ReturnsErr workerId after 1 := by
  obtain ⟨state, reached, ends⟩ :=
    @Machine.exists_reachable_of_arrives _ _ (Mailbox.step (mailbox (stopFirst (.trySetSpeeds [(1, 50)]))))
      Machine.free _ (fun start => start = { device := quietController }) _ rfl
      [.call 0, .accept 0, .call 1, .take, .finish, .receive 0]
      (fun state => state.callers 0 = .returned (.answer (.ok .done)) ∧ 1 ∈ state.accepted ∧
        state.callers 1 = .tried true ∧ state.executed.map Prod.fst = [0] ∧ state.phase = .leaving) (by decide)
  obtain ⟨stopped, accepted, tried, executed, leaving⟩ := of_decide_eq_true ends
  refine ⟨state, reached, stopped, accepted, tried, fun acts after result => ⟨fun outcome served => ?_, ?_⟩⟩
  · have out : state.Over := .inl leaving
    rw [(out.run result).2.1] at served
    have listed := List.mem_map_of_mem (f := Prod.fst) served
    simp [executed] at listed
  · rintro workerId ⟨outcome, e, returned, -⟩
    rw [Mailbox.tried_run tried result] at returned
    contradiction

end TtRiingd.Drivers
