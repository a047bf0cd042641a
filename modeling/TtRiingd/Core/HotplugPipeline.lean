import TtRiingd.Core.MainLoop
import TtRiingd.Library.Broadcast
import TtRiingd.Providers.UdevWatcher

/-!
# From udev to the controllers

The monitor thread, the queue behind it, the udev watcher, the bus and the main loop as one machine.
Anything else that happens to be published goes through the same bus. The main loop subscribes after the
services have started, so what the watcher publishes before that does not reach it.
-/

namespace TtRiingd.Core
open Drivers Providers UdevWatcher Broadcast

def Event.hotplug : Event → Option HotplugEvent
  | .deviceConnected vendorId productId serialNumber => some (.connected vendorId productId serialNumber)
  | .deviceDisconnected vendorId productId serialNumber => some (.disconnected vendorId productId serialNumber)
  | _ => none

/-- The events of a pipeline in which the main loop still runs are the history of its parts: `seen` by the
monitor, `unheard` because the main loop had not subscribed, and `received` by the main loop, in `turns`. -/
structure Pipeline where
  monitoring : Bool := true
  watching : Bool := true
  queue : List UdevEventInfo := []
  bus : Channel Event
  position : Option Nat := none
  loop : Standing × World
  first : Nat := 0
  seen : List UdevEvent := []
  unheard : List HotplugEvent := []
  received : List (Received Event) := []
  turns : List Turn := []

namespace Pipeline

inductive Action where
  | kernel (event : Except String UdevEvent)
  | forward (others : Nat)
  | publish (event : Event) (others : Nat)
  | subscribe
  | turn (env : Environment) (meanwhile : ControllerManager → ControllerManager)
  | ctrlC (result : Except String Unit) (env : Environment) (meanwhile : ControllerManager → ControllerManager)

def monitor (event : Except String UdevEvent) (pipeline : Pipeline) : Pipeline :=
  match event with
  | .error _ => { pipeline with monitoring := false }
  | .ok event =>
      let pipeline := { pipeline with seen := pipeline.seen ++ [event] }
      match eventInfo event with
      | none => pipeline
      | some info =>
          -- A send fails when the service has dropped the receiver.
          if pipeline.watching then { pipeline with queue := pipeline.queue ++ [info] }
          else { pipeline with monitoring := false }

/-- `others` are the receivers of other tasks; without any receiver the event is lost. -/
def notify (event : Event) (others : Nat) (pipeline : Pipeline) : Pipeline :=
  { pipeline with
    bus := if 0 < others ∨ pipeline.position.isSome then pipeline.bus.send [event] else pipeline.bus
    unheard := if pipeline.position.isSome then pipeline.unheard
      else pipeline.unheard ++ (Event.hotplug event).toList }

def handleUdevEventInfo (info : UdevEventInfo) (others : Nat) (pipeline : Pipeline) : Pipeline :=
  match busEvent info with
  | none => pipeline
  | some event => pipeline.notify event others

def RecvResult.ofReceived : Received Event → RecvResult
  | .message event => .event event
  | .lagged missed => .lagged missed

def takeTurn (turn : Turn) (pipeline : Pipeline) : Pipeline :=
  let loop := runMainLoop [turn] pipeline.loop.2
  { pipeline with
    loop
    bus := pipeline.bus.send (loop.2.published.drop pipeline.loop.2.published.length)
    turns := pipeline.turns ++ [turn] }

def act (pipeline : Pipeline) : Action → Option Pipeline
  | .kernel event => if pipeline.monitoring then some (pipeline.monitor event) else none
  | .forward others =>
      if pipeline.watching then
        match pipeline.queue with
        | info :: rest => some ({ pipeline with queue := rest }.handleUdevEventInfo info others)
        | [] => if pipeline.monitoring then none else some { pipeline with watching := false }
      else none
  | .publish event others =>
      -- Only the watcher publishes hotplug events.
      match Event.hotplug event with
      | some _ => none
      | none => some (pipeline.notify event others)
  | .subscribe =>
      match pipeline.position with
      | some _ => none
      | none =>
          let last := pipeline.bus.sent.length
          some { pipeline with position := some last, first := last }
  | .turn env meanwhile =>
      match pipeline.position with
      | none => none
      | some position =>
          (pipeline.bus.recv position).map fun answer =>
            { pipeline with position := some answer.2, received := pipeline.received ++ [answer.1] }.takeTurn
              ⟨.received (RecvResult.ofReceived answer.1), env, meanwhile⟩
  | .ctrlC result env meanwhile =>
      match pipeline.position with
      | none => none
      | some _ => some (pipeline.takeTurn ⟨.ctrlC result, env, meanwhile⟩)

def step (pipeline : Pipeline) (action : Action) : Option Pipeline :=
  match pipeline.loop.1 with
  | .waiting => pipeline.act action
  | .ended _ _ => none

def start (capacity : Nat) (world : World) : Pipeline := { bus := { capacity }, loop := (.waiting, world) }

end Pipeline

/-! ## One turn of the loop -/

theorem runMainLoop_snoc {turns : List Turn} {world middle : World}
    (waiting : runMainLoop turns world = (.waiting, middle)) (turn : Turn) :
    runMainLoop (turns ++ [turn]) world = runMainLoop [turn] middle := by
  induction turns generalizing world with
  | nil =>
      cases waiting
      rfl
  | cons first rest ih =>
      rw [List.cons_append]
      unfold runMainLoop at waiting ⊢
      split
      · rename_i input
        simp only [input, endedBy] at waiting
        split at waiting <;> cases waiting
      · rename_i input
        simp only [input] at waiting
        cases waiting
      · rename_i result input
        simp only [input] at waiting
        split
        · rename_i after handled
          rw [handled] at waiting
          exact ih waiting
        · rename_i failed
          split at waiting
          · rename_i after handled
            exact absurd handled (failed _)
          · unfold endedBy at waiting
            split at waiting <;> cases waiting

def NoHotplug (events : List Event) : Prop := ∀ event ∈ events, Event.hotplug event = none

def Publishes (before after : World) : Prop :=
  ∃ events, after.published = before.published ++ events ∧ NoHotplug events

theorem Publishes.of_eq {before after : World} (same : after.published = before.published) :
    Publishes before after := ⟨[], by rw [same, List.append_nil], by simp [NoHotplug]⟩

theorem Publishes.publish {before world : World} (same : world.published = before.published) (receivers : Nat)
    {event : Event} (other : Event.hotplug event = none) : Publishes before (world.publish receivers event) := by
  unfold World.publish
  split
  · exact ⟨[event], by rw [same], by simpa [NoHotplug] using other⟩
  · exact .of_eq same

theorem handleHotReload_publishes (env : Environment) (world : World) :
    Publishes world (handleHotReload env world).state := by
  cases shared : world.sharedState with
  | none =>
      have failed : handleHotReload env world = .error (.error (anyhow "System state not initialized")) world := by
        simp [handleHotReload, shared]
      rw [failed]
      exact .of_eq rfl
  | some state =>
      cases loaded : ConfigManager.loadConfigFromPath env.hidapi world.path env.file with
      | error fault =>
          rw [handleHotReload_unloaded shared loaded]
          exact .of_eq rfl
      | ok config =>
          have same := asked_published env state config world
          rw [handleHotReload_asked shared loaded]
          by_cases refused : Refused env
          · obtain ⟨e, rolled⟩ := secondPhase_rollback refused world.transactionCounter
              (asked env state config world)
            rw [rolled]
            exact .publish same _ rfl
          · rw [secondPhase_commit refused, notify_state]
            exact .publish same _ rfl

theorem withContext_state {α : Type} (message : String) (call : EStateM Fault World α) (world : World) :
    (withContext message call world).state = (call world).state := by
  unfold withContext
  cases call world with
  | ok value after => rfl
  | error fault after => rfl

theorem handleEvent_publishes (env : Environment) (eventResult : RecvResult) (world : World) :
    Publishes world (handleEvent env eventResult world).state := by
  match eventResult with
  | .closed | .lagged _ => exact .of_eq rfl
  | .event (.temperatureChanged _) | .event .configReloaded | .event (.commitConfigUpdate _)
  | .event (.rollbackConfigUpdate _) | .event .systemShutdown => exact .of_eq rfl
  | .event (.configChangeDetected changeType) =>
      simp only [handleEvent, withContext_state]
      cases changeType with
      | hotReload => exact handleHotReload_publishes env world
      | coldRestart sections => exact .of_eq rfl
  | .event (.deviceConnected vendorId productId serialNumber) =>
      simp only [handleEvent, withContext_state, handleDeviceConnected]
      split
      · exact .of_eq rfl
      · split <;> exact .of_eq rfl
  | .event (.deviceDisconnected vendorId productId serialNumber) =>
      simp only [handleEvent, withContext_state, handleDeviceDisconnected]
      split
      · exact .of_eq rfl
      · split <;> exact .of_eq rfl

theorem runMainLoop_one_publishes (turn : Turn) (world : World) :
    Publishes world (runMainLoop [turn] world).2 := by
  have ended (result : EStateM.Result Fault World Unit) : (endedBy turn result).2 = result.state := by
    unfold endedBy
    split <;> rfl
  unfold runMainLoop
  split
  · rw [ended, withContext_state]
    exact .of_eq rfl
  · exact .of_eq rfl
  · rename_i eventResult _
    have publishes := handleEvent_publishes turn.environment eventResult (world.advance turn)
    split
    · rename_i handled
      rw [handled] at publishes
      exact publishes
    · rw [ended]
      exact publishes

/-! ## Where the events are -/

def Turn.hotplug (turn : Turn) : Option HotplugEvent :=
  match turn.input with
  | .received (.event event) => Event.hotplug event
  | _ => none

namespace Pipeline

def infoHotplug (info : UdevEventInfo) : Option HotplugEvent := (busEvent info).bind Event.hotplug

def announcement (event : UdevEvent) : Option HotplugEvent := (eventInfo event).bind infoHotplug

/-- The hotplug events that udev has reported so far, for supported hardware. -/
def announced (pipeline : Pipeline) : List HotplugEvent := pipeline.seen.filterMap announcement

def handled (pipeline : Pipeline) : List HotplugEvent := pipeline.turns.filterMap Turn.hotplug

def queued (pipeline : Pipeline) : List HotplugEvent := pipeline.queue.filterMap infoHotplug

def unread (pipeline : Pipeline) : List HotplugEvent :=
  match pipeline.position with
  | none => []
  | some position => (pipeline.bus.unread position).filterMap Event.hotplug

/-- What was published since the main loop subscribed. -/
def heard (pipeline : Pipeline) : List HotplugEvent :=
  match pipeline.position with
  | none => []
  | some _ => (pipeline.bus.unread pipeline.first).filterMap Event.hotplug

structure Accounted (world : World) (pipeline : Pipeline) : Prop where
  announced : pipeline.announced = pipeline.unheard ++ pipeline.heard ++ pipeline.queued
  watching : pipeline.watching = false → pipeline.monitoring = false
  idle : pipeline.position = none → pipeline.received = []
  reads : ∀ position, pipeline.position = some position →
    Reads pipeline.bus pipeline.first position pipeline.received
  loop : pipeline.loop = runMainLoop pipeline.turns world
  handled : pipeline.handled = (messages pipeline.received).filterMap Event.hotplug

section Steps
variable {world : World} {pipeline after : Pipeline}

theorem monitor_ok (watching : pipeline.watching = true) (event : UdevEvent) :
    pipeline.monitor (.ok event) =
      { pipeline with seen := pipeline.seen ++ [event], queue := pipeline.queue ++ (eventInfo event).toList } := by
  cases found : eventInfo event with
  | none => simp [Pipeline.monitor, found]
  | some info => simp [Pipeline.monitor, found, watching]

theorem Accounted.monitor (accounted : Accounted world pipeline) (monitoring : pipeline.monitoring = true)
    (event : Except String UdevEvent) : Accounted world (pipeline.monitor event) := by
  have watching : pipeline.watching = true := by
    cases watches : pipeline.watching with
    | true => rfl
    | false => exact absurd (accounted.watching watches) (by simp [monitoring])
  cases event with
  | error e => exact ⟨accounted.announced, fun _ => rfl, accounted.idle, accounted.reads, accounted.loop, accounted.handled⟩
  | ok event =>
      rw [monitor_ok watching]
      refine ⟨?_, accounted.watching, accounted.idle, accounted.reads, accounted.loop, accounted.handled⟩
      have last : [event].filterMap announcement = (eventInfo event).toList.filterMap infoHotplug := by
        cases info : eventInfo event <;> simp [announcement, info, List.filterMap_cons]
      calc (pipeline.seen ++ [event]).filterMap announcement
          = pipeline.announced ++ (eventInfo event).toList.filterMap infoHotplug := by
            rw [List.filterMap_append, last, Pipeline.announced]
        _ = pipeline.unheard ++ pipeline.heard ++
              (pipeline.queue ++ (eventInfo event).toList).filterMap infoHotplug := by
            rw [accounted.announced, List.filterMap_append, Pipeline.queued, List.append_assoc]

theorem send_heard {channel : Channel Event} {first position : Nat} {history : List (Received Event)}
    (reads : Reads channel first position history) (event : Event) :
    ((channel.send [event]).unread first).filterMap Event.hotplug =
      (channel.unread first).filterMap Event.hotplug ++ (Event.hotplug event).toList := by
  rw [Channel.unread_send channel [event] reads.since, List.filterMap_append]
  cases hotplug : Event.hotplug event <;> simp [hotplug]

/-- Publishing moves the event behind those that were published before. -/
theorem notify_accounts (event : Event) (others : Nat)
    (reads : ∀ position, pipeline.position = some position →
      Reads pipeline.bus pipeline.first position pipeline.received) :
    (pipeline.notify event others).unheard ++ (pipeline.notify event others).heard =
      pipeline.unheard ++ pipeline.heard ++ (Event.hotplug event).toList := by
  unfold Pipeline.notify Pipeline.heard
  cases receiver : pipeline.position with
  | none => simp
  | some position =>
      simp only [Option.isSome_some, or_true, if_true]
      rw [send_heard (reads position receiver), List.append_assoc]

theorem Accounted.notify {event : Event} (others : Nat) {rest : List UdevEventInfo}
    (accounted : Accounted world pipeline)
    (moved : pipeline.queued = (Event.hotplug event).toList ++ rest.filterMap infoHotplug) :
    Accounted world ({ pipeline with queue := rest }.notify event others) := by
  let waiting : Pipeline := { pipeline with queue := rest }
  refine ⟨?_, accounted.watching, accounted.idle, ?_, accounted.loop, accounted.handled⟩
  · have behind : waiting.unheard ++ waiting.heard = pipeline.unheard ++ pipeline.heard := rfl
    calc pipeline.announced
        = pipeline.unheard ++ pipeline.heard ++ (Event.hotplug event).toList ++ rest.filterMap infoHotplug := by
          rw [accounted.announced, moved, List.append_assoc _ (Event.hotplug event).toList]
      _ = (waiting.notify event others).unheard ++ (waiting.notify event others).heard ++
            (waiting.notify event others).queued := by
          have published := @notify_accounts waiting event others accounted.reads
          rw [published, behind]
          rfl
  · intro position receiver
    have reads := accounted.reads position receiver
    have heard : pipeline.position.isSome = true := by
      rw [show pipeline.position = some position from receiver]
      rfl
    simp only [Pipeline.notify, heard, or_true, if_true]
    exact reads.send [event]

/-! ## Every action keeps the account -/

theorem Accounted.forward {info : UdevEventInfo} {rest : List UdevEventInfo}
    (accounted : Accounted world pipeline) (queue : pipeline.queue = info :: rest) (others : Nat) :
    Accounted world ({ pipeline with queue := rest }.handleUdevEventInfo info others) := by
  have queued : pipeline.queued = (infoHotplug info).toList ++ rest.filterMap infoHotplug := by
    rw [Pipeline.queued, queue]
    cases found : infoHotplug info <;> simp [found]
  unfold handleUdevEventInfo
  cases published : busEvent info with
  | none =>
      refine ⟨?_, accounted.watching, accounted.idle, accounted.reads, accounted.loop, accounted.handled⟩
      have silent : infoHotplug info = none := by rw [infoHotplug, published, Option.bind_none]
      rw [silent, Option.toList_none, List.nil_append] at queued
      have before := accounted.announced
      rw [queued] at before
      exact before
  | some event =>
      have same : infoHotplug info = Event.hotplug event := by rw [infoHotplug, published, Option.bind_some]
      rw [same] at queued
      exact accounted.notify others queued

theorem Accounted.publish {event : Event} (accounted : Accounted world pipeline)
    (other : Event.hotplug event = none) (others : Nat) : Accounted world (pipeline.notify event others) := by
  have queued : pipeline.queued = (Event.hotplug event).toList ++ pipeline.queue.filterMap infoHotplug := by
    rw [other, Option.toList_none, List.nil_append, Pipeline.queued]
  exact accounted.notify others queued

theorem Accounted.subscribe (accounted : Accounted world pipeline) (silent : pipeline.position = none) :
    Accounted world { pipeline with
      position := some pipeline.bus.sent.length
      first := pipeline.bus.sent.length } := by
  refine ⟨?_, accounted.watching, by simp, ?_, accounted.loop, accounted.handled⟩
  · have before := accounted.announced
    have nothing : pipeline.heard = [] := by rw [Pipeline.heard, silent]
    have later : pipeline.bus.unread pipeline.bus.sent.length = [] := List.drop_length
    rw [nothing] at before
    simp only [Pipeline.announced, Pipeline.heard, Pipeline.queued, later, List.filterMap_nil] at before ⊢
    exact before
  · intro position receiver
    cases receiver
    rw [accounted.idle silent]
    exact .subscribe pipeline.bus

theorem takeTurn_accounted {turn : Turn} {position : Nat} (receiver : pipeline.position = some position)
    (announced : pipeline.announced = pipeline.unheard ++ pipeline.heard ++ pipeline.queued)
    (watching : pipeline.watching = false → pipeline.monitoring = false)
    (reads : Reads pipeline.bus pipeline.first position pipeline.received)
    (loop : pipeline.loop = runMainLoop pipeline.turns world) (waiting : pipeline.loop.1 = .waiting)
    (handled : pipeline.handled ++ turn.hotplug.toList = (messages pipeline.received).filterMap Event.hotplug) :
    Accounted world (pipeline.takeTurn turn) := by
  have ran : runMainLoop pipeline.turns world = (.waiting, pipeline.loop.2) := by
    rw [← loop, ← waiting]
  refine ⟨?_, watching, by simp [takeTurn, receiver], ?_, ?_, ?_⟩
  · obtain ⟨events, published, others⟩ := runMainLoop_one_publishes turn pipeline.loop.2
    have same : (pipeline.takeTurn turn).heard = pipeline.heard := by
      have silent : events.filterMap Event.hotplug = [] := List.filterMap_eq_nil_iff.mpr others
      simp only [heard, takeTurn, receiver, published, List.drop_left]
      rw [Channel.unread_send _ _ reads.since, List.filterMap_append, silent, List.append_nil]
    have unchanged : (pipeline.takeTurn turn).announced = pipeline.announced := rfl
    rw [unchanged, announced, same]
    rfl
  · intro other held
    simp only [takeTurn, receiver, Option.some.injEq] at held
    subst held
    exact reads.send _
  · exact (runMainLoop_snoc ran turn).symm
  · have last : [turn].filterMap Turn.hotplug = turn.hotplug.toList := by
      cases found : turn.hotplug <;> simp [found]
    calc (pipeline.turns ++ [turn]).filterMap Turn.hotplug
        = pipeline.handled ++ turn.hotplug.toList := by rw [List.filterMap_append, last, Pipeline.handled]
      _ = (messages pipeline.received).filterMap Event.hotplug := handled

theorem Accounted.act {action : Action} (accounted : Accounted world pipeline) (waiting : pipeline.loop.1 = .waiting)
    (result : pipeline.act action = some after) : Accounted world after := by
  cases action with
  | kernel event =>
      simp only [Pipeline.act, Option.ite_none_right_eq_some, Option.some.injEq] at result
      obtain ⟨monitoring, rfl⟩ := result
      exact accounted.monitor monitoring event
  | forward others =>
      simp only [Pipeline.act, Option.ite_none_right_eq_some] at result
      obtain ⟨-, result⟩ := result
      split at result
      · rename_i info rest queue
        cases result
        exact accounted.forward queue others
      · rename_i queue
        simp only [Option.ite_none_left_eq_some, Bool.not_eq_true, Option.some.injEq] at result
        obtain ⟨stopped, rfl⟩ := result
        exact ⟨accounted.announced, fun _ => stopped, accounted.idle, accounted.reads, accounted.loop,
          accounted.handled⟩
  | publish event others =>
      simp only [Pipeline.act] at result
      split at result
      · contradiction
      · rename_i other
        cases result
        exact accounted.publish other others
  | subscribe =>
      simp only [Pipeline.act] at result
      split at result
      · contradiction
      · rename_i silent
        cases result
        exact accounted.subscribe silent
  | turn env meanwhile =>
      simp only [Pipeline.act] at result
      split at result
      · contradiction
      · rename_i position receiver
        obtain ⟨⟨answer, next⟩, read, rfl⟩ := Option.map_eq_some_iff.mp result
        refine takeTurn_accounted rfl ?_ accounted.watching ((accounted.reads position receiver).recv read)
          accounted.loop waiting ?_
        · have before := accounted.announced
          simp only [Pipeline.announced, Pipeline.heard, Pipeline.queued, receiver] at before ⊢
          exact before
        · have before := accounted.handled
          rw [messages_snoc, List.filterMap_append, ← before]
          congr 1
          cases answer with
          | message event => cases hotplug : Event.hotplug event <;>
              simp [Turn.hotplug, RecvResult.ofReceived, Received.message?, hotplug]
          | lagged missed => rfl
  | ctrlC outcome env meanwhile =>
      simp only [Pipeline.act] at result
      split at result
      · contradiction
      · rename_i position receiver
        cases result
        refine takeTurn_accounted receiver accounted.announced accounted.watching
          (accounted.reads position receiver) accounted.loop waiting ?_
        rw [← accounted.handled]
        exact List.append_nil _

theorem Accounted.step {action : Action} (accounted : Accounted world pipeline)
    (result : pipeline.step action = some after) : Accounted world after := by
  unfold Pipeline.step at result
  split at result
  · rename_i waiting
    exact accounted.act waiting result
  · contradiction

theorem Accounted.start (capacity : Nat) (world : World) : Accounted world (Pipeline.start capacity world) := by
  refine ⟨rfl, fun _ => ?_, fun _ => rfl, ?_, rfl, rfl⟩
  · contradiction
  · intro position receiver
    contradiction

end Steps

/-! ## What reaches the main loop -/

def Reaches (capacity : Nat) (world : World) (guard : Pipeline → Action → Prop) (pipeline : Pipeline) : Prop :=
  Machine.Reachable step (fun first => first = start capacity world) guard pipeline

def Supported : HotplugEvent → Prop
  | .connected vendorId productId _ | .disconnected vendorId productId _ =>
      Registry.isSupportedHardware vendorId productId = true

section Runs
variable {capacity : Nat} {world : World} {pipeline : Pipeline} {guard : Pipeline → Action → Prop}

theorem Reaches.accounted (reaches : Reaches capacity world guard pipeline) : Accounted world pipeline := by
  refine Machine.Reachable.invariant (Accounted world) ?_ ?_ reaches
  · rintro first rfl
    exact .start capacity world
  · exact fun state action after accounted _ result => accounted.step result

theorem handled_sublist_heard (accounted : Accounted world pipeline) :
    pipeline.handled.Sublist pipeline.heard := by
  rw [accounted.handled]
  cases receiver : pipeline.position with
  | none =>
      rw [accounted.idle receiver]
      exact List.nil_sublist _
  | some position =>
      obtain ⟨values, accounts, split⟩ := (accounted.reads position receiver).accounts
      rw [Pipeline.heard, receiver]
      simp only
      rw [split]
      exact (accounts.sublist.trans (List.sublist_append_left _ _)).filterMap _

theorem announcement_supported {event : UdevEvent} {hotplug : HotplugEvent}
    (announces : announcement event = some hotplug) : Supported hotplug := by
  obtain ⟨info, found, published⟩ := Option.bind_eq_some_iff.mp announces
  obtain ⟨-, supported, -⟩ := (eventInfo_eq_some_iff event info).mp found
  obtain ⟨busMessage, sent, same⟩ := Option.bind_eq_some_iff.mp published
  unfold busEvent at sent
  split at sent <;> cases sent
  all_goals
    cases same
    exact supported

theorem handled_in_order (reaches : Reaches capacity world Machine.free pipeline) :
    pipeline.handled.Sublist pipeline.announced ∧ (∀ event ∈ pipeline.handled, Supported event) ∧
      pipeline.loop = runMainLoop pipeline.turns world := by
  have accounted := reaches.accounted
  have ordered : pipeline.handled.Sublist pipeline.announced := by
    rw [accounted.announced, List.append_assoc]
    exact (handled_sublist_heard accounted).trans
      ((List.sublist_append_left _ _).trans (List.sublist_append_right _ _))
  refine ⟨ordered, ?_, accounted.loop⟩
  intro event listed
  obtain ⟨source, -, announces⟩ := List.mem_filterMap.mp (ordered.subset listed)
  exact announcement_supported announces

/-! ## When the main loop keeps up -/

/-- The main loop does not take a turn with more messages before it than the bus retains. -/
def KeepsUp (pipeline : Pipeline) : Action → Prop
  | .turn _ _ => ∀ position, pipeline.position = some position →
      (pipeline.bus.unread position).length ≤ pipeline.bus.capacity
  | _ => True

instance (pipeline : Pipeline) : (action : Action) → Decidable (KeepsUp pipeline action)
  | .turn _ _ => inferInstanceAs (Decidable (∀ position ∈ pipeline.position,
      (pipeline.bus.unread position).length ≤ pipeline.bus.capacity))
  | .kernel _ | .forward _ | .publish _ _ | .subscribe | .ctrlC _ _ _ => .isTrue trivial

def Complete (pipeline : Pipeline) : Prop := ∀ missed, .lagged missed ∉ pipeline.received

theorem Complete.step {after : Pipeline} {action : Action} (complete : Complete pipeline)
    (keepsUp : KeepsUp pipeline action) (result : pipeline.step action = some after) : Complete after := by
  unfold Pipeline.step at result
  split at result
  · cases action with
    | kernel event =>
        simp only [Pipeline.act, Option.ite_none_right_eq_some, Option.some.injEq] at result
        rw [← result.2]
        cases event with
        | error e => exact complete
        | ok event =>
            unfold monitor
            simp only
            split
            · exact complete
            · split <;> exact complete
    | forward others =>
        simp only [Pipeline.act, Option.ite_none_right_eq_some] at result
        obtain ⟨-, result⟩ := result
        split at result
        · cases result
          unfold handleUdevEventInfo
          split <;> exact complete
        · simp only [Option.ite_none_left_eq_some, Option.some.injEq] at result
          rw [← result.2]
          exact complete
    | publish event others =>
        simp only [Pipeline.act] at result
        split at result <;> cases result
        exact complete
    | subscribe =>
        simp only [Pipeline.act] at result
        split at result <;> cases result
        exact complete
    | turn env meanwhile =>
        simp only [Pipeline.act] at result
        split at result
        · contradiction
        · rename_i position receiver
          obtain ⟨⟨answer, next⟩, read, rfl⟩ := Option.map_eq_some_iff.mp result
          obtain ⟨value, rfl⟩ := recv_of_keepsUp (keepsUp position receiver) read
          intro missed listed
          rcases List.mem_append.mp listed with earlier | last
          · exact complete missed earlier
          · simp at last
    | ctrlC outcome env meanwhile =>
        simp only [Pipeline.act] at result
        split at result <;> cases result
        exact complete
  · contradiction

theorem Reaches.complete (reaches : Reaches capacity world KeepsUp pipeline) : Complete pipeline := by
  refine Machine.Reachable.invariant Complete ?_ ?_ reaches
  · rintro first rfl missed listed
    simp [Pipeline.start] at listed
  · exact fun state action after complete keepsUp result => complete.step keepsUp result

end Runs

/-! ## A controller is plugged in -/

/-- A hidraw device without ids of its own, under the USB device that has them. -/
def quadDevice : UdevDevice where
  node := ⟨fun _ => none, fun _ => none⟩
  parents := [⟨fun name =>
    if name = "idVendor" then some (.text "264a") else if name = "idProduct" then some (.text "232b") else none,
    fun _ => none⟩]

def plugIn : List Action :=
  [.subscribe, .publish (.temperatureChanged []) 2, .kernel (.ok ⟨.add, quadDevice⟩), .forward 2,
    .turn (quietTurn .configReloaded).env id,
    .turn { (quietTurn .configReloaded).env with hidapi := some quietApi } id]

def handledOne (pipeline : Pipeline) : Bool :=
  match pipeline.loop.1 with
  | .waiting => pipeline.handled.length = 1
  | .ended _ _ => false

theorem handled_in_order_plugIn : ∃ pipeline, Reaches 1024 runningWorld Machine.free pipeline ∧
    handledOne pipeline = true ∧ (pipeline.handled.Sublist pipeline.announced ∧
      (∀ event ∈ pipeline.handled, Supported event) ∧
      pipeline.loop = runMainLoop pipeline.turns runningWorld) := by
  obtain ⟨pipeline, reaches, plugged⟩ := Machine.exists_reachable_of_arrives
    (fun first => first = start 1024 runningWorld) rfl plugIn handledOne
    (show Machine.arrives step Machine.free _ _ _ = true by decide)
  exact ⟨pipeline, reaches, plugged, handled_in_order reaches⟩

end Pipeline

end TtRiingd.Core
