import TtRiingd.Core.HotReload
import TtRiingd.Library.Machine
import TtRiingd.Providers.Service

/-!
# Many reloads

The request to prepare reaches a service through its mailbox and the decision through the event
channel, and a service takes the next item from either. A commit makes the staged snapshot active,
whatever transaction either belongs to. What goes wrong is then a matter of order: `InOrder` says that
a service takes the commit of a transaction while it holds the snapshot it prepared for it.
-/

namespace TtRiingd.Core
open Drivers Providers

/-! ## The event channel -/

/-- What a receiver has not read yet, and how many events were overwritten before it read them. -/
structure Subscription where
  unread : List Event := []
  missed : Nat := 0

namespace Subscription

def send (capacity : Nat) (event : Event) (subscription : Subscription) : Subscription :=
  let unread := subscription.unread ++ [event]
  if capacity < unread.length then { unread := unread.tail, missed := subscription.missed + 1 }
  else { subscription with unread }

def recv (subscription : Subscription) : Option (RecvResult × Subscription) :=
  if 0 < subscription.missed then some (.lagged subscription.missed, { subscription with missed := 0 })
  else
    match subscription.unread with
    | [] => none
    | event :: unread => some (.event event, { subscription with unread })

end Subscription

/-! ## The services -/

inductive Origin where
  | constructed (config : Config)
  | placeholder
  | prepared (transactionId : Nat) (config : Config)

def Origin.snapshot (service : Service) : Origin → service.Snapshot
  | .constructed config | .prepared _ config => service.build config
  | .placeholder => service.placeholder

def Origin.transaction : Origin → Option Nat
  | .prepared transactionId _ => some transactionId
  | .constructed _ | .placeholder => none

inductive Stage where
  | constructed
  | subscribed
  | registered
  | ended
  deriving DecidableEq

/-- The task of a service. `active` and `staged` name the origins of the two snapshots in its cache. -/
structure Task (service : Service) where
  stage : Stage := .constructed
  cache : service.Cache
  active : Origin
  staged : Origin := .placeholder
  mailbox : List RequestPayload := []
  subscription : Subscription := {}

namespace Task
variable {service : Service}

def new (service : Service) (config : Config) : Task service where
  cache := service.construct config
  active := .constructed config

def receives (task : Task service) : Bool := task.stage = .subscribed ∨ task.stage = .registered

def hear (capacity : Nat) (event : Event) (task : Task service) : Task service :=
  if task.receives then { task with subscription := task.subscription.send capacity event } else task

def enqueue (request : RequestPayload) (task : Task service) : Task service :=
  { task with mailbox := task.mailbox ++ [request] }

def answer (config : Config) (request : RequestPayload) (task : Task service) :
    Except Error Response × Task service :=
  let handled := service.handleEvent config request task.cache
  (handled.1, { task with
    cache := handled.2
    staged :=
      match request with
      | .prepareConfigUpdate transactionId => .prepared transactionId config
      | .other _ => task.staged })

def process (received : RecvResult) (task : Task service) : Task service :=
  match received with
  | .event event =>
      { task with
        cache := service.handleNotify event task.cache
        active :=
          match event with
          | .commitConfigUpdate _ => task.staged
          | _ => task.active }
  | .lagged _ | .closed => task

end Task

/-! ## The protocol -/

structure Transaction where
  id : Nat
  unasked : List ServiceType
  awaiting : List ServiceType
  results : List (ServiceType × Response)

def Transaction.settle (service : ServiceType) (response : Option Response) (transaction : Transaction) :
    Transaction :=
  { transaction with
    awaiting := transaction.awaiting.erase service
    results := transaction.results ++ response.toList.map fun response => (service, response) }

def Transaction.decision (transaction : Transaction) : Event :=
  if (failedServices transaction.results).length = 0 then .commitConfigUpdate transaction.id
  else .rollbackConfigUpdate transaction.id

structure System where
  config : Config
  transactionCounter : Nat
  transaction : Option Transaction
  task : (service : Service) → Task service
  published : List Event

namespace System

def start (config : Config) : System where
  config
  transactionCounter := 1
  transaction := none
  task service := .new service config
  published := []

def setTask (service : Service) (task : Task service) (system : System) : System :=
  { system with task := Function.update system.task service task }

def publish (capacity : Nat) (event : Event) (system : System) : System :=
  { system with
    task := fun service => (system.task service).hear capacity event
    published := system.published ++ [event] }

end System

def targetService : ServiceType → Option Service
  | .monitoring => some .monitoring
  | .fanColor => some .fanColor
  | .broadcast | .coordinator => none

/-- What can happen next. `ask` comes with the outcome of a handler for another target, if there is
one; `emit` is any event published by anyone else. -/
inductive Action where
  | hotReload (file : FileContent)
  | ask (foreign : Option Outcome)
  | decide
  | emit (event : Event)
  | subscribe (service : Service)
  | register (service : Service)
  | request (service : Service) (debug : String)
  | takeRequest (service : Service)
  | takeEvent (service : Service)
  | finish (service : Service)

section Steps
variable (hidapi : Option HidApi) (path : String) (capacity : Nat)

def askNext (foreign : Option Outcome) (transaction : Transaction) (target : ServiceType)
    (rest : List ServiceType) (system : System) : System :=
  match targetService target with
  | some service =>
      if (system.task service).stage = .registered then
        { system.setTask service
            ((system.task service).enqueue (.prepareConfigUpdate transaction.id)) with
          transaction := some { transaction with
            unasked := rest
            awaiting := transaction.awaiting ++ [target] } }
      -- There is no handler, or its mailbox is closed and drops the request.
      else { system with transaction := some { transaction with unasked := rest } }
  | none =>
      { system with
        transaction := some (({ transaction with unasked := rest }).settle target
          (foreign.bind Outcome.kept)) }

def takeRequest (service : Service) (system : System) : Option System :=
  let task := system.task service
  match task.stage, task.mailbox with
  | .registered, request :: mailbox =>
      let answered := { task with mailbox }.answer system.config request
      let system := system.setTask service answered.2
      match request with
      | .prepareConfigUpdate _ =>
          some { system with
            transaction := system.transaction.map
              (.settle service.serviceType (Outcome.replied answered.1).kept) }
      | .other _ => some system
  | _, _ => none

def takeEvent (service : Service) (system : System) : Option System :=
  let task := system.task service
  match task.stage, task.subscription.recv with
  | .registered, some (received, subscription) =>
      some (system.setTask service ({ task with subscription }.process received))
  | _, _ => none

def step (system : System) : Action → Option System
  | .hotReload file =>
      match system.transaction, ConfigManager.loadConfigFromPath hidapi path file with
      | none, .ok config =>
          some { system with
            config
            transactionCounter := (system.transactionCounter + 1) % 2 ^ 64
            transaction := some ⟨system.transactionCounter, prepareTargets, [], []⟩ }
      | none, .error _ => some system
      | some _, _ => none
  | .ask foreign =>
      match system.transaction with
      | some transaction =>
          match transaction.unasked with
          | target :: rest => some (askNext foreign transaction target rest system)
          | [] => none
      | none => none
  | .decide =>
      match system.transaction with
      | some transaction =>
          if transaction.unasked = [] ∧ transaction.awaiting = [] then
            some ({ system with transaction := none }.publish capacity transaction.decision)
          else none
      | none => none
  | .emit event =>
      match event with
      | .commitConfigUpdate _ | .rollbackConfigUpdate _ => none
      | _ => some (system.publish capacity event)
  | .subscribe service =>
      if (system.task service).stage = .constructed then
        some (system.setTask service { system.task service with stage := .subscribed })
      else none
  | .register service =>
      if (system.task service).stage = .subscribed then
        some (system.setTask service { system.task service with stage := .registered })
      else none
  | .request service debug =>
      if (system.task service).stage = .registered then
        some (system.setTask service ((system.task service).enqueue (.other debug)))
      else none
  | .takeRequest service => takeRequest service system
  | .takeEvent service => takeEvent service system
  | .finish service =>
      some { system.setTask service { system.task service with stage := .ended, mailbox := [] } with
        transaction := system.transaction.map (.settle service.serviceType none) }

/-- The steps, one case for each way to take one. -/
inductive Moves (system : System) : Action → System → Prop where
  | reload {file : FileContent} {config : Config} (idle : system.transaction = none)
      (loaded : ConfigManager.loadConfigFromPath hidapi path file = .ok config) :
      Moves system (.hotReload file) { system with
        config
        transactionCounter := (system.transactionCounter + 1) % 2 ^ 64
        transaction := some ⟨system.transactionCounter, prepareTargets, [], []⟩ }
  | unloaded {file : FileContent} : Moves system (.hotReload file) system
  | ask {current : Transaction} {target : ServiceType} {rest : List ServiceType}
      (running : system.transaction = some current) (next : current.unasked = target :: rest)
      (foreign : Option Outcome) :
      Moves system (.ask foreign) (askNext foreign current target rest system)
  | decide {current : Transaction} (running : system.transaction = some current)
      (unasked : current.unasked = []) (awaiting : current.awaiting = []) :
      Moves system .decide ({ system with transaction := none }.publish capacity current.decision)
  | emit {event : Event} (quiet : ∀ transactionId, event ≠ .commitConfigUpdate transactionId) :
      Moves system (.emit event) (system.publish capacity event)
  | subscribe {service : Service} (constructed : (system.task service).stage = .constructed) :
      Moves system (.subscribe service)
        (system.setTask service { system.task service with stage := .subscribed })
  | register {service : Service} (subscribed : (system.task service).stage = .subscribed) :
      Moves system (.register service)
        (system.setTask service { system.task service with stage := .registered })
  | request {service : Service} {debug : String} (registered : (system.task service).stage = .registered) :
      Moves system (.request service debug)
        (system.setTask service ((system.task service).enqueue (.other debug)))
  | prepare {service : Service} {transactionId : Nat} {mailbox : List RequestPayload}
      (queued : (system.task service).mailbox = .prepareConfigUpdate transactionId :: mailbox)
      (response : Option Response) :
      Moves system (.takeRequest service)
        { system.setTask service ({ system.task service with mailbox }.answer system.config
            (.prepareConfigUpdate transactionId)).2 with
          transaction := system.transaction.map (.settle service.serviceType response) }
  | answer {service : Service} {debug : String} {mailbox : List RequestPayload}
      (queued : (system.task service).mailbox = .other debug :: mailbox) :
      Moves system (.takeRequest service)
        (system.setTask service ({ system.task service with mailbox }.answer system.config
          (.other debug)).2)
  | receive {service : Service} {received : RecvResult} {subscription : Subscription}
      (taken : (system.task service).subscription.recv = some (received, subscription)) :
      Moves system (.takeEvent service)
        (system.setTask service ({ system.task service with subscription }.process received))
  | finish {service : Service} :
      Moves system (.finish service)
        { system.setTask service { system.task service with stage := .ended, mailbox := [] } with
          transaction := system.transaction.map (.settle service.serviceType none) }

variable {hidapi path capacity}

theorem takeRequest_moves {system after : System} {service : Service}
    (taken : takeRequest service system = some after) :
    Moves hidapi path capacity system (.takeRequest service) after := by
  unfold takeRequest at taken
  simp only at taken
  split at taken
  · rename_i request mailbox stage queued
    cases request with
    | prepareConfigUpdate transactionId =>
        cases taken
        exact .prepare queued _
    | other debug =>
        cases taken
        exact .answer queued
  · contradiction

theorem takeEvent_moves {system after : System} {service : Service}
    (taken : takeEvent service system = some after) :
    Moves hidapi path capacity system (.takeEvent service) after := by
  unfold takeEvent at taken
  simp only at taken
  split at taken
  · rename_i received subscription stage waiting
    cases taken
    exact .receive waiting
  · contradiction

theorem step_moves {system after : System} {action : Action}
    (stepped : step hidapi path capacity system action = some after) :
    Moves hidapi path capacity system action after := by
  cases action with
  | hotReload file =>
      simp only [step] at stepped
      split at stepped
      · rename_i config idle loaded
        cases stepped
        exact .reload idle loaded
      · cases stepped
        exact .unloaded
      · contradiction
  | ask foreign =>
      simp only [step] at stepped
      split at stepped
      · rename_i current running
        split at stepped
        · rename_i target rest next
          cases stepped
          exact .ask running next foreign
        · contradiction
      · contradiction
  | decide =>
      simp only [step] at stepped
      split at stepped
      · rename_i current running
        split at stepped
        · rename_i done
          cases stepped
          exact .decide running done.1 done.2
        · contradiction
      · contradiction
  | emit event =>
      simp only [step] at stepped
      split at stepped
      · contradiction
      · contradiction
      · rename_i quiet _
        cases stepped
        exact .emit quiet
  | subscribe service =>
      simp only [step, Option.ite_none_right_eq_some, Option.some.injEq] at stepped
      rw [← stepped.2]
      exact .subscribe stepped.1
  | register service =>
      simp only [step, Option.ite_none_right_eq_some, Option.some.injEq] at stepped
      rw [← stepped.2]
      exact .register stepped.1
  | request service debug =>
      simp only [step, Option.ite_none_right_eq_some, Option.some.injEq] at stepped
      rw [← stepped.2]
      exact .request stepped.1
  | takeRequest service => exact takeRequest_moves stepped
  | takeEvent service => exact takeEvent_moves stepped
  | finish service =>
      cases stepped
      exact .finish

end Steps

namespace System

theorem task_setTask (system : System) (service : Service) (task : Task service) :
    (system.setTask service task).task service = task := Function.update_self _ _ _

theorem task_setTask_ne (system : System) {service other : Service} (different : other ≠ service)
    (task : Task service) : (system.setTask service task).task other = system.task other :=
  Function.update_of_ne different _ _

theorem forall_setTask {Holds : (service : Service) → Task service → Prop} {system : System}
    {service : Service} {task : Task service} (changed : Holds service task)
    (others : ∀ other, other ≠ service → Holds other (system.task other)) :
    ∀ other, Holds other ((system.setTask service task).task other) := by
  intro other
  by_cases same : other = service
  · subst same
    rw [task_setTask]
    exact changed
  · rw [task_setTask_ne _ same]
    exact others other same

end System

/-! ## What is active was committed -/

def Approved (published : List Event) : Origin → Prop
  | .constructed _ => True
  | .prepared transactionId _ => .commitConfigUpdate transactionId ∈ published
  | .placeholder => False

def NoUncommitted (system : System) : Prop :=
  ∀ service, Approved system.published (system.task service).active ∧
    service.active (system.task service).cache = (system.task service).active.snapshot service

def Task.upcoming {service : Service} (task : Task service) : Option Event :=
  match task.subscription.recv with
  | some (.event event, _) => some event
  | _ => none

def Origin.Fits (staged : Origin) : Event → Prop
  | .commitConfigUpdate transactionId => staged.transaction = some transactionId
  | _ => True

instance (staged : Origin) : (event : Event) → Decidable (staged.Fits event)
  | .commitConfigUpdate _ => inferInstanceAs (Decidable (_ = _))
  | .temperatureChanged _ | .configReloaded | .configChangeDetected _ | .rollbackConfigUpdate _
  | .deviceConnected .. | .deviceDisconnected .. | .systemShutdown => .isTrue trivial

/-- A service takes a commit only while the last request it prepared is of the same transaction. -/
def InOrder (system : System) : Action → Prop
  | .takeEvent service => ∀ event ∈ (system.task service).upcoming, (system.task service).staged.Fits event
  | _ => True

instance (system : System) : (action : Action) → Decidable (InOrder system action)
  | .takeEvent service =>
      inferInstanceAs (Decidable (∀ event ∈ (system.task service).upcoming,
        (system.task service).staged.Fits event))
  | .hotReload _ | .ask _ | .decide | .emit _ | .subscribe _ | .register _ | .request _ _
  | .takeRequest _ | .finish _ => .isTrue trivial

theorem Subscription.mem_send {capacity : Nat} {event other : Event} {subscription : Subscription}
    (member : other ∈ (subscription.send capacity event).unread) :
    other ∈ subscription.unread ∨ other = event := by
  have appended : other ∈ subscription.unread ++ [event] := by
    unfold Subscription.send at member
    simp only at member
    split at member
    · exact List.mem_of_mem_tail member
    · exact member
  simpa using appended

theorem Subscription.recv_cases {subscription rest : Subscription} {received : RecvResult}
    (taken : subscription.recv = some (received, rest)) :
    (∃ missed, received = .lagged missed ∧ rest.unread = subscription.unread) ∨
      ∃ event, received = .event event ∧ subscription.unread = event :: rest.unread := by
  unfold Subscription.recv at taken
  split at taken
  · cases taken
    exact .inl ⟨_, rfl, rfl⟩
  · split at taken
    · contradiction
    · rename_i event unread waiting
      cases taken
      exact .inr ⟨event, rfl, waiting⟩

theorem Subscription.recv_sublist {subscription rest : Subscription} {received : RecvResult}
    (taken : subscription.recv = some (received, rest)) : rest.unread ⊆ subscription.unread := by
  rcases Subscription.recv_cases taken with ⟨missed, -, same⟩ | ⟨event, -, waiting⟩
  · rw [same]
    exact List.Subset.refl _
  · rw [waiting]
    exact List.subset_cons_self event rest.unread

theorem Task.mem_upcoming {service : Service} {task : Task service} {event : Event} :
    event ∈ task.upcoming ↔ ∃ rest, task.subscription.recv = some (.event event, rest) := by
  unfold Task.upcoming
  split <;> rename_i received
  · simp [received]
  · simp only [Option.mem_def, reduceCtorEq, false_iff]
    rintro ⟨rest, taken⟩
    exact received _ _ taken

theorem Subscription.recv_mem {subscription rest : Subscription} {event : Event}
    (taken : subscription.recv = some (.event event, rest)) : event ∈ subscription.unread := by
  rcases Subscription.recv_cases taken with ⟨missed, lagged, -⟩ | ⟨_, same, waiting⟩
  · contradiction
  · cases same
    simp [waiting]

/-- What every task keeps: its active snapshot is approved, the commits it still has to read were
published, and its cache holds the snapshots that the origins name. -/
structure Task.Sound {service : Service} (published : List Event) (task : Task service) : Prop where
  approved : Approved published task.active
  decided : ∀ transactionId, .commitConfigUpdate transactionId ∈ task.subscription.unread →
    .commitConfigUpdate transactionId ∈ published
  active_data : service.active task.cache = task.active.snapshot service
  staged_data : service.staged task.cache = task.staged.snapshot service

theorem Task.process_quiet {service : Service} {event : Event}
    (quiet : ∀ transactionId, event ≠ .commitConfigUpdate transactionId) (task : Task service) :
    task.process (.event event) = task := by
  unfold Task.process
  cases event with
  | commitConfigUpdate transactionId => exact absurd rfl (quiet transactionId)
  | _ => simp only [service.handleNotify_quiet quiet]

namespace Task.Sound
variable {service : Service} {published : List Event} {task : Task service}

theorem new (service : Service) (config : Config) : (Task.new service config).Sound [] where
  approved := trivial
  decided := fun _ waiting => by simp [Task.new] at waiting
  active_data := service.active_construct config
  staged_data := service.staged_construct config

theorem restaged (sound : task.Sound published) (stage : Stage) (mailbox : List RequestPayload) :
    Task.Sound published { task with stage, mailbox } :=
  ⟨sound.approved, sound.decided, sound.active_data, sound.staged_data⟩

theorem hear (sound : task.Sound published) (capacity : Nat) (event : Event) :
    (task.hear capacity event).Sound (published ++ [event]) := by
  have approved : Approved (published ++ [event]) task.active := by
    have before := sound.approved
    cases origin : task.active with
    | constructed config => trivial
    | placeholder => simp [origin, Approved] at before
    | prepared transactionId config =>
        rw [origin] at before
        exact List.mem_append_left _ before
  unfold Task.hear
  split
  · refine ⟨approved, fun transactionId waiting => ?_, sound.active_data, sound.staged_data⟩
    rcases Subscription.mem_send waiting with before | new
    · exact List.mem_append_left _ (sound.decided transactionId before)
    · simp [new]
  · exact ⟨approved, fun transactionId waiting => List.mem_append_left _ (sound.decided transactionId waiting),
      sound.active_data, sound.staged_data⟩

theorem answer (sound : task.Sound published) (config : Config) (request : RequestPayload) :
    (task.answer config request).2.Sound published := by
  refine ⟨sound.approved, sound.decided, ?_, ?_⟩
  · simpa [Task.answer] using sound.active_data
  · cases request with
    | prepareConfigUpdate transactionId => simp [Task.answer, Origin.snapshot]
    | other debug => simpa [Task.answer] using sound.staged_data

theorem process (sound : task.Sound published) {received : RecvResult} {rest : Subscription}
    (taken : task.subscription.recv = some (received, rest))
    (fits : ∀ event ∈ task.upcoming, task.staged.Fits event) :
    (Task.process received { task with subscription := rest }).Sound published := by
  have decided : ∀ transactionId, .commitConfigUpdate transactionId ∈ rest.unread →
      .commitConfigUpdate transactionId ∈ published := fun transactionId waiting =>
    sound.decided transactionId (Subscription.recv_sublist taken waiting)
  cases received with
  | lagged messages => exact ⟨sound.approved, decided, sound.active_data, sound.staged_data⟩
  | closed => exact ⟨sound.approved, decided, sound.active_data, sound.staged_data⟩
  | event event =>
      by_cases commit : ∃ transactionId, event = .commitConfigUpdate transactionId
      · obtain ⟨transactionId, rfl⟩ := commit
        have staged : task.staged.transaction = some transactionId :=
          fits _ (Task.mem_upcoming.mpr ⟨rest, taken⟩)
        refine ⟨?_, decided, ?_, ?_⟩
        · cases origin : task.staged with
          | constructed config => simp [origin, Origin.transaction] at staged
          | placeholder => simp [origin, Origin.transaction] at staged
          | prepared other config =>
              rw [origin] at staged
              cases staged
              simpa [Task.process, origin, Approved] using
                sound.decided transactionId (Subscription.recv_mem taken)
        · simpa [Task.process] using sound.staged_data
        · simpa [Task.process] using sound.staged_data
      · have quiet : ∀ transactionId, event ≠ .commitConfigUpdate transactionId := fun transactionId same =>
          commit ⟨transactionId, same⟩
        rw [Task.process_quiet quiet]
        exact ⟨sound.approved, decided, sound.active_data, sound.staged_data⟩

end Task.Sound

def System.Sound (system : System) : Prop :=
  ∀ service, (system.task service).Sound system.published

namespace System.Sound
variable {hidapi : Option HidApi} {path : String} {capacity : Nat} {system : System}

theorem setTask (sound : system.Sound) {service : Service} {task : Task service}
    (changed : task.Sound system.published) : (system.setTask service task).Sound :=
  forall_setTask changed fun other _ => sound other

theorem publish (sound : system.Sound) (capacity : Nat) (event : Event) :
    (system.publish capacity event).Sound := fun service => (sound service).hear capacity event

theorem askNext (sound : system.Sound) (foreign : Option Outcome) (transaction : Transaction)
    (target : ServiceType) (rest : List ServiceType) :
    (askNext foreign transaction target rest system).Sound := by
  unfold Core.askNext
  cases targetService target with
  | none => exact sound
  | some service =>
      simp only
      split
      · exact sound.setTask ((sound service).restaged _ _)
      · exact sound

theorem moves (sound : system.Sound) {after : System} {action : Action} (inOrder : InOrder system action)
    (moved : Moves hidapi path capacity system action after) : after.Sound := by
  cases moved with
  | reload idle loaded => exact sound
  | unloaded => exact sound
  | ask running next foreign => exact sound.askNext foreign _ _ _
  | decide running unasked awaiting =>
      have undecided : ({ system with transaction := none } : System).Sound := sound
      exact undecided.publish capacity _
  | emit quiet => exact sound.publish capacity _
  | subscribe constructed => exact sound.setTask ((sound _).restaged _ _)
  | register subscribed => exact sound.setTask ((sound _).restaged _ _)
  | request registered => exact sound.setTask ((sound _).restaged _ _)
  | prepare queued response => exact sound.setTask (((sound _).restaged _ _).answer system.config _)
  | answer queued => exact sound.setTask (((sound _).restaged _ _).answer system.config _)
  | receive taken => exact sound.setTask ((sound _).process taken inOrder)
  | finish => exact sound.setTask ((sound _).restaged _ _)

end System.Sound

abbrev Runs (hidapi : Option HidApi) (path : String) (capacity : Nat) (config : Config)
    (guard : System → Action → Prop) : System → Prop :=
  Machine.Reachable (step hidapi path capacity) (fun first => first = System.start config) guard

theorem noUncommitted_of_inOrder {hidapi : Option HidApi} {path : String} {capacity : Nat} {config : Config}
    {system : System} (reached : Runs hidapi path capacity config InOrder system) : NoUncommitted system := by
  have sound : system.Sound := by
    apply reached.invariant System.Sound
    · rintro first rfl service
      exact .new service config
    · exact fun state action after sound inOrder stepped => sound.moves inOrder (step_moves stepped)
  exact fun service => ⟨(sound service).approved, (sound service).active_data⟩

/-! ### Runs -/

def steadyCurve : FileContent := .parsed { curves := [.constant "steady" 40] }

def asks (file : FileContent) : List Action := [.hotReload file, .ask none, .ask none, .ask none]

def starts (service : Service) : List Action := [.subscribe service, .register service]

def stands (monitoring fanColor : Option Nat) (published : List Event) (system : System) : Bool :=
  (system.task .monitoring).active.transaction = monitoring ∧
    (system.task .fanColor).active.transaction = fanColor ∧ system.published = published

def isPlaceholder : Origin → Bool
  | .placeholder => true
  | _ => false

theorem exists_run (guard : System → Action → Prop) [∀ system action, Decidable (guard system action)]
    (actions : List Action) (test : System → Bool)
    (arrived : Machine.arrives (step none "config.yml" 1000) guard (System.start defaultConfig) actions test =
      true) : ∃ system, Runs none "config.yml" 1000 defaultConfig guard system ∧ test system = true :=
  Machine.exists_reachable_of_arrives (fun first => first = System.start defaultConfig) rfl actions test arrived

theorem noUncommitted_of_inOrder_two_reloads :
    ∃ system, Runs none "config.yml" 1000 defaultConfig InOrder system ∧
      stands (some 2) (some 2) [.commitConfigUpdate 1, .commitConfigUpdate 2] system = true ∧
      NoUncommitted system := by
  obtain ⟨system, reached, ends⟩ :=
    exists_run InOrder
      (starts .monitoring ++ starts .fanColor ++
        asks (.parsed {}) ++ [Action.takeRequest .fanColor, .takeRequest .monitoring, .decide] ++
        [Action.takeEvent .monitoring, .takeEvent .fanColor] ++
        asks steadyCurve ++ [Action.takeRequest .monitoring, .takeRequest .fanColor, .decide] ++
        [Action.takeEvent .monitoring, .takeEvent .fanColor])
      (stands (some 2) (some 2) [.commitConfigUpdate 1, .commitConfigUpdate 2]) (by decide)
  exact ⟨system, reached, ends, noUncommitted_of_inOrder reached⟩

theorem not_noUncommitted_of_unpublished {system : System} {transactionId : Nat}
    (active : (system.task .monitoring).active.transaction = some transactionId)
    (unpublished : .commitConfigUpdate transactionId ∉ system.published) : ¬ NoUncommitted system := by
  intro committed
  have approved := (committed .monitoring).1
  cases origin : (system.task .monitoring).active with
  | constructed config => simp [origin, Origin.transaction] at active
  | placeholder => simp [origin, Origin.transaction] at active
  | prepared other config =>
      rw [origin] at active approved
      cases active
      exact unpublished approved

/-- The monitoring service prepares the second reload before it takes the commit of the first; and
it takes the commit of a reload that found it subscribed, but without a handler. -/
theorem commit_activates_uncommitted :
    (∃ system, Runs none "config.yml" 1000 defaultConfig Machine.free system ∧
      stands (some 2) none [.commitConfigUpdate 1] system = true ∧ ¬ NoUncommitted system) ∧
    ∃ system, Runs none "config.yml" 1000 defaultConfig Machine.free system ∧
      isPlaceholder (system.task .monitoring).active = true ∧ ¬ NoUncommitted system := by
  constructor
  · obtain ⟨system, reached, ends⟩ :=
      exists_run Machine.free
        (starts .monitoring ++ asks (.parsed {}) ++ [Action.takeRequest .monitoring, .decide] ++
          asks steadyCurve ++ [Action.takeRequest .monitoring, .takeEvent .monitoring])
        (stands (some 2) none [.commitConfigUpdate 1]) (by decide)
    refine ⟨system, reached, ends, ?_⟩
    simp only [stands, Bool.decide_and, Bool.and_eq_true, decide_eq_true_eq] at ends
    exact not_noUncommitted_of_unpublished ends.1 (by rw [ends.2.2]; decide)
  · obtain ⟨system, reached, ends⟩ :=
      exists_run Machine.free
        ([Action.subscribe .monitoring] ++ asks (.parsed {}) ++
          [Action.decide, .register .monitoring, .takeEvent .monitoring])
        (fun system => isPlaceholder (system.task .monitoring).active) (by decide)
    refine ⟨system, reached, ends, fun committed => ?_⟩
    have approved := (committed .monitoring).1
    cases origin : (system.task .monitoring).active with
    | placeholder => rwa [origin] at approved
    | _ => simp [origin, isPlaceholder] at ends

end TtRiingd.Core
