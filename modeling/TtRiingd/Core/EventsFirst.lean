import TtRiingd.Core.Transactions

/-!
# Services that read their events first

A schedule under which every commit finds the snapshot that was prepared for it: a service reads the
events it has received before it takes a request, and no reload runs while a service starts.
-/

namespace TtRiingd.Core
open Drivers Providers

def EventsFirst (system : System) : Action → Prop
  | .hotReload _ => ∀ service, (system.task service).stage ≠ .subscribed
  | .subscribe _ => system.transaction = none
  | .takeRequest service =>
      ∀ transactionId, .commitConfigUpdate transactionId ∉ (system.task service).subscription.unread
  | _ => True

def isPrepare : RequestPayload → Bool
  | .prepareConfigUpdate _ => true
  | .other _ => false

/-- Where a task is in the reload that runs, if one does: the commits it has to read are of the
transaction it prepared last, its mailbox holds only requests that are waited for, and if it hears the
decision it will have been asked. -/
structure Task.InStep {service : Service} (transaction : Option Transaction) (task : Task service) :
    Prop where
  unread : ∀ transactionId, .commitConfigUpdate transactionId ∈ task.subscription.unread →
    task.staged.transaction = some transactionId
  requested : ∀ transactionId, .prepareConfigUpdate transactionId ∈ task.mailbox →
    ∃ current, transaction = some current ∧ current.id = transactionId
  awaited : ∀ current, transaction = some current →
    task.mailbox.countP isPrepare ≤ current.awaiting.count service.serviceType
  asked : ∀ current, transaction = some current → task.receives = true → task.stage = .registered ∧
    (service.serviceType ∈ current.unasked ∨ service.serviceType ∈ current.awaiting ∨
      task.staged.transaction = some current.id)

theorem serviceType_ne {service other : Service} (different : other ≠ service) :
    other.serviceType ≠ service.serviceType := by
  intro same
  cases service <;> cases other <;> simp_all [Service.serviceType]

theorem serviceType_of_targetService {target : ServiceType} {service : Service}
    (found : targetService target = some service) : service.serviceType = target := by
  cases target <;> simp only [targetService, Option.some.injEq, reduceCtorEq] at found
  · rw [← found]
    rfl
  · rw [← found]
    rfl

theorem serviceType_ne_of_targetService {target : ServiceType} (absent : targetService target = none)
    (service : Service) : service.serviceType ≠ target := by
  rintro rfl
  cases service <;> simp [targetService, Service.serviceType] at absent

namespace Task.InStep
variable {service : Service} {transaction : Option Transaction} {task : Task service}

theorem new (service : Service) (config : Config) : (Task.new service config).InStep none where
  unread := fun _ waiting => by simp [Task.new] at waiting
  requested := fun _ queued => by simp [Task.new] at queued
  awaited := fun _ running => by simp at running
  asked := fun _ running => by simp at running

theorem noPrepare (inStep : task.InStep transaction)
    (quiet : ∀ current, transaction = some current → current.awaiting = []) (transactionId : Nat) :
    .prepareConfigUpdate transactionId ∉ task.mailbox := by
  intro queued
  obtain ⟨current, running, -⟩ := inStep.requested transactionId queued
  have counted := inStep.awaited current running
  rw [quiet current running, List.count_nil, Nat.le_zero, List.countP_eq_zero] at counted
  exact counted _ queued rfl

theorem follow {before after : Transaction} (inStep : task.InStep (some before)) (id : after.id = before.id)
    (awaiting : after.awaiting.count service.serviceType = before.awaiting.count service.serviceType)
    (unasked : service.serviceType ∈ before.unasked → service.serviceType ∈ after.unasked) :
    task.InStep (some after) where
  unread := inStep.unread
  requested := by
    intro transactionId queued
    obtain ⟨current, running, same⟩ := inStep.requested transactionId queued
    cases running
    exact ⟨after, rfl, id.trans same⟩
  awaited := by
    rintro current ⟨⟩
    rw [awaiting]
    exact inStep.awaited before rfl
  asked := by
    rintro current ⟨⟩ receives
    obtain ⟨stage, progress⟩ := inStep.asked before rfl receives
    have waited : service.serviceType ∈ after.awaiting ↔ service.serviceType ∈ before.awaiting := by
      rw [← List.count_pos_iff, awaiting, List.count_pos_iff]
    rw [id, waited]
    exact ⟨stage, progress.imp_left unasked⟩

theorem settleOther (inStep : task.InStep transaction) {other : ServiceType}
    (different : service.serviceType ≠ other) (response : Option Response) :
    task.InStep (transaction.map (.settle other response)) := by
  cases transaction with
  | none => exact inStep
  | some current => exact inStep.follow rfl (List.count_erase_of_ne different) id

theorem begin (inStep : task.InStep none) (started : task.stage ≠ .subscribed) (transactionId : Nat) :
    task.InStep (some ⟨transactionId, prepareTargets, [], []⟩) where
  unread := inStep.unread
  requested := fun other queued => absurd queued (inStep.noPrepare (by simp) other)
  awaited := by
    rintro current ⟨⟩
    have nothing : task.mailbox.countP isPrepare = 0 := by
      rw [List.countP_eq_zero]
      intro request queued prepare
      cases request with
      | prepareConfigUpdate other => exact inStep.noPrepare (by simp) other queued
      | other debug => simp [isPrepare] at prepare
    simp [nothing]
  asked := by
    rintro current ⟨⟩ receives
    simp only [Task.receives, started, false_or, decide_eq_true_eq] at receives
    refine ⟨receives, .inl ?_⟩
    cases service <;> simp [prepareTargets, Service.serviceType]

theorem request {current : Transaction} (inStep : task.InStep (some current)) (rest : List ServiceType) :
    (task.enqueue (.prepareConfigUpdate current.id)).InStep (some { current with
      unasked := rest
      awaiting := current.awaiting ++ [service.serviceType] }) where
  unread := inStep.unread
  requested := by
    intro transactionId queued
    refine ⟨_, rfl, ?_⟩
    simp only [Task.enqueue, List.mem_append, List.mem_singleton,
      RequestPayload.prepareConfigUpdate.injEq] at queued
    rcases queued with before | rfl
    · obtain ⟨same, running, id⟩ := inStep.requested transactionId before
      cases running
      exact id
    · rfl
  awaited := by
    rintro after ⟨⟩
    have counted := inStep.awaited current rfl
    simpa [Task.enqueue, isPrepare] using counted
  asked := by
    rintro after ⟨⟩ receives
    exact ⟨(inStep.asked current rfl receives).1, .inr (.inl (by simp))⟩

theorem requestOther (inStep : task.InStep transaction) (debug : String) :
    (task.enqueue (.other debug)).InStep transaction where
  unread := inStep.unread
  requested := fun transactionId queued => inStep.requested transactionId (by simpa [Task.enqueue] using queued)
  awaited := by
    intro current running
    simpa [Task.enqueue, isPrepare] using inStep.awaited current running
  asked := inStep.asked

theorem skip {current : Transaction} (inStep : task.InStep (some current)) (rest : List ServiceType)
    (unregistered : task.stage ≠ .registered) : task.InStep (some { current with unasked := rest }) where
  unread := inStep.unread
  requested := by
    intro transactionId queued
    obtain ⟨same, running, id⟩ := inStep.requested transactionId queued
    cases running
    exact ⟨_, rfl, id⟩
  awaited := by
    rintro after ⟨⟩
    exact inStep.awaited current rfl
  asked := by
    rintro after ⟨⟩ receives
    exact absurd (inStep.asked current rfl receives).1 unregistered

theorem hearQuiet (inStep : task.InStep transaction) (capacity : Nat) {event : Event}
    (quiet : ∀ transactionId, event ≠ .commitConfigUpdate transactionId) :
    (task.hear capacity event).InStep transaction := by
  unfold Task.hear
  split
  · refine ⟨fun transactionId waiting => ?_, inStep.requested, inStep.awaited, inStep.asked⟩
    rcases Subscription.mem_send waiting with before | new
    · exact inStep.unread transactionId before
    · exact absurd new.symm (quiet transactionId)
  · exact inStep

theorem hearDecision {current : Transaction} (inStep : task.InStep (some current))
    (unasked : current.unasked = []) (awaiting : current.awaiting = []) (capacity : Nat) :
    (task.hear capacity current.decision).InStep none := by
  have finished : task.InStep none := by
    refine ⟨inStep.unread, fun transactionId queued => ?_, by simp, by simp⟩
    exact absurd queued (inStep.noPrepare (by rintro _ ⟨⟩; exact awaiting) transactionId)
  unfold Task.hear
  split
  · rename_i receives
    refine ⟨fun transactionId waiting => ?_, finished.requested, by simp, by simp⟩
    rcases Subscription.mem_send waiting with before | new
    · exact inStep.unread transactionId before
    -- Everyone was asked and has answered, so the commit is of what was prepared last.
    · have prepared := (inStep.asked current rfl receives).2
      simp only [unasked, awaiting, List.not_mem_nil, false_or] at prepared
      unfold Transaction.decision at new
      split at new
      · cases new
        exact prepared
      · contradiction
  · exact finished

theorem prepare {mailbox : List RequestPayload} {transactionId : Nat} (inStep : task.InStep transaction)
    (queued : task.mailbox = .prepareConfigUpdate transactionId :: mailbox)
    (read : ∀ other, .commitConfigUpdate other ∉ task.subscription.unread) (config : Config)
    (response : Option Response) :
    (Task.answer config (.prepareConfigUpdate transactionId) { task with mailbox }).2.InStep
      (transaction.map (.settle service.serviceType response)) where
  unread := fun other waiting => absurd waiting (read other)
  requested := by
    intro other waiting
    have before : .prepareConfigUpdate other ∈ task.mailbox := by
      rw [queued]
      exact List.mem_cons_of_mem _ waiting
    obtain ⟨current, running, id⟩ := inStep.requested other before
    exact ⟨current.settle service.serviceType response, by rw [running]; rfl, id⟩
  awaited := by
    intro after settled
    obtain ⟨current, running, rfl⟩ := Option.map_eq_some_iff.mp settled
    have counted := inStep.awaited current running
    rw [queued, List.countP_cons_of_pos rfl] at counted
    change mailbox.countP isPrepare ≤ (current.awaiting.erase service.serviceType).count service.serviceType
    rw [List.count_erase_self]
    omega
  asked := by
    intro after settled receives
    obtain ⟨current, running, rfl⟩ := Option.map_eq_some_iff.mp settled
    refine ⟨(inStep.asked current running receives).1, .inr (.inr ?_)⟩
    obtain ⟨same, running', id⟩ := inStep.requested transactionId (by rw [queued]; simp)
    rw [running] at running'
    cases running'
    simp [Task.answer, Origin.transaction, Transaction.settle, id]

theorem answerOther {mailbox : List RequestPayload} {debug : String} (inStep : task.InStep transaction)
    (queued : task.mailbox = .other debug :: mailbox) (config : Config) :
    (Task.answer config (.other debug) { task with mailbox }).2.InStep transaction where
  unread := inStep.unread
  requested := fun transactionId waiting => inStep.requested transactionId (by
    rw [queued]
    exact List.mem_cons_of_mem _ waiting)
  awaited := by
    intro current running
    have counted := inStep.awaited current running
    rwa [queued, List.countP_cons_of_neg (by simp [isPrepare])] at counted
  asked := inStep.asked

theorem process (inStep : task.InStep transaction) {received : RecvResult} {rest : Subscription}
    (taken : task.subscription.recv = some (received, rest)) :
    (Task.process received { task with subscription := rest }).InStep transaction := by
  have unread : ∀ transactionId, .commitConfigUpdate transactionId ∈ rest.unread →
      task.staged.transaction = some transactionId := fun transactionId waiting =>
    inStep.unread transactionId (Subscription.recv_sublist taken waiting)
  cases received with
  | event event => exact ⟨unread, inStep.requested, inStep.awaited, inStep.asked⟩
  | lagged messages => exact ⟨unread, inStep.requested, inStep.awaited, inStep.asked⟩
  | closed => exact ⟨unread, inStep.requested, inStep.awaited, inStep.asked⟩

end Task.InStep

def System.InStep (system : System) : Prop :=
  ∀ service, (system.task service).InStep system.transaction

namespace System.InStep
variable {hidapi : Option HidApi} {path : String} {capacity : Nat} {system : System}

theorem setTask (inStep : system.InStep) {service : Service} {task : Task service}
    (changed : task.InStep system.transaction) : (system.setTask service task).InStep :=
  forall_setTask changed fun other _ => inStep other

theorem settle (inStep : system.InStep) {service : Service} {task : Task service}
    {response : Option Response}
    (changed : task.InStep (system.transaction.map (.settle service.serviceType response))) :
    ({ system.setTask service task with
      transaction := system.transaction.map (.settle service.serviceType response) } : System).InStep :=
  forall_setTask changed fun other different =>
    (inStep other).settleOther (serviceType_ne different) response

theorem askNext (inStep : system.InStep) {current : Transaction} (running : system.transaction = some current)
    {target : ServiceType} {rest : List ServiceType} (next : current.unasked = target :: rest)
    (foreign : Option Outcome) : (askNext foreign current target rest system).InStep := by
  have inStep : ∀ service, (system.task service).InStep (some current) := running ▸ inStep
  have leaves {service : Service} (different : service.serviceType ≠ target)
      (asked : service.serviceType ∈ current.unasked) : service.serviceType ∈ rest := by
    rw [next] at asked
    exact (List.mem_cons.mp asked).resolve_left different
  unfold Core.askNext
  cases found : targetService target with
  | none =>
      intro service
      have different := serviceType_ne_of_targetService found service
      exact (inStep service).follow rfl (List.count_erase_of_ne different) (leaves different)
  | some service =>
      have type := serviceType_of_targetService found
      have others {other : Service} (same : other ≠ service) : other.serviceType ≠ target :=
        type ▸ serviceType_ne same
      simp only
      split
      · apply forall_setTask
        · rw [← type]
          exact (inStep service).request rest
        · intro other same
          refine (inStep other).follow rfl ?_ (leaves (others same))
          simp [List.count_append, (others same).symm]
      · rename_i unregistered
        intro other
        by_cases same : other = service
        · subst same
          exact (inStep other).skip rest unregistered
        · exact (inStep other).follow rfl rfl (leaves (others same))

theorem moves (inStep : system.InStep) {after : System} {action : Action} (first : EventsFirst system action)
    (moved : Moves hidapi path capacity system action after) : after.InStep := by
  cases moved with
  | reload idle loaded => exact fun service => (idle ▸ inStep service).begin (first service) _
  | unloaded => exact inStep
  | ask running next foreign => exact inStep.askNext running next foreign
  | decide running unasked awaiting =>
      exact fun service => (running ▸ inStep service).hearDecision unasked awaiting capacity
  | emit quiet => exact fun service => (inStep service).hearQuiet capacity quiet
  | @subscribe service constructed =>
      have before := inStep service
      have idle : system.transaction = none := first
      refine inStep.setTask ⟨before.unread, before.requested, before.awaited, ?_⟩
      intro current running
      simp [idle] at running
  | @register service subscribed =>
      have before := inStep service
      refine inStep.setTask ⟨before.unread, before.requested, before.awaited, ?_⟩
      -- A service that has subscribed before a reload has a handler, so no reload runs.
      intro current running receives
      have registered := (before.asked current running (by simp [Task.receives, subscribed])).1
      rw [subscribed] at registered
      contradiction
  | @request service debug registered => exact inStep.setTask ((inStep service).requestOther debug)
  | @prepare service transactionId mailbox queued response =>
      exact inStep.settle ((inStep service).prepare queued first system.config response)
  | @answer service debug mailbox queued =>
      exact inStep.setTask ((inStep service).answerOther queued system.config)
  | receive taken => exact inStep.setTask ((inStep _).process taken)
  | @finish service =>
      have before := inStep service
      refine inStep.settle ⟨before.unread, by simp, by simp, ?_⟩
      intro current running receives
      simp [Task.receives] at receives

theorem inOrder (inStep : system.InStep) (action : Action) : InOrder system action := by
  cases action with
  | takeEvent service =>
      intro event next
      obtain ⟨rest, taken⟩ := Task.mem_upcoming.mp next
      cases event with
      | commitConfigUpdate transactionId =>
          exact (inStep service).unread transactionId (Subscription.recv_mem taken)
      | _ => trivial
  | _ => trivial

end System.InStep

theorem inOrder_of_eventsFirst {hidapi : Option HidApi} {path : String} {capacity : Nat} {config : Config}
    {system : System} (reached : Runs hidapi path capacity config EventsFirst system) :
    Runs hidapi path capacity config InOrder system := by
  apply reached.relax System.InStep
  · rintro first rfl service
    exact .new service config
  · exact fun state action after inStep first stepped => inStep.moves first (step_moves stepped)
  · exact fun state action inStep _ => inStep.inOrder action

end TtRiingd.Core
