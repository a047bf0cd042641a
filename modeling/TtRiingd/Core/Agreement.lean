import TtRiingd.Core.EventsFirst
import TtRiingd.Core.Restart

/-!
# The two services agree

A service that has read everything should run on the configuration committed last. It does when it has
prepared every commit that is decided, reads a commit before it prepares again, and loses none to an
overflow of its event channel.
-/

namespace TtRiingd.Core
open Drivers Providers

def isCommit : Event → Bool
  | .commitConfigUpdate _ => true
  | _ => false

def Origin.config : Origin → Option Config
  | .constructed config | .prepared _ config => some config
  | .placeholder => none

/-- The system with the configuration of the last transaction that was committed. -/
structure Ledger where
  system : System
  committed : Config

def Ledger.start (config : Config) : Ledger := ⟨.start config, config⟩

def System.commits (system : System) : Action → Bool
  | .decide => system.transaction.any fun transaction => isCommit transaction.decision
  | _ => false

section Steps
variable (hidapi : Option HidApi) (path : String) (capacity : Nat)

def advance (ledger : Ledger) (action : Action) : Option Ledger :=
  (step hidapi path capacity ledger.system action).map fun system =>
    { system
      -- No file is loaded while a transaction runs.
      committed := if ledger.system.commits action then ledger.system.config else ledger.committed }

end Steps

def Task.Drained {service : Service} (task : Task service) : Prop :=
  task.stage = .registered ∧ task.mailbox = [] ∧ task.subscription.recv = none

def Agreed (ledger : Ledger) : Prop :=
  (∀ service, (ledger.system.task service).Drained) → ∀ service,
    (ledger.system.task service).active.config = some ledger.committed ∧
      service.active (ledger.system.task service).cache = service.build ledger.committed

/-! ## When no commit is lost -/

/-- Sending the event does not push a commit out of the channel. -/
def Task.KeepsCommits {service : Service} (capacity : Nat) (event : Event) (task : Task service) : Prop :=
  task.receives = true → capacity < (task.subscription.unread ++ [event]).length →
    ∀ lost ∈ (task.subscription.unread ++ [event]).head?, isCommit lost = false

deriving instance DecidableEq for Origin

def Task.TakesPart {service : Service} (transaction : Transaction) (config : Config) (task : Task service) :
    Prop :=
  task.stage = .ended ∨ task.stage = .registered ∧ task.staged = .prepared transaction.id config

/-- Every commit is decided with all services that have not ended, no channel overflows onto a commit,
and a service prepares only when it has no commit to read. -/
def DeliversCommits (capacity : Nat) (ledger : Ledger) : Action → Prop
  | .takeRequest service =>
      ∀ request ∈ (ledger.system.task service).mailbox.head?, isPrepare request = true →
        ∀ event ∈ (ledger.system.task service).subscription.unread, isCommit event = false
  | .emit event => ∀ service, (ledger.system.task service).KeepsCommits capacity event
  | .decide => ∀ transaction ∈ ledger.system.transaction, ∀ service,
      (ledger.system.task service).KeepsCommits capacity transaction.decision ∧
        (isCommit transaction.decision = true →
          (ledger.system.task service).TakesPart transaction ledger.system.config)
  | _ => True

section Decidable
variable (capacity : Nat)

instance {p : Service → Prop} [DecidablePred p] : Decidable (∀ service, p service) :=
  decidable_of_iff (p .monitoring ∧ p .fanColor)
    ⟨fun both service => service.rec both.1 both.2, fun all => ⟨all .monitoring, all .fanColor⟩⟩

instance {service : Service} (event : Event) (task : Task service) : Decidable (task.KeepsCommits capacity event) :=
  inferInstanceAs (Decidable (_ → _ → ∀ lost ∈ (task.subscription.unread ++ [event]).head?, _))

instance {service : Service} (transaction : Transaction) (config : Config) (task : Task service) :
    Decidable (task.TakesPart transaction config) := inferInstanceAs (Decidable (_ ∨ _ ∧ _))

instance (ledger : Ledger) : (action : Action) → Decidable (DeliversCommits capacity ledger action)
  | .takeRequest service =>
      inferInstanceAs (Decidable (∀ request ∈ (ledger.system.task service).mailbox.head?, _ →
        ∀ event ∈ (ledger.system.task service).subscription.unread, _))
  | .emit _ => inferInstanceAs (Decidable (∀ _ : Service, _))
  | .decide => inferInstanceAs (Decidable (∀ transaction ∈ ledger.system.transaction, ∀ _ : Service, _))
  | .hotReload _ | .ask _ | .subscribe _ | .register _ | .request _ _ | .takeEvent _ | .finish _ => .isTrue trivial

end Decidable

/-! ## What a service that has not ended keeps -/

structure Task.UpToDate {service : Service} (committed : Config) (task : Task service) : Prop where
  pending : ∀ transactionId, .commitConfigUpdate transactionId ∈ task.subscription.unread →
    task.staged = .prepared transactionId committed
  settled : (∀ event ∈ task.subscription.unread, isCommit event = false) →
    task.active.config = some committed

theorem isCommit_iff {event : Event} :
    isCommit event = true ↔ ∃ transactionId, event = .commitConfigUpdate transactionId := by
  cases event <;> simp [isCommit]

theorem isCommit_eq_false {event : Event} :
    isCommit event = false ↔ ∀ transactionId, event ≠ .commitConfigUpdate transactionId := by
  rw [← Bool.not_eq_true, isCommit_iff, not_exists]

theorem Subscription.commit_mem_send {capacity : Nat} {event : Event} {subscription : Subscription}
    (keeps : capacity < (subscription.unread ++ [event]).length →
      ∀ lost ∈ (subscription.unread ++ [event]).head?, isCommit lost = false) (transactionId : Nat) :
    .commitConfigUpdate transactionId ∈ (subscription.send capacity event).unread ↔
      .commitConfigUpdate transactionId ∈ subscription.unread ∨ .commitConfigUpdate transactionId = event := by
  rw [← List.mem_singleton, ← List.mem_append]
  simp only [Subscription.send]
  split
  · rename_i overflow
    cases queue : subscription.unread ++ [event] with
    | nil => simp at queue
    | cons lost rest =>
        have quiet := keeps overflow lost (by rw [queue]; rfl)
        have other : .commitConfigUpdate transactionId ≠ lost :=
          (isCommit_eq_false.mp quiet transactionId).symm
        rw [List.tail_cons, List.mem_cons, or_iff_right other]
  · rfl

theorem Subscription.unread_of_recv {subscription : Subscription} (empty : subscription.recv = none) :
    subscription.unread = [] := by
  unfold Subscription.recv at empty
  split at empty
  · contradiction
  · split at empty
    · assumption
    · contradiction

namespace Task.UpToDate
variable {service : Service} {committed : Config} {task : Task service}

theorem new (service : Service) (config : Config) : (Task.new service config).UpToDate config where
  pending := fun _ waiting => by simp [Task.new] at waiting
  settled := fun _ => rfl

theorem restaged (upToDate : task.UpToDate committed) (stage : Stage) (mailbox : List RequestPayload) :
    Task.UpToDate committed { task with stage, mailbox } := ⟨upToDate.pending, upToDate.settled⟩

theorem hearQuiet (upToDate : task.UpToDate committed) {capacity : Nat} {event : Event}
    (keeps : task.KeepsCommits capacity event) (quiet : isCommit event = false) :
    (task.hear capacity event).UpToDate committed := by
  unfold Task.hear
  split
  · rename_i receives
    have same (transactionId : Nat) := Subscription.commit_mem_send (keeps receives) transactionId
    constructor
    · intro transactionId waiting
      rcases (same transactionId).mp waiting with before | sent
      · exact upToDate.pending transactionId before
      · exact absurd sent.symm (isCommit_eq_false.mp quiet transactionId)
    · intro nothing
      apply upToDate.settled
      intro waiting member
      by_contra commit
      obtain ⟨transactionId, rfl⟩ := isCommit_iff.mp (Bool.not_eq_false _ ▸ commit)
      have still := nothing _ ((same transactionId).mpr (.inl member))
      contradiction
  · exact upToDate

theorem hearCommit (upToDate : task.UpToDate committed) {capacity transactionId : Nat} {config : Config}
    (keeps : task.KeepsCommits capacity (.commitConfigUpdate transactionId))
    (registered : task.stage = .registered) (staged : task.staged = .prepared transactionId config) :
    (task.hear capacity (.commitConfigUpdate transactionId)).UpToDate config := by
  have receives : task.receives = true := by simp [Task.receives, registered]
  have same (other : Nat) := Subscription.commit_mem_send (keeps receives) other
  unfold Task.hear
  rw [if_pos receives]
  constructor
  · intro other waiting
    rcases (same other).mp waiting with before | sent
    · have older := upToDate.pending other before
      rw [staged] at older
      cases older
      exact staged
    · cases sent
      exact staged
  · intro nothing
    have waiting := nothing _ ((same transactionId).mpr (.inr rfl))
    contradiction

theorem prepare (upToDate : task.UpToDate committed) (config : Config) (request : RequestPayload)
    (quiet : isPrepare request = true → ∀ event ∈ task.subscription.unread, isCommit event = false) :
    (task.answer config request).2.UpToDate committed := by
  cases request with
  | other debug => exact ⟨upToDate.pending, upToDate.settled⟩
  | prepareConfigUpdate transactionId =>
      constructor
      · intro other waiting
        have commit := quiet rfl _ waiting
        contradiction
      · exact upToDate.settled

theorem process (upToDate : task.UpToDate committed) {received : RecvResult} {rest : Subscription}
    (taken : task.subscription.recv = some (received, rest)) :
    (Task.process received { task with subscription := rest }).UpToDate committed := by
  rcases Subscription.recv_cases taken with ⟨missed, rfl, same⟩ | ⟨event, rfl, waiting⟩
  · constructor
    · intro transactionId member
      exact upToDate.pending transactionId (same ▸ member)
    · intro nothing
      exact upToDate.settled (same ▸ nothing)
  · by_cases commit : isCommit event = true
    · obtain ⟨transactionId, rfl⟩ := isCommit_iff.mp commit
      have staged := upToDate.pending transactionId (by simp [waiting])
      constructor
      · intro other member
        exact upToDate.pending other (waiting ▸ .tail _ member)
      · intro nothing
        change task.staged.config = some committed
        rw [staged]
        rfl
    · rw [Bool.not_eq_true] at commit
      rw [Task.process_quiet (isCommit_eq_false.mp commit)]
      constructor
      · intro transactionId member
        exact upToDate.pending transactionId (waiting ▸ .tail _ member)
      · intro nothing
        exact upToDate.settled (waiting ▸ List.forall_mem_cons.mpr ⟨commit, nothing⟩)

end Task.UpToDate

/-! ## Runs -/

def Ledger.UpToDate (ledger : Ledger) : Prop :=
  ∀ service, (ledger.system.task service).stage ≠ .ended →
    (ledger.system.task service).UpToDate ledger.committed

namespace Ledger.UpToDate
variable {hidapi : Option HidApi} {path : String} {capacity : Nat} {system : System} {committed : Config}

theorem setTask (upToDate : Ledger.UpToDate ⟨system, committed⟩) {service : Service} {task : Task service}
    (changed : task.stage ≠ .ended → task.UpToDate committed) :
    Ledger.UpToDate ⟨system.setTask service task, committed⟩ :=
  @System.forall_setTask (fun _ task => task.stage ≠ .ended → task.UpToDate committed) system service task
    changed fun other _ => upToDate other

theorem askNext (upToDate : Ledger.UpToDate ⟨system, committed⟩) (foreign : Option Outcome)
    (transaction : Transaction) (target : ServiceType) (rest : List ServiceType) :
    Ledger.UpToDate ⟨askNext foreign transaction target rest system, committed⟩ := by
  unfold Core.askNext
  cases targetService target with
  | none => exact upToDate
  | some service =>
      simp only
      split
      · exact upToDate.setTask fun running => (upToDate service running).restaged _ _
      · exact upToDate

theorem hear_stage {service : Service} (capacity : Nat) (event : Event) (task : Task service) :
    (task.hear capacity event).stage = task.stage := by
  unfold Task.hear
  split <;> rfl

theorem process_stage {service : Service} (received : RecvResult) (task : Task service) :
    (task.process received).stage = task.stage := by
  cases received <;> rfl

theorem publish (upToDate : Ledger.UpToDate ⟨system, committed⟩) {event : Event}
    (keeps : ∀ service, (system.task service).KeepsCommits capacity event) (quiet : isCommit event = false) :
    Ledger.UpToDate ⟨system.publish capacity event, committed⟩ := by
  intro service running
  exact (upToDate service (hear_stage capacity event _ ▸ running)).hearQuiet (keeps service) quiet

theorem decide (upToDate : Ledger.UpToDate ⟨system, committed⟩) {current : Transaction}
    (commit : isCommit current.decision = true)
    (takesPart : ∀ service, (system.task service).KeepsCommits capacity current.decision ∧
      (system.task service).TakesPart current system.config) :
    Ledger.UpToDate ⟨{ system with transaction := none }.publish capacity current.decision, system.config⟩ := by
  have decision : current.decision = .commitConfigUpdate current.id := by
    unfold Transaction.decision at commit ⊢
    split
    · rfl
    · rename_i failures
      rw [if_neg failures] at commit
      contradiction
  rw [decision] at takesPart ⊢
  intro service running
  have running : (system.task service).stage ≠ .ended := hear_stage capacity _ (system.task service) ▸ running
  obtain ⟨keeps, ended | ⟨registered, staged⟩⟩ := takesPart service
  · contradiction
  · exact (upToDate service running).hearCommit keeps registered staged

theorem moves {ledger : Ledger} (upToDate : ledger.UpToDate) {after : System} {action : Action}
    (delivers : DeliversCommits capacity ledger action)
    (moved : Moves hidapi path capacity ledger.system action after) :
    Ledger.UpToDate
      ⟨after, if ledger.system.commits action then ledger.system.config else ledger.committed⟩ := by
  cases moved with
  | reload idle loaded => exact upToDate
  | unloaded => exact upToDate
  | ask running next foreign => exact upToDate.askNext foreign _ _ _
  | emit quiet => exact upToDate.publish delivers (isCommit_eq_false.mpr quiet)
  | subscribe constructed =>
      exact upToDate.setTask fun _ => (upToDate _ (by simp [constructed])).restaged _ _
  | register subscribed =>
      exact upToDate.setTask fun _ => (upToDate _ (by simp [subscribed])).restaged _ _
  | request registered =>
      exact upToDate.setTask fun running => (upToDate _ running).restaged _ _
  | prepare queued response =>
      refine upToDate.setTask fun running => ((upToDate _ running).restaged _ _).prepare _ _ fun prepares => ?_
      exact delivers _ (by rw [queued]; rfl) prepares
  | answer queued =>
      refine upToDate.setTask fun running => ((upToDate _ running).restaged _ _).prepare _ _ fun prepares => ?_
      contradiction
  | @receive service received rest taken =>
      apply upToDate.setTask
      intro running
      rw [process_stage] at running
      exact (upToDate service running).process taken
  | finish => exact upToDate.setTask fun running => absurd rfl running
  | @decide current running unasked awaiting =>
      have guarded := delivers current running
      have commits : ledger.system.commits .decide = isCommit current.decision := by
        simp only [System.commits, running, Option.any_some]
      rw [commits]
      by_cases commit : isCommit current.decision = true
      · rw [if_pos commit]
        exact upToDate.decide commit fun service => ⟨(guarded service).1, (guarded service).2 commit⟩
      · rw [if_neg commit]
        have idle : Ledger.UpToDate ⟨{ ledger.system with transaction := none }, ledger.committed⟩ := upToDate
        exact idle.publish (fun service => (guarded service).1) (Bool.not_eq_true _ ▸ commit)

end Ledger.UpToDate

theorem takeEvent_registered {system after : System} {service : Service}
    (taken : takeEvent service system = some after) : (system.task service).stage = .registered := by
  unfold takeEvent at taken
  simp only at taken
  split at taken
  · assumption
  · contradiction

theorem Ledger.UpToDate.inOrder {hidapi : Option HidApi} {path : String} {capacity : Nat} {ledger : Ledger}
    {after : System} {action : Action} (upToDate : ledger.UpToDate)
    (stepped : step hidapi path capacity ledger.system action = some after) :
    InOrder ledger.system action := by
  cases action with
  | takeEvent service =>
      intro event upcoming
      have registered := takeEvent_registered stepped
      obtain ⟨rest, taken⟩ := Task.mem_upcoming.mp upcoming
      cases event with
      | commitConfigUpdate transactionId =>
          have staged := (upToDate service (by simp [registered])).pending transactionId
            (Subscription.recv_mem taken)
          change (ledger.system.task service).staged.transaction = some transactionId
          rw [staged]
          rfl
      | _ => trivial
  | _ => trivial

theorem advance_some {hidapi : Option HidApi} {path : String} {capacity : Nat} {ledger after : Ledger}
    {action : Action} (advanced : advance hidapi path capacity ledger action = some after) :
    ∃ system, step hidapi path capacity ledger.system action = some system ∧ after = ⟨system,
      if ledger.system.commits action then ledger.system.config else ledger.committed⟩ := by
  obtain ⟨system, stepped, same⟩ := Option.map_eq_some_iff.mp advanced
  exact ⟨system, stepped, same.symm⟩

theorem agreed_of_deliversCommits {hidapi : Option HidApi} {path : String} {capacity : Nat} {config : Config}
    {ledger : Ledger} (reached : Machine.Reachable (advance hidapi path capacity)
      (fun first => first = Ledger.start config) (DeliversCommits capacity) ledger) : Agreed ledger := by
  have kept : ledger.system.Sound ∧ ledger.UpToDate := by
    refine reached.invariant (fun state => state.system.Sound ∧ state.UpToDate) ?_ ?_
    · rintro first rfl
      exact ⟨fun service => .new service config, fun service _ => .new service config⟩
    · intro state action after inv delivers advanced
      obtain ⟨system, stepped, rfl⟩ := advance_some advanced
      have moved := step_moves stepped
      exact ⟨inv.1.moves (inv.2.inOrder stepped) moved, inv.2.moves delivers moved⟩
  intro drained service
  obtain ⟨registered, -, empty⟩ := drained service
  have settled := (kept.2 service (by simp [registered])).settled
  rw [Subscription.unread_of_recv empty] at settled
  have origin := settled (by simp)
  refine ⟨origin, ?_⟩
  rw [(kept.1 service).active_data]
  cases active : (ledger.system.task service).active with
  | placeholder => simp [active, Origin.config] at origin
  | constructed config =>
      rw [active] at origin
      cases origin
      rfl
  | prepared transactionId config =>
      rw [active] at origin
      cases origin
      rfl

/-! ### Runs -/

def Ledger.drained (ledger : Ledger) : Bool :=
  [Service.monitoring, .fanColor].all fun service =>
    let task := ledger.system.task service
    task.stage = .registered && task.mailbox.isEmpty && task.subscription.recv.isNone

def Ledger.runsOn (monitoring fanColor : FileContent) (ledger : Ledger) : Bool :=
  (ledger.system.task .monitoring).active.config = some (configOf monitoring) ∧
    (ledger.system.task .fanColor).active.config = some (configOf fanColor) ∧
    ledger.committed = configOf steadyCurve

theorem Ledger.forall_drained {ledger : Ledger} (drained : ledger.drained = true) (service : Service) :
    (ledger.system.task service).Drained := by
  simp only [Ledger.drained, List.all_cons, List.all_nil, Bool.and_true, Bool.and_eq_true, decide_eq_true_eq,
    List.isEmpty_iff, Option.isNone_iff_eq_none, and_assoc] at drained
  cases service with
  | monitoring => exact ⟨drained.1, drained.2.1, drained.2.2.1⟩
  | fanColor => exact drained.2.2.2

theorem exists_ledger (capacity : Nat) (guard : Ledger → Action → Prop)
    [∀ ledger action, Decidable (guard ledger action)] (actions : List Action) (test : Ledger → Bool)
    (arrived : Machine.arrives (advance none "config.yml" capacity) guard (Ledger.start defaultConfig) actions
      test = true) : ∃ ledger, Machine.Reachable (advance none "config.yml" capacity)
        (fun first => first = Ledger.start defaultConfig) guard ledger ∧ test ledger = true :=
  Machine.exists_reachable_of_arrives (fun first => first = Ledger.start defaultConfig) rfl actions test arrived

theorem agreed_of_deliversCommits_reload :
    ∃ ledger, Machine.Reachable (advance none "config.yml" 1000)
        (fun first => first = Ledger.start defaultConfig) (DeliversCommits 1000) ledger ∧
      (ledger.drained && ledger.runsOn steadyCurve steadyCurve) = true ∧ Agreed ledger := by
  obtain ⟨ledger, reached, ends⟩ :=
    exists_ledger 1000 (DeliversCommits 1000)
      (starts .monitoring ++ starts .fanColor ++
        asks steadyCurve ++ [Action.takeRequest .monitoring, .takeRequest .fanColor, .decide] ++
        [Action.emit .configReloaded, .takeEvent .monitoring, .takeEvent .fanColor,
          .takeEvent .monitoring, .takeEvent .fanColor])
      (fun ledger => ledger.drained && ledger.runsOn steadyCurve steadyCurve) (by decide)
  exact ⟨ledger, reached, ends, agreed_of_deliversCommits reached⟩

theorem not_agreed_of_stale {ledger : Ledger} (drained : ledger.drained = true) (service : Service)
    (stale : (ledger.system.task service).active.config ≠ some ledger.committed) : ¬ Agreed ledger := by
  intro agreed
  exact stale (agreed (Ledger.forall_drained drained) service).1

/-- Monitoring starts after a reload is committed; and it reads too late, when another event has
pushed the commit out of the channel. -/
theorem late_service_keeps_old_config :
    (∃ ledger, Machine.Reachable (advance none "config.yml" 1000)
        (fun first => first = Ledger.start defaultConfig) Machine.free ledger ∧
      (ledger.drained && ledger.runsOn (.parsed {}) steadyCurve) = true ∧ ¬ Agreed ledger) ∧
    ∃ ledger, Machine.Reachable (advance none "config.yml" 1)
        (fun first => first = Ledger.start defaultConfig) Machine.free ledger ∧
      (ledger.drained && ledger.runsOn (.parsed {}) steadyCurve) = true ∧ ¬ Agreed ledger := by
  have stale {ledger : Ledger} (ends : (ledger.drained && ledger.runsOn (.parsed {}) steadyCurve) = true) :
      ¬ Agreed ledger := by
    simp only [Bool.and_eq_true, Ledger.runsOn, decide_eq_true_eq] at ends
    obtain ⟨drained, old, -, committed⟩ := ends
    apply not_agreed_of_stale drained .monitoring
    rw [old, committed]
    decide
  constructor
  · obtain ⟨ledger, reached, ends⟩ :=
      exists_ledger 1000 Machine.free
        (starts .fanColor ++ asks steadyCurve ++ [Action.takeRequest .fanColor, .decide, .takeEvent .fanColor] ++
          starts .monitoring)
        (fun ledger => ledger.drained && ledger.runsOn (.parsed {}) steadyCurve) (by decide)
    exact ⟨ledger, reached, ends, stale ends⟩
  · obtain ⟨ledger, reached, ends⟩ :=
      exists_ledger 1 Machine.free
        (starts .monitoring ++ starts .fanColor ++
          asks steadyCurve ++ [Action.takeRequest .monitoring, .takeRequest .fanColor, .decide] ++
          [Action.takeEvent .fanColor, .emit .configReloaded, .takeEvent .fanColor,
            .takeEvent .monitoring, .takeEvent .monitoring])
        (fun ledger => ledger.drained && ledger.runsOn (.parsed {}) steadyCurve) (by decide)
    exact ⟨ledger, reached, ends, stale ends⟩

end TtRiingd.Core
