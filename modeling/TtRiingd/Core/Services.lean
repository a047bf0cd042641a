import Mathlib.Data.List.Sort
import TtRiingd.Core.TaskManager

/-!
# Starting the services

The providers are sorted by priority once and then started one after another. A critical provider that
fails ends the start, and what was started before goes on.
-/

namespace TtRiingd.Core

structure ServiceProvider where
  name : String
  priority : Int := 0
  isCritical : Bool := false
  start : EStateM Error TaskManager Unit

namespace ServiceProvider

/-- A provider whose `start` spawns one task, under its own name. -/
def ofTask (name : String) (priority : Int) (isCritical : Bool) : ServiceProvider where
  name
  priority
  isCritical
  start := TaskManager.spawnTask name

def monitoring : ServiceProvider := ofTask "MonitoringService" 10 true

def broadcast : ServiceProvider := ofTask "BroadcastService" 3 false

def fanColorControl : ServiceProvider where
  name := "FanColorService"
  priority := 4
  isCritical := false
  start := do
    TaskManager.spawnTask "FanColorService_calculate"
    TaskManager.spawnTask "FanColorService_transmit"

def configWatcher : ServiceProvider := ofTask "ConfigWatcherService" 6 false

def udevWatcher : ServiceProvider := ofTask "UdevWatcher" 8 false

def dBus : ServiceProvider := ofTask "DBusService" 8 true

end ServiceProvider

open ServiceProvider

/-- `sort_by_key` with the reversed priority; it is stable. -/
def byPriority (providers : List ServiceProvider) : List ServiceProvider :=
  providers.insertionSort fun first second => second.priority ≤ first.priority

/-- Without a session bus there is no D-Bus service. -/
def registerServiceProviders (sessionBus : Bool) : List ServiceProvider :=
  byPriority ([monitoring, broadcast, fanColorControl, configWatcher, udevWatcher] ++
    if sessionBus then [dBus] else [])

def startAllServices : List ServiceProvider → EStateM Error TaskManager Unit
  | [], manager => .ok () manager
  | provider :: rest, manager =>
      match provider.start manager with
      | .ok () after => startAllServices rest after
      | .error e after =>
          if provider.isCritical then
            .error (e.context s!"Critical service '{provider.name}' failed to start") after
          else startAllServices rest after

/-! ## How far a start gets -/

def tried (providers : List ServiceProvider) (manager : TaskManager) : TaskManager :=
  providers.foldl (fun manager provider => (provider.start manager).state) manager

/-- Every critical provider starts on what the ones before it have left. -/
def CriticalStart : List ServiceProvider → TaskManager → Prop
  | [], _ => True
  | provider :: rest, manager =>
      (provider.isCritical = true → (provider.start manager).isOk = true) ∧
        CriticalStart rest (provider.start manager).state

/-- The first critical provider that fails, and the error that it fails with. -/
structure Breaks (order : List ServiceProvider) (manager : TaskManager) (e : Error) (after : TaskManager)
    (before : List ServiceProvider) (failed : ServiceProvider) (rest : List ServiceProvider) : Prop where
  order : order = before ++ failed :: rest
  earlier : CriticalStart before manager
  critical : failed.isCritical = true
  fails : ∃ cause, failed.start (tried before manager) = .error cause after ∧
    e = cause.context s!"Critical service '{failed.name}' failed to start"

theorem Breaks.cons {order before rest : List ServiceProvider} {manager after : TaskManager} {e : Error}
    {provider failed : ServiceProvider}
    (starts : provider.isCritical = true → (provider.start manager).isOk = true)
    (later : Breaks order (provider.start manager).state e after before failed rest) :
    Breaks (provider :: order) manager e after (provider :: before) failed rest :=
  ⟨congrArg (provider :: ·) later.order, ⟨starts, later.earlier⟩, later.critical, later.fails⟩

theorem startAllServices_outcome (order : List ServiceProvider) (manager : TaskManager) :
    match startAllServices order manager with
    | .ok () after => CriticalStart order manager ∧ after = tried order manager
    | .error e after => ∃ before failed rest, Breaks order manager e after before failed rest := by
  induction order generalizing manager with
  | nil => exact ⟨trivial, rfl⟩
  | cons provider rest ih =>
      have onward (starts : provider.isCritical = true → (provider.start manager).isOk = true)
          (same : startAllServices (provider :: rest) manager =
            startAllServices rest (provider.start manager).state) :
          match startAllServices (provider :: rest) manager with
          | .ok () after => CriticalStart (provider :: rest) manager ∧ after = tried (provider :: rest) manager
          | .error e after =>
              ∃ before failed later, Breaks (provider :: rest) manager e after before failed later := by
        have outcome := ih (provider.start manager).state
        rw [same]
        split at outcome
        · exact ⟨⟨starts, outcome.1⟩, outcome.2⟩
        · obtain ⟨before, failed, later, breaks⟩ := outcome
          exact ⟨provider :: before, failed, later, breaks.cons starts⟩
      cases started : provider.start manager with
      | ok value after =>
          apply onward
          · intro _
            rw [started]
            rfl
          · simp only [startAllServices, started, EStateM.Result.state_ok]
      | error cause after =>
          cases critical : provider.isCritical with
          | true =>
              simp only [startAllServices, started, critical, if_true]
              exact ⟨[], provider, rest, ⟨rfl, trivial, critical, cause, started, rfl⟩⟩
          | false =>
              apply onward
              · simp [critical]
              · simp [startAllServices, started, critical]

/-! ## The order of the providers -/

instance : Std.Total fun first second : ServiceProvider => second.priority ≤ first.priority :=
  ⟨fun first second => Int.le_total second.priority first.priority⟩

instance : IsTrans ServiceProvider fun first second => second.priority ≤ first.priority :=
  ⟨fun _ _ _ first second => second.trans first⟩

/-- By priority, and in the order of registration where priorities are the same. -/
structure Prioritised (providers order : List ServiceProvider) : Prop where
  perm : order.Perm providers
  descending : order.Pairwise fun first second => second.priority ≤ first.priority
  stable : ∀ first second, [first, second].Sublist providers → second.priority ≤ first.priority →
    [first, second].Sublist order

theorem byPriority_prioritised (providers : List ServiceProvider) : Prioritised providers (byPriority providers) where
  perm := List.perm_insertionSort _ providers
  descending := List.pairwise_insertionSort _ providers
  stable _ _ listed above := List.pair_sublist_insertionSort above listed

theorem Breaks.by_priority {providers order before rest : List ServiceProvider} {manager after : TaskManager}
    {e : Error} {failed : ServiceProvider} (prioritised : Prioritised providers order)
    (breaks : Breaks order manager e after before failed rest) :
    (∀ provider ∈ providers, failed.priority < provider.priority → provider ∈ before) ∧
      ∀ provider ∈ providers, provider.priority < failed.priority → provider ∈ rest := by
  have descending := prioritised.descending
  rw [breaks.order, List.pairwise_append, List.pairwise_cons] at descending
  obtain ⟨-, ⟨below, -⟩, above⟩ := descending
  have placed {provider : ServiceProvider} (registered : provider ∈ providers) :
      provider ∈ before ∨ provider = failed ∨ provider ∈ rest := by
    have listed := prioritised.perm.mem_iff.mpr registered
    rwa [breaks.order, List.mem_append, List.mem_cons] at listed
  constructor
  · intro provider registered higher
    rcases placed registered with earlier | rfl | later
    · exact earlier
    · exact absurd higher (Int.lt_irrefl _)
    · exact absurd higher (Int.not_lt.mpr (below provider later))
  · intro provider registered lower
    rcases placed registered with earlier | rfl | later
    · exact absurd lower (Int.not_lt.mpr (above provider earlier failed List.mem_cons_self))
    · exact absurd lower (Int.lt_irrefl _)
    · exact later

theorem starts_by_priority (providers : List ServiceProvider) (manager : TaskManager) :
    Prioritised providers (byPriority providers) ∧
      match startAllServices (byPriority providers) manager with
      | .ok () after => CriticalStart (byPriority providers) manager ∧ after = tried (byPriority providers) manager
      | .error e after => ∃ before failed rest,
          Breaks (byPriority providers) manager e after before failed rest ∧
            (∀ provider ∈ providers, failed.priority < provider.priority → provider ∈ before) ∧
            ∀ provider ∈ providers, provider.priority < failed.priority → provider ∈ rest := by
  have prioritised := byPriority_prioritised providers
  refine ⟨prioritised, ?_⟩
  have outcome := startAllServices_outcome (byPriority providers) manager
  split at outcome
  · exact outcome
  · obtain ⟨before, failed, rest, breaks⟩ := outcome
    exact ⟨before, failed, rest, breaks, breaks.by_priority prioritised⟩

/-! ## The services of the daemon -/

/-- The names of all tasks, in the order in which they are spawned. -/
def taskNames (sessionBus : Bool) : List String :=
  ["MonitoringService", "UdevWatcher"] ++ (if sessionBus then ["DBusService"] else []) ++
    ["ConfigWatcherService", "FanColorService_calculate", "FanColorService_transmit", "BroadcastService"]

theorem taskNames_nodup (sessionBus : Bool) : (taskNames sessionBus).Nodup := by
  cases sessionBus <;> decide

theorem startAllServices_registered (sessionBus : Bool) :
    startAllServices (registerServiceProviders sessionBus) = TaskManager.spawnAll (taskNames sessionBus) := by
  cases sessionBus <;> rfl

end TtRiingd.Core
