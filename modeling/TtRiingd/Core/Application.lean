import TtRiingd.Core.MainLoop
import TtRiingd.Core.Services
import TtRiingd.Drivers.InitOrder

/-!
# The life of the daemon

`run_main_loop` here also carries the task manager, which the loop over the world alone leaves out. The
loop goes the same way with it, and the tasks are stopped at two of its ends only.
-/

namespace TtRiingd.Core
open Deadlines Drivers Providers

/-- What a start of the daemon finds. -/
structure Host where
  hidapi : Option HidApi
  sessionBus : Bool
  path : String
  config : Config

/-- The world once all is built: the caches of the two services are made with their providers. -/
def Host.world (host : Host) (hw : Hardware) : World where
  sharedState := some { config := host.config, controllers := hw.manager, statics := hw.statics }
  path := host.path
  transactionCounter := 1
  monitoring := .new host.config
  fanColor := .new host.config

structure SystemCoordinator where
  taskManager : TaskManager := {}
  world : World
  serviceProviders : List ServiceProvider

namespace SystemCoordinator

/-- `AppState::new` formats the error, `initialize` adds its context. -/
def initFailure : Fault → Fault
  | .panic => .panic
  | .error e => .error ((anyhow s!"Failed to initialize controllers: {e.display}").context
      "Failed to initialize application state")

def initializeFrom (host : Host) : Except Fault SystemCoordinator :=
  match startUp host.hidapi host.config with
  | .error fault => .error (initFailure fault)
  | .ok hw => .ok { world := host.world hw, serviceProviders := registerServiceProviders host.sessionBus }

def startAllServices (coordinator : SystemCoordinator) : Except Fault SystemCoordinator :=
  match Core.startAllServices coordinator.serviceProviders coordinator.taskManager with
  | .ok () taskManager => .ok { coordinator with taskManager }
  | .error e _ => .error (.error e)

section Loop

-- When each task ends once it is cancelled, and the time at which a shutdown begins.
variable (fates : Nat → Fate Nat Ending) (now : Nat)

def shutdown : EStateM Fault SystemCoordinator Unit := fun coordinator =>
  -- The error of `shutdown_all` is logged and dropped.
  let taskManager := (coordinator.taskManager.shutdownAll fates now).2
  match Core.shutdown coordinator.world with
  | .ok () world => .ok () { coordinator with taskManager, world }
  | .error fault world => .error fault { coordinator with taskManager, world }

def handleEvent (env : Environment) (eventResult : RecvResult) : EStateM Fault SystemCoordinator Unit :=
  fun coordinator =>
    match eventResult with
    | .event .systemShutdown =>
        match shutdown fates now coordinator with
        | .ok () after => .error (.error (anyhow "System shutdown requested")) after
        | .error fault after =>
            .error (fault.context "Failed to shutdown gracefully after SystemShutdown event") after
    | eventResult =>
        match Core.handleEvent env eventResult coordinator.world with
        | .ok () world => .ok () { coordinator with world }
        | .error fault world => .error fault { coordinator with world }

def endedBy (turn : Turn) (result : EStateM.Result Fault SystemCoordinator Unit) : Standing × SystemCoordinator :=
  match result with
  | .ok () coordinator => (.ended turn (some (.ok ())), coordinator)
  | .error (.error e) coordinator => (.ended turn (some (.error e)), coordinator)
  | .error .panic coordinator => (.ended turn none, coordinator)

def advance (coordinator : SystemCoordinator) (turn : Turn) : SystemCoordinator :=
  { coordinator with world := coordinator.world.advance turn }

def runMainLoop : List Turn → SystemCoordinator → Standing × SystemCoordinator
  | [], coordinator => (.waiting, coordinator)
  | turn :: rest, coordinator =>
      match turn.input with
      | .ctrlC (.ok ()) =>
          match shutdown fates now (coordinator.advance turn) with
          | .ok () after => endedBy turn (.ok () after)
          | .error fault after =>
              endedBy turn (.error (fault.context "Failed to shutdown gracefully after Ctrl+C") after)
      | .ctrlC (.error e) =>
          (.ended turn (some (.error (anyhow s!"Failed to listen for shutdown signal: {e}"))),
            coordinator.advance turn)
      | .received eventResult =>
          match handleEvent fates now turn.environment eventResult (coordinator.advance turn) with
          | .ok () after => runMainLoop rest after
          | failed => endedBy turn failed

end Loop

end SystemCoordinator

def Application.run (fates : Nat → Fate Nat Ending) (now : Nat) (turns : List Turn) (host : Host) :
    Except Fault (Standing × SystemCoordinator) := do
  let coordinator ← SystemCoordinator.initializeFrom host
  let started ← coordinator.startAllServices
  .ok (SystemCoordinator.runMainLoop fates now turns started)

/-! ## The loop with its tasks -/

/-- The turns that end the loop by shutting the daemon down. -/
def Turn.Stops (turn : Turn) : Prop :=
  turn.input = .ctrlC (.ok ()) ∨ turn.input = .received (.event .systemShutdown)

def Standing.Stopped : Standing → Prop
  | .waiting => False
  | .ended turn _ => turn.Stops

def NoWorkers (world : World) : Prop :=
  ∀ state, world.sharedState = some state → state.controllers.workerManager.workers = ∅

namespace SystemCoordinator

/-- A loop over `turns` goes as it goes over the world alone. It stops the tasks and the workers when it
is told to, and else it leaves all tasks as they were. -/
structure Runs (fates : Nat → Fate Nat Ending) (now : Nat) (turns : List Turn) (start : SystemCoordinator)
    (standing : Standing) (after : SystemCoordinator) : Prop where
  world : Core.runMainLoop turns start.world = (standing, after.world)
  stopped : standing.Stopped →
    after.taskManager = (start.taskManager.shutdownAll fates now).2 ∧ NoWorkers after.world
  otherwise : ¬ standing.Stopped → after.taskManager = start.taskManager

theorem noWorkers_shutdown (world : World) : NoWorkers (Core.shutdown world).state := by
  intro state shared
  obtain ⟨before, -, rfl⟩ := Option.map_eq_some_iff.mp shared
  rfl

structure HandlesAlike (fates : Nat → Fate Nat Ending) (now : Nat) (env : Environment) (eventResult : RecvResult)
    (start after : SystemCoordinator) (fault : Fault) : Prop where
  world : Core.handleEvent env eventResult start.world = .error fault after.world
  stopped : eventResult = .event .systemShutdown →
    after.taskManager = (start.taskManager.shutdownAll fates now).2 ∧ NoWorkers after.world
  otherwise : eventResult ≠ .event .systemShutdown → after.taskManager = start.taskManager

theorem handleEvent_alike (fates : Nat → Fate Nat Ending) (now : Nat) (env : Environment)
    (eventResult : RecvResult) (start : SystemCoordinator) :
    match handleEvent fates now env eventResult start with
    | .ok () after => Core.handleEvent env eventResult start.world = .ok () after.world ∧
        after.taskManager = start.taskManager
    | .error fault after => HandlesAlike fates now env eventResult start after fault := by
  have other (different : eventResult ≠ .event .systemShutdown) :
      handleEvent fates now env eventResult start =
        match Core.handleEvent env eventResult start.world with
        | .ok () world => .ok () { start with world }
        | .error fault world => .error fault { start with world } := by
    unfold handleEvent
    split
    · exact absurd rfl different
    · rfl
  by_cases told : eventResult = .event .systemShutdown
  · subst told
    exact ⟨rfl, fun _ => ⟨rfl, noWorkers_shutdown _⟩, fun different => absurd rfl different⟩
  · rw [other told]
    cases handled : Core.handleEvent env eventResult start.world with
    | ok value world => exact ⟨rfl, rfl⟩
    | error fault world => exact ⟨handled, fun same => absurd same told, fun _ => rfl⟩

theorem runMainLoop_runs (fates : Nat → Fate Nat Ending) (now : Nat) (turns : List Turn)
    (start : SystemCoordinator) :
    Runs fates now turns start (runMainLoop fates now turns start).1 (runMainLoop fates now turns start).2 := by
  induction turns generalizing start with
  | nil => exact ⟨rfl, False.elim, fun _ => rfl⟩
  | cons turn rest ih =>
      unfold runMainLoop
      split
      · rename_i input
        refine ⟨?_, fun _ => ⟨rfl, noWorkers_shutdown _⟩, fun going => absurd (.inl input) going⟩
        simp only [Core.runMainLoop, input]
        rfl
      · rename_i e input
        refine ⟨?_, fun stopped => ?_, fun _ => rfl⟩
        · simp only [Core.runMainLoop, input]
          rfl
        · simp [Standing.Stopped, Turn.Stops, input] at stopped
      · rename_i eventResult input
        have alike := handleEvent_alike fates now turn.environment eventResult (start.advance turn)
        cases handled : handleEvent fates now turn.environment eventResult (start.advance turn) with
        | ok value after =>
            rw [handled] at alike
            obtain ⟨world, tasks⟩ := alike
            have runs := ih after
            have alone : Core.runMainLoop (turn :: rest) start.world = Core.runMainLoop rest after.world := by
              have handled : Core.handleEvent turn.environment eventResult (start.world.advance turn) =
                  .ok () after.world := world
              simp only [Core.runMainLoop, input, handled]
            exact ⟨alone.trans runs.world, tasks ▸ runs.stopped, tasks ▸ runs.otherwise⟩
        | error fault after =>
            rw [handled] at alike
            have alone : Core.runMainLoop (turn :: rest) start.world =
                Core.endedBy turn (.error fault after.world) := by
              have handled : Core.handleEvent turn.environment eventResult (start.world.advance turn) =
                  .error fault after.world := alike.world
              simp only [Core.runMainLoop, input, handled]
            have stops : turn.Stops ↔ eventResult = .event .systemShutdown := by
              simp [Turn.Stops, input]
            simp only
            cases fault with
            | error e =>
                exact ⟨alone, fun told => alike.stopped (stops.mp told),
                  fun going => alike.otherwise fun told => going (stops.mpr told)⟩
            | panic =>
                exact ⟨alone, fun told => alike.stopped (stops.mp told),
                  fun going => alike.otherwise fun told => going (stops.mpr told)⟩

end SystemCoordinator

/-! ## The whole life -/

/-- The task of each service is registered once the daemon has started, and none is cancelled. -/
structure Serving (names : List String) (manager : TaskManager) : Prop where
  registered : ∀ handle, handle ∈ manager.handles ↔ handle < names.length
  running : manager.cancelled = false

theorem serving_of_spawnAll {names : List String} (distinct : names.Nodup) :
    ∃ manager, TaskManager.spawnAll names {} = .ok () manager ∧ Serving names manager := by
  obtain ⟨manager, spawned, leads, all, alike⟩ := @TaskManager.spawnAll_leads names {} fun _ => rfl
  rw [List.nil_append] at all
  refine ⟨manager, spawned, ⟨fun handle => ?_, alike⟩⟩
  rw [leads.mem_handles, all]
  constructor
  · rintro ⟨name, here, -⟩
    exact (List.getElem?_eq_some_iff.mp here).1
  · exact (TaskManager.all_current_iff names).mpr distinct handle

/-- How a daemon stands that started on `world` and has taken `turns`. -/
structure Lives (names : List String) (turns : List Turn) (world : World) (standing : Standing)
    (after : SystemCoordinator) : Prop where
  world : Core.runMainLoop turns world = (standing, after.world)
  stopped : standing.Stopped →
    after.taskManager.cancelled = true ∧ after.taskManager.handles = [] ∧ NoWorkers after.world
  otherwise : ¬ standing.Stopped → Serving names after.taskManager

theorem run_of_startUp {fates : Nat → Fate Nat Ending} {now : Nat} {turns : List Turn} {host : Host}
    {hw : Hardware} {manager : TaskManager} (found : startUp host.hidapi host.config = .ok hw)
    (spawned : TaskManager.spawnAll (taskNames host.sessionBus) {} = .ok () manager) :
    Application.run fates now turns host = .ok (SystemCoordinator.runMainLoop fates now turns {
      taskManager := manager
      world := host.world hw
      serviceProviders := registerServiceProviders host.sessionBus }) := by
  have begun : SystemCoordinator.initializeFrom host =
      .ok { world := host.world hw, serviceProviders := registerServiceProviders host.sessionBus } := by
    rw [SystemCoordinator.initializeFrom, found]
  rw [Application.run, begun]
  change (SystemCoordinator.startAllServices _).bind _ = _
  simp only [SystemCoordinator.startAllServices, startAllServices_registered, spawned]
  rfl

theorem run_lives (fates : Nat → Fate Nat Ending) (now : Nat) (turns : List Turn) (host : Host) :
    match startUp host.hidapi host.config with
    | .error fault => Application.run fates now turns host = .error (SystemCoordinator.initFailure fault)
    | .ok hw => ∃ standing after, Application.run fates now turns host = .ok (standing, after) ∧
        Lives (taskNames host.sessionBus) turns (host.world hw) standing after := by
  cases found : startUp host.hidapi host.config with
  | error fault =>
      rw [Application.run, SystemCoordinator.initializeFrom, found]
      rfl
  | ok hw =>
      obtain ⟨manager, spawned, serving⟩ := serving_of_spawnAll (taskNames_nodup host.sessionBus)
      have runs := SystemCoordinator.runMainLoop_runs fates now turns {
        taskManager := manager
        world := host.world hw
        serviceProviders := registerServiceProviders host.sessionBus }
      refine ⟨_, _, run_of_startUp found spawned, runs.world, fun stopped => ?_, fun going => ?_⟩
      · obtain ⟨tasks, workers⟩ := runs.stopped stopped
        rw [tasks]
        exact ⟨rfl, rfl, workers⟩
      · rw [runs.otherwise going]
        exact serving

end TtRiingd.Core
