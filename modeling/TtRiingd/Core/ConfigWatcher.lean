import TtRiingd.Core.Transactions

/-!
# Edits of the configuration file

The watcher, or a D-Bus call, reads the file to find the type of a change, and the coordinator reads it
again when the event arrives and stores what it has read. The file may be edited between any two of
these steps.
-/

namespace TtRiingd.Core.ConfigWatcher
open Drivers Providers

/-! ## Notifications -/

inductive EventKind where
  | any
  | access
  | create
  | modify
  | remove
  | other
  deriving DecidableEq

structure FsEvent where
  kind : EventKind
  paths : List String

/-- The last component of a path, unless it is `..`. -/
def fileName (path : String) : Option (List Char) :=
  let components := (path.toList.splitOn '/').filter fun component => component ≠ [] ∧ component ≠ ['.']
  components.getLast?.filter fun component => component ≠ ['.', '.']

namespace FsEvent

def affectsConfig (configPath : String) (event : FsEvent) : Bool :=
  event.paths.any fun path =>
    let isExactMatch := path = configPath
    let isFilenameMatch := fileName path = fileName configPath
    isExactMatch ∨ isFilenameMatch

def isRelevantEvent (event : FsEvent) : Bool := event.kind = .modify ∨ event.kind = .create

def marks (configPath : String) (event : FsEvent) : Bool :=
  event.affectsConfig configPath && event.isRelevantEvent

end FsEvent

/-! ## The watcher, the D-Bus calls and the coordinator -/

inductive WatcherPhase where
  | waiting
  | analyzing
  | detected (changeType : ConfigChangeType)
  | panicked
  deriving DecidableEq

inductive CoordinatorPhase where
  | waiting
  | loaded (newConfig : Config)
  | ended
  deriving DecidableEq

/-- `answers` are the changes that D-Bus calls have found and not published yet, `events` those that are
published and not yet received. -/
structure State where
  file : Option FileContent
  config : Config
  notifications : List (Except String FsEvent) := []
  hasPendingEvent : Bool := false
  watcher : WatcherPhase := .waiting
  answers : List ConfigChangeType := []
  events : List ConfigChangeType := []
  coordinator : CoordinatorPhase := .waiting

inductive Action where
  | edit (content : FileContent) (event : FsEvent)
  | delete (event : FsEvent)
  | notice (event : Except String FsEvent)
  | receive
  | tick
  | analyze
  | publish
  | reloadConfig
  | answer (changeType : ConfigChangeType)
  | handleConfigChange
  | lag
  | store
  | finish

def readToString : Option FileContent → FileContent
  | some content => content
  | none => .unreadable "No such file or directory (os error 2)"

namespace State

def start (content : FileContent) (config : Config) : State where
  file := some content
  config

def handleEvent (event : Except String FsEvent) (state : State) : State :=
  -- The receiver is gone once the task has panicked.
  if state.watcher = .panicked then state
  else { state with notifications := state.notifications ++ [event] }

end State

section Steps
variable (hidapi : Option HidApi) (path : String)

def load (file : Option FileContent) : Except Fault Config :=
  ConfigManager.loadConfigFromPath hidapi path (readToString file)

def analyzeConfigChanges (state : State) : Except Fault ConfigChangeType :=
  match load hidapi path state.file with
  | .ok newConfig => .ok (state.config.analyzeChanges newConfig)
  | .error fault => .error fault

def handleHotReload (state : State) : State :=
  match load hidapi path state.file with
  | .ok newConfig => { state with coordinator := .loaded newConfig }
  -- The error ends the main loop.
  | .error _ => { state with coordinator := .ended }

def step (state : State) : Action → Option State
  | .edit content event =>
      if event.marks path then some ({ state with file := some content }.handleEvent (.ok event)) else none
  | .delete event => some ({ state with file := none }.handleEvent (.ok event))
  | .notice event => some (state.handleEvent event)
  | .receive =>
      match state.watcher, state.notifications with
      | .waiting, .ok event :: notifications =>
          some { state with notifications, hasPendingEvent := event.marks path || state.hasPendingEvent }
      | .waiting, .error _ :: notifications => some { state with notifications }
      | _, _ => none
  | .tick =>
      if state.watcher = .waiting ∧ state.hasPendingEvent then
        some { state with
          hasPendingEvent := false
          watcher := if state.file.isSome then .analyzing else .waiting }
      else none
  | .analyze =>
      -- The analysis holds the configuration until it returns, so no reload is stored meanwhile.
      match state.watcher, analyzeConfigChanges hidapi path state with
      | .analyzing, .ok changeType => some { state with watcher := .detected changeType }
      | .analyzing, .error (.error _) => some { state with watcher := .waiting }
      | .analyzing, .error .panic => some { state with watcher := .panicked, notifications := [] }
      | _, _ => none
  | .publish =>
      match state.watcher with
      | .detected changeType =>
          some { state with watcher := .waiting, events := state.events ++ [changeType] }
      | _ => none
  | .reloadConfig =>
      match analyzeConfigChanges hidapi path state with
      | .ok changeType => some { state with answers := changeType :: state.answers }
      | .error _ => some state
  | .answer changeType =>
      if changeType ∈ state.answers then
        some { state with answers := state.answers.erase changeType, events := state.events ++ [changeType] }
      else none
  | .handleConfigChange =>
      match state.coordinator, state.events with
      | .waiting, .hotReload :: events => some (handleHotReload hidapi path { state with events })
      | .waiting, .coldRestart _ :: events => some { state with events }
      | _, _ => none
  -- The oldest event was overwritten before the coordinator received it.
  | .lag => some { state with events := state.events.tail }
  | .store =>
      match state.coordinator with
      | .loaded config => some { state with config, coordinator := .waiting }
      | _ => none
  | .finish => some { state with coordinator := .ended }

/-- The steps, one case for each way to take one. -/
inductive Moves (state : State) : Action → State → Prop where
  | edit {content : FileContent} {event : FsEvent} (marks : event.marks path = true) :
      Moves state (.edit content event) ({ state with file := some content }.handleEvent (.ok event))
  | delete {event : FsEvent} :
      Moves state (.delete event) ({ state with file := none }.handleEvent (.ok event))
  | notice {event : Except String FsEvent} : Moves state (.notice event) (state.handleEvent event)
  | receive {event : FsEvent} {notifications : List (Except String FsEvent)}
      (queued : state.notifications = .ok event :: notifications) :
      Moves state .receive
        { state with notifications, hasPendingEvent := event.marks path || state.hasPendingEvent }
  | receiveError {message : String} {notifications : List (Except String FsEvent)}
      (queued : state.notifications = .error message :: notifications) :
      Moves state .receive { state with notifications }
  | tick (waiting : state.watcher = .waiting) : Moves state .tick { state with
      hasPendingEvent := false
      watcher := if state.file.isSome then .analyzing else .waiting }
  | analyze (analyzing : state.watcher = .analyzing) {newConfig : Config}
      (loaded : load hidapi path state.file = .ok newConfig) :
      Moves state .analyze { state with watcher := .detected (state.config.analyzeChanges newConfig) }
  | analyzeError {e : Error} (failed : load hidapi path state.file = .error (.error e)) :
      Moves state .analyze { state with watcher := .waiting }
  | analyzePanic (panicked : load hidapi path state.file = .error .panic) :
      Moves state .analyze { state with watcher := .panicked, notifications := [] }
  | publish {changeType : ConfigChangeType} (detected : state.watcher = .detected changeType) :
      Moves state .publish { state with watcher := .waiting, events := state.events ++ [changeType] }
  | reloadConfig {changeType : ConfigChangeType} :
      Moves state .reloadConfig { state with answers := changeType :: state.answers }
  | reloadConfigError : Moves state .reloadConfig state
  | answer {changeType : ConfigChangeType} : Moves state (.answer changeType)
      { state with answers := state.answers.erase changeType, events := state.events ++ [changeType] }
  | hotReload {events : List ConfigChangeType} (waiting : state.coordinator = .waiting)
      (queued : state.events = .hotReload :: events) {newConfig : Config}
      (loaded : load hidapi path state.file = .ok newConfig) :
      Moves state .handleConfigChange { state with events, coordinator := .loaded newConfig }
  | hotReloadError {events : List ConfigChangeType} :
      Moves state .handleConfigChange { state with events, coordinator := .ended }
  | coldRestart {changedSections : List String} {events : List ConfigChangeType}
      (queued : state.events = .coldRestart changedSections :: events) :
      Moves state .handleConfigChange { state with events }
  | lag : Moves state .lag { state with events := state.events.tail }
  | store {config : Config} (held : state.coordinator = .loaded config) :
      Moves state .store { state with config, coordinator := .waiting }
  | finish : Moves state .finish { state with coordinator := .ended }

variable {hidapi path}

theorem analyze_moves {state after : State} (stepped : step hidapi path state .analyze = some after) :
    Moves hidapi path state .analyze after := by
  simp only [step, analyzeConfigChanges] at stepped
  cases read : load hidapi path state.file with
  | ok newConfig =>
      rw [read] at stepped
      split at stepped
      · rename_i analyzing same
        cases same
        cases stepped
        exact .analyze analyzing read
      all_goals contradiction
  | error fault =>
      rw [read] at stepped
      split at stepped
      · contradiction
      · rename_i same
        cases same
        cases stepped
        exact .analyzeError read
      · rename_i same
        cases same
        cases stepped
        exact .analyzePanic read
      · contradiction

theorem handleConfigChange_moves {state after : State}
    (stepped : step hidapi path state .handleConfigChange = some after) :
    Moves hidapi path state .handleConfigChange after := by
  simp only [step] at stepped
  split at stepped
  · rename_i events waiting queued
    cases stepped
    unfold handleHotReload
    cases read : load hidapi path state.file with
    | ok newConfig => exact .hotReload waiting queued read
    | error fault => exact .hotReloadError
  · rename_i queued
    cases stepped
    exact .coldRestart queued
  · contradiction

theorem step_moves {state after : State} {action : Action}
    (stepped : step hidapi path state action = some after) : Moves hidapi path state action after := by
  cases action with
  | edit content event =>
      simp only [step, Option.ite_none_right_eq_some] at stepped
      obtain ⟨marks, same⟩ := stepped
      cases same
      exact .edit marks
  | delete event =>
      cases stepped
      exact .delete
  | notice event =>
      cases stepped
      exact .notice
  | receive =>
      simp only [step] at stepped
      split at stepped
      · rename_i queued
        cases stepped
        exact .receive queued
      · rename_i queued
        cases stepped
        exact .receiveError queued
      · contradiction
  | tick =>
      simp only [step, Option.ite_none_right_eq_some] at stepped
      obtain ⟨⟨waiting, -⟩, same⟩ := stepped
      cases same
      exact .tick waiting
  | analyze => exact analyze_moves stepped
  | publish =>
      simp only [step] at stepped
      split at stepped
      · rename_i detected
        cases stepped
        exact .publish detected
      · contradiction
  | reloadConfig =>
      simp only [step] at stepped
      split at stepped
      · cases stepped
        exact .reloadConfig
      · cases stepped
        exact .reloadConfigError
  | answer changeType =>
      simp only [step, Option.ite_none_right_eq_some] at stepped
      obtain ⟨-, same⟩ := stepped
      cases same
      exact .answer
  | handleConfigChange => exact handleConfigChange_moves stepped
  | lag =>
      cases stepped
      exact .lag
  | store =>
      simp only [step] at stepped
      split at stepped
      · rename_i held
        cases stepped
        exact .store held
      · contradiction
  | finish =>
      cases stepped
      exact .finish

end Steps

end TtRiingd.Core.ConfigWatcher
