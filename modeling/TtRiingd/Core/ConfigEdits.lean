import TtRiingd.Core.ConfigWatcher
import TtRiingd.Core.Restart

/-!
# What an edit comes to

The type of a change is found on one reading of the file and acted upon with the next, so hardware
reaches the configuration through an edit between the two. An edit is lost when the watcher compares it
with a configuration that a reload is about to replace.
-/

namespace TtRiingd.Core.ConfigWatcher
open Drivers Providers

theorem load_missing (hidapi : Option HidApi) (path : String) :
    ∃ e, load hidapi path none = .error (.error e) := ⟨_, rfl⟩

theorem State.handleEvent_eq (event : Except String FsEvent) (state : State) :
    state.handleEvent event =
      { state with notifications := (state.handleEvent event).notifications } := by
  unfold handleEvent
  split <;> rfl

/-- With no edit between them, what is read and then stored is what `reload` leaves. -/
theorem store_handleHotReload (env : Environment) (path : String) (state : State)
    (file : env.file = readToString state.file) :
    (step env.hidapi path (handleHotReload env.hidapi path state) .store).map State.config =
      match reload env path state.config with
      | .ok _ config => some config
      | .error _ _ => none := by
  have same : load env.hidapi path state.file =
      ConfigManager.loadConfigFromPath env.hidapi path env.file := by rw [file, load]
  unfold handleHotReload reload
  rw [same]
  cases ConfigManager.loadConfigFromPath env.hidapi path env.file <;> rfl

/-! ## The hardware sections -/

def SameHardware (config other : Config) : Prop :=
  config.controllers = other.controllers ∧ config.sensors = other.sensors

theorem analyzeChanges_hotReload {config other : Config} :
    config.analyzeChanges other = .hotReload ↔ SameHardware config other := by
  unfold Config.analyzeChanges SameHardware
  by_cases controllers : config.controllers = other.controllers
  · by_cases sensors : config.sensors = other.sensors
    · simp [controllers, sensors]
    · simp [controllers, sensors]
  · simp [controllers]

/-- A reload finds the hardware of the configuration it replaces. -/
def ReloadsSameHardware (hidapi : Option HidApi) (path : String) (state : State) : Action → Prop
  | .handleConfigChange => state.events.head? = some .hotReload →
      ∀ newConfig ∈ (load hidapi path state.file).toOption,
        state.config.analyzeChanges newConfig = .hotReload
  | _ => True

instance (hidapi : Option HidApi) (path : String) (state : State) :
    (action : Action) → Decidable (ReloadsSameHardware hidapi path state action)
  | .handleConfigChange =>
      inferInstanceAs (Decidable (_ → ∀ newConfig ∈ (load hidapi path state.file).toOption, _ = _))
  | .edit .. | .delete _ | .notice _ | .receive | .tick | .analyze | .publish | .reloadConfig | .answer _
  | .lag | .store | .finish => .isTrue trivial

structure KeepsHardware (config : Config) (state : State) : Prop where
  stored : SameHardware config state.config
  held : ∀ newConfig, state.coordinator = .loaded newConfig → SameHardware config newConfig

theorem KeepsHardware.moves {hidapi : Option HidApi} {path : String} {config : Config} {state after : State}
    {action : Action} (keeps : KeepsHardware config state)
    (same : ReloadsSameHardware hidapi path state action) (moved : Moves hidapi path state action after) :
    KeepsHardware config after := by
  cases moved with
  | edit | delete | notice =>
      rw [State.handleEvent_eq]
      exact ⟨keeps.stored, keeps.held⟩
  | hotReload waiting queued loaded =>
      refine ⟨keeps.stored, fun newConfig held => ?_⟩
      cases held
      have kept := same (by rw [queued]; rfl) _ (by rw [loaded]; rfl)
      obtain ⟨controllers, sensors⟩ := analyzeChanges_hotReload.mp kept
      exact ⟨keeps.stored.1.trans controllers, keeps.stored.2.trans sensors⟩
  | hotReloadError | finish => exact ⟨keeps.stored, nofun⟩
  | store held => exact ⟨keeps.held _ held, nofun⟩
  | _ => exact ⟨keeps.stored, keeps.held⟩

def InitialisedWith (config : Config) (first : State) : Prop := ∃ content, first = State.start content config

theorem sameHardware_of_reloadsSameHardware {hidapi : Option HidApi} {path : String} {config : Config}
    {state : State} (reached : Machine.Reachable (step hidapi path) (InitialisedWith config)
      (ReloadsSameHardware hidapi path) state) : SameHardware config state.config := by
  have keeps : KeepsHardware config state := by
    apply reached.invariant (KeepsHardware config)
    · rintro first ⟨content, rfl⟩
      exact ⟨⟨rfl, rfl⟩, nofun⟩
    · exact fun state action after keeps same stepped => keeps.moves same (step_moves stepped)
  exact keeps.stored

def saved : FsEvent := ⟨.modify, ["config.yml"]⟩

/-- The file is saved, and the watcher analyzes it and publishes what it found. -/
def saves (content : FileContent) : List Action :=
  [.edit content saved, .receive, .tick, .analyze, .publish]

def oneSensor : FileContent := .parsed { sensors := [.nvidia "gpu" 0] }

theorem exists_edited (initial : State → Prop) (member : initial (State.start (.parsed {}) defaultConfig))
    (guard : State → Action → Prop) [∀ state action, Decidable (guard state action)] (actions : List Action)
    (test : State → Bool)
    (arrived : Machine.arrives (step none "config.yml") guard (State.start (.parsed {}) defaultConfig) actions
      test = true) :
    ∃ state, Machine.Reachable (step none "config.yml") initial guard state ∧ test state = true :=
  Machine.exists_reachable_of_arrives initial member actions test arrived

theorem sameHardware_of_reloadsSameHardware_steadyCurve :
    ∃ state, Machine.Reachable (step none "config.yml") (InitialisedWith defaultConfig)
        (ReloadsSameHardware none "config.yml") state ∧
      decide (state.config = configOf steadyCurve) = true ∧ SameHardware defaultConfig state.config := by
  obtain ⟨state, reached, ends⟩ :=
    exists_edited (InitialisedWith defaultConfig) ⟨.parsed {}, rfl⟩ (ReloadsSameHardware none "config.yml")
      (saves steadyCurve ++ [Action.handleConfigChange, .store])
      (fun state => decide (state.config = configOf steadyCurve)) (by decide)
  exact ⟨state, reached, ends, sameHardware_of_reloadsSameHardware reached⟩

/-- A sensor is added after the analysis of another edit, and the reload for that edit reads it. -/
theorem reload_takes_new_sensor :
    ∃ state, Machine.Reachable (step none "config.yml") (InitialisedWith defaultConfig) Machine.free state ∧
      decide (state.config = configOf oneSensor) = true ∧ ¬ SameHardware defaultConfig state.config := by
  obtain ⟨state, reached, ends⟩ :=
    exists_edited (InitialisedWith defaultConfig) ⟨.parsed {}, rfl⟩ Machine.free
      (saves steadyCurve ++ [Action.edit oneSensor saved, .handleConfigChange, .store])
      (fun state => decide (state.config = configOf oneSensor)) (by decide)
  refine ⟨state, reached, ends, fun same => ?_⟩
  have sensors := same.2
  rw [of_decide_eq_true ends] at sensors
  revert sensors
  decide

/-! ## No edit is lost -/

structure Quiescent (state : State) : Prop where
  notifications : state.notifications = []
  pending : state.hasPendingEvent = false
  watcher : state.watcher = .waiting ∨ state.watcher = .panicked
  answers : state.answers = []
  events : state.events = []
  coordinator : state.coordinator = .waiting

def NoEditLost (hidapi : Option HidApi) (path : String) (state : State) : Prop :=
  Quiescent state → ∀ newConfig, load hidapi path state.file = .ok newConfig →
    state.config.analyzeChanges newConfig = .hotReload → state.config = newConfig

def panics : Except Fault Config → Bool
  | .error .panic => true
  | _ => false

def CoordinatorPhase.held : CoordinatorPhase → Option Config
  | .loaded newConfig => some newConfig
  | .waiting | .ended => none

def marked (path : String) : Except String FsEvent → Bool
  | .ok event => event.marks path
  | .error _ => false

/-- Apart from the analysis that runs, the file has still to be read. -/
def State.Alerted (path : String) (state : State) : Prop :=
  (∃ event ∈ state.notifications, marked path event = true) ∨ .hotReload ∈ state.answers ∨
    .hotReload ∈ state.events

/-- The content that the watcher analyzes does not make the analysis panic. Where nothing else is waiting,
and that content changes the hardware while a reload has read another with the same hardware and not
stored it yet, that other one came to the same. No event is overwritten. -/
def AnalyzesInTime (hidapi : Option HidApi) (path : String) (state : State) : Action → Prop
  | .analyze => panics (load hidapi path state.file) = false ∧
      (state.Alerted path ∨ ∀ newConfig ∈ (load hidapi path state.file).toOption,
        ∀ held ∈ state.coordinator.held, state.config.analyzeChanges newConfig = .hotReload ∨
          held = newConfig ∨ held.analyzeChanges newConfig ≠ .hotReload)
  | .lag => False
  | _ => True

instance (path : String) (state : State) : Decidable (state.Alerted path) :=
  inferInstanceAs (Decidable ((∃ event ∈ state.notifications, _) ∨ _ ∨ _))

instance (hidapi : Option HidApi) (path : String) (state : State) :
    (action : Action) → Decidable (AnalyzesInTime hidapi path state action)
  | .analyze =>
      inferInstanceAs (Decidable (_ ∧ (_ ∨ ∀ newConfig ∈ (load hidapi path state.file).toOption,
        ∀ held ∈ state.coordinator.held, _ ∨ _ ∨ _)))
  | .lag => .isFalse id
  | .edit .. | .delete _ | .notice _ | .receive | .tick | .publish | .reloadConfig | .answer _
  | .handleConfigChange | .store | .finish => .isTrue trivial

/-- The configuration in memory once the coordinator has stored what it holds. -/
def State.upcoming (state : State) : Config := state.coordinator.held.getD state.config

/-- The watcher has still to read the file. -/
def State.AnalysisDue (path : String) (state : State) : Prop :=
  (∃ event ∈ state.notifications, marked path event = true) ∨ state.hasPendingEvent = true ∨
    state.watcher = .analyzing

def State.ReloadDue (state : State) : Prop :=
  state.watcher = .detected .hotReload ∨ .hotReload ∈ state.answers ∨ .hotReload ∈ state.events

def State.Settled (hidapi : Option HidApi) (path : String) (state : State) : Prop :=
  ∀ newConfig, load hidapi path state.file = .ok newConfig →
    state.upcoming = newConfig ∨ state.upcoming.analyzeChanges newConfig ≠ .hotReload

def State.Tracked (hidapi : Option HidApi) (path : String) (state : State) : Prop :=
  state.coordinator = .ended ∨
    state.watcher ≠ .panicked ∧ (state.AnalysisDue path ∨ state.ReloadDue ∨ state.Settled hidapi path)

theorem settled_of_error {hidapi : Option HidApi} {path : String} {state : State} {fault : Fault}
    (failed : load hidapi path state.file = .error fault) : state.Settled hidapi path := by
  intro newConfig loaded
  rw [failed] at loaded
  contradiction

theorem handleEvent_notifications {event : Except String FsEvent} {state : State}
    (alive : state.watcher ≠ .panicked) :
    (state.handleEvent event).notifications = state.notifications ++ [event] := by
  rw [State.handleEvent, if_neg alive]

theorem ended_moves {hidapi : Option HidApi} {path : String} {state after : State} {action : Action}
    (ended : state.coordinator = .ended) (moved : Moves hidapi path state action after) :
    after.coordinator = .ended := by
  cases moved with
  | edit | delete | notice =>
      rw [State.handleEvent_eq]
      exact ended
  | hotReload waiting =>
      rw [ended] at waiting
      contradiction
  | store held =>
      rw [ended] at held
      contradiction
  | hotReloadError | finish => rfl
  | _ => exact ended

theorem analysisDue_receive {path : String} {state : State} {event : FsEvent}
    {notifications : List (Except String FsEvent)} (queued : state.notifications = .ok event :: notifications)
    (due : state.AnalysisDue path) : State.AnalysisDue path
      { state with notifications, hasPendingEvent := event.marks path || state.hasPendingEvent } := by
  rcases due with ⟨marking, waiting, marks⟩ | pending | analyzing
  · rw [queued, List.mem_cons] at waiting
    rcases waiting with same | later
    · rw [same] at marks
      have marks : event.marks path = true := marks
      exact .inr (.inl (by rw [marks, Bool.true_or]))
    · exact .inl ⟨marking, later, marks⟩
  · exact .inr (.inl (by simp [pending]))
  · exact .inr (.inr analyzing)

theorem due_publish {hidapi : Option HidApi} {path : String} {state : State} {changeType : ConfigChangeType}
    (detected : state.watcher = .detected changeType)
    (tracked : state.AnalysisDue path ∨ state.ReloadDue ∨ state.Settled hidapi path) :
    let after := { state with watcher := .waiting, events := state.events ++ [changeType] }
    after.AnalysisDue path ∨ after.ReloadDue ∨ after.Settled hidapi path := by
  rcases tracked with due | due | settled
  · refine .inl (due.imp_right fun later => later.imp_right fun analyzing => ?_)
    rw [detected] at analyzing
    contradiction
  · rcases due with found | answered | queued
    · rw [detected] at found
      cases found
      exact .inr (.inl (.inr (.inr (by simp))))
    · exact .inr (.inl (.inr (.inl answered)))
    · exact .inr (.inl (.inr (.inr (List.mem_append_left _ queued))))
  · exact .inr (.inr settled)

theorem due_analyze {hidapi : Option HidApi} {path : String} {state : State} {newConfig : Config}
    (inTime : AnalyzesInTime hidapi path state .analyze) (loaded : load hidapi path state.file = .ok newConfig) :
    let after := { state with watcher := .detected (state.config.analyzeChanges newConfig) }
    after.AnalysisDue path ∨ after.ReloadDue ∨ after.Settled hidapi path := by
  rcases inTime.2 with (notified | waiting) | compared
  · exact .inl (.inl notified)
  · exact .inr (.inl (.inr waiting))
  · by_cases hot : state.config.analyzeChanges newConfig = .hotReload
    · exact .inr (.inl (.inl (congrArg _ hot)))
    · refine .inr (.inr fun other same => ?_)
      rw [loaded] at same
      cases same
      change state.upcoming = newConfig ∨ state.upcoming.analyzeChanges newConfig ≠ .hotReload
      unfold State.upcoming
      cases held : state.coordinator.held with
      | none => exact .inr hot
      | some config => exact (compared newConfig (by rw [loaded]; rfl) config held).resolve_left hot

theorem State.Tracked.moves {hidapi : Option HidApi} {path : String} {state after : State} {action : Action}
    (tracked : state.Tracked hidapi path) (inTime : AnalyzesInTime hidapi path state action)
    (moved : Moves hidapi path state action after) : after.Tracked hidapi path := by
  obtain ended | ⟨alive, tracked⟩ := tracked
  · exact .inl (ended_moves ended moved)
  cases moved with
  | @edit content event marks =>
      have waiting := @handleEvent_notifications (.ok event) { state with file := some content } alive
      rw [State.handleEvent_eq, waiting]
      exact .inr ⟨alive, .inl (.inl ⟨.ok event, by simp, marks⟩)⟩
  | delete =>
      obtain ⟨e, failed⟩ := load_missing hidapi path
      rw [State.handleEvent_eq]
      exact .inr ⟨alive, .inr (.inr (settled_of_error failed))⟩
  | @notice event =>
      rw [State.handleEvent_eq, handleEvent_notifications alive]
      refine .inr ⟨alive, tracked.imp_left fun due => ?_⟩
      exact due.imp_left fun ⟨marking, waiting, marks⟩ => ⟨marking, List.mem_append_left _ waiting, marks⟩
  | receive queued => exact .inr ⟨alive, tracked.imp_left (analysisDue_receive queued)⟩
  | receiveError queued =>
      refine .inr ⟨alive, tracked.imp_left fun due => due.imp_left fun ⟨marking, waiting, marks⟩ => ?_⟩
      rw [queued, List.mem_cons] at waiting
      refine ⟨marking, waiting.resolve_left fun same => ?_, marks⟩
      rw [same] at marks
      contradiction
  | tick waiting =>
      cases present : state.file with
      | some content => exact .inr ⟨nofun, .inl (.inr (.inr rfl))⟩
      | none =>
          obtain ⟨e, failed⟩ := load_missing hidapi path
          exact .inr ⟨nofun, .inr (.inr (settled_of_error failed))⟩
  | analyze analyzing loaded => exact .inr ⟨nofun, due_analyze inTime loaded⟩
  | analyzeError failed => exact .inr ⟨nofun, .inr (.inr (settled_of_error failed))⟩
  | analyzePanic panicked =>
      have survives := inTime.1
      rw [panicked] at survives
      contradiction
  | publish detected => exact .inr ⟨nofun, due_publish detected tracked⟩
  | reloadConfig =>
      refine .inr ⟨alive, tracked.imp_right fun later => later.imp_left fun due => ?_⟩
      exact due.imp_right fun rest => rest.imp_left (List.mem_cons_of_mem _)
  | reloadConfigError => exact .inr ⟨alive, tracked⟩
  | @answer changeType =>
      refine .inr ⟨alive, tracked.imp_right fun later => later.imp_left fun due => ?_⟩
      rcases due with found | answered | queued
      · exact .inl found
      · by_cases same : changeType = .hotReload
        · exact .inr (.inr (by simp [same]))
        · exact .inr (.inl ((List.mem_erase_of_ne (Ne.symm same)).mpr answered))
      · exact .inr (.inr (List.mem_append_left _ queued))
  | hotReload waiting queued loaded =>
      refine .inr ⟨alive, .inr (.inr fun other same => .inl ?_)⟩
      exact Except.ok.inj (loaded.symm.trans same)
  | hotReloadError | finish => exact .inl rfl
  | coldRestart queued =>
      refine .inr ⟨alive, tracked.imp_right fun later => later.imp_left fun due => ?_⟩
      refine due.imp_right fun rest => rest.imp_right fun waiting => ?_
      rw [queued, List.mem_cons] at waiting
      exact waiting.resolve_left nofun
  | lag => exact inTime.elim
  | @store config held =>
      have same : state.upcoming = config := by rw [State.upcoming, held]; rfl
      refine .inr ⟨alive, tracked.imp_right fun later => later.imp_right fun settled => ?_⟩
      intro newConfig loaded
      have current := settled newConfig loaded
      rwa [same] at current

/-- The file is as it was loaded when its watch is registered. -/
def HasLoaded (hidapi : Option HidApi) (path : String) (first : State) : Prop :=
  ∃ content config, load hidapi path (some content) = .ok config ∧ first = State.start content config

theorem noEditLost_of_analyzesInTime {hidapi : Option HidApi} {path : String} {state : State}
    (reached : Machine.Reachable (step hidapi path) (HasLoaded hidapi path) (AnalyzesInTime hidapi path)
      state) : NoEditLost hidapi path state := by
  have tracked : state.Tracked hidapi path := by
    apply reached.invariant (State.Tracked hidapi path)
    · rintro first ⟨content, config, loaded, rfl⟩
      refine .inr ⟨nofun, .inr (.inr fun newConfig same => .inl ?_)⟩
      exact Except.ok.inj (loaded.symm.trans same)
    · exact fun state action after tracked inTime stepped => tracked.moves inTime (step_moves stepped)
  intro quiescent newConfig loaded hot
  rcases tracked with ended | ⟨alive, due | due | settled⟩
  · rw [quiescent.coordinator] at ended
    contradiction
  · simp [State.AnalysisDue, quiescent.notifications, quiescent.pending,
      quiescent.watcher.resolve_right alive] at due
  · simp [State.ReloadDue, quiescent.answers, quiescent.events, quiescent.watcher.resolve_right alive] at due
  · have same : state.upcoming = state.config := by rw [State.upcoming, quiescent.coordinator]; rfl
    have current := settled newConfig loaded
    rw [same] at current
    exact current.resolve_right (not_not.mpr hot)

/-! ### Runs -/

def oneSensorSteady : FileContent :=
  .parsed { sensors := [.nvidia "gpu" 0], curves := [.constant "steady" 40] }

def tooManyFans : FileContent :=
  .parsed { controllers :=
    [.riingQuad "autogenerated" ⟨0x264a, 0x232B, none⟩ (List.replicate 256 ⟨1, "fan"⟩)] }

def isQuiescent (state : State) : Bool :=
  state.notifications.isEmpty && !state.hasPendingEvent &&
    decide (state.watcher = .waiting ∨ state.watcher = .panicked) && state.answers.isEmpty &&
    state.events.isEmpty && decide (state.coordinator = .waiting)

theorem quiescent_of_isQuiescent {state : State} (quiet : isQuiescent state = true) : Quiescent state := by
  simp only [isQuiescent, Bool.and_eq_true, Bool.not_eq_true', List.isEmpty_iff, decide_eq_true_eq] at quiet
  obtain ⟨⟨⟨⟨⟨notifications, pending⟩, watcher⟩, answers⟩, events⟩, coordinator⟩ := quiet
  exact ⟨notifications, pending, watcher, answers, events, coordinator⟩

def rests (file : FileContent) (config : Config) (state : State) : Bool :=
  isQuiescent state && decide (load none "config.yml" state.file = .ok (configOf file)) &&
    decide (state.config = config)

theorem noEditLost_of_analyzesInTime_steadyCurve :
    ∃ state, Machine.Reachable (step none "config.yml") (HasLoaded none "config.yml")
        (AnalyzesInTime none "config.yml") state ∧
      rests steadyCurve (configOf steadyCurve) state = true ∧ NoEditLost none "config.yml" state := by
  obtain ⟨state, reached, ends⟩ :=
    exists_edited (HasLoaded none "config.yml") ⟨.parsed {}, defaultConfig, rfl, rfl⟩
      (AnalyzesInTime none "config.yml")
      ([Action.edit (.unparsable "eof") saved, .edit oneSensor saved, .delete ⟨.remove, ["config.yml"]⟩] ++
        saves steadyCurve ++ [Action.handleConfigChange, .receive, .receive, .receive, .tick, .analyze, .store,
          .publish, .handleConfigChange, .store])
      (rests steadyCurve (configOf steadyCurve)) (by decide)
  exact ⟨state, reached, ends, noEditLost_of_analyzesInTime reached⟩

theorem not_noEditLost_of_rests {file : FileContent} {config : Config} {state : State}
    (ends : rests file config state = true) (hot : config.analyzeChanges (configOf file) = .hotReload)
    (stale : config ≠ configOf file) : ¬ NoEditLost none "config.yml" state := by
  simp only [rests, Bool.and_eq_true, decide_eq_true_eq] at ends
  obtain ⟨⟨quiet, loaded⟩, rfl⟩ := ends
  intro kept
  exact stale (kept (quiescent_of_isQuiescent quiet) _ loaded hot)

/-- The third of three edits is analyzed while a reload holds the second, which added a sensor and which
the third keeps; and an analysis panics, so the next edit finds no watcher. -/
theorem edit_is_lost :
    (∃ state, Machine.Reachable (step none "config.yml") (HasLoaded none "config.yml") Machine.free state ∧
      rests oneSensorSteady (configOf oneSensor) state = true ∧ ¬ NoEditLost none "config.yml" state) ∧
    ∃ state, Machine.Reachable (step none "config.yml") (HasLoaded none "config.yml") Machine.free state ∧
      rests steadyCurve defaultConfig state = true ∧ ¬ NoEditLost none "config.yml" state := by
  constructor
  · obtain ⟨state, reached, ends⟩ :=
      exists_edited (HasLoaded none "config.yml") ⟨.parsed {}, defaultConfig, rfl, rfl⟩ Machine.free
        (saves steadyCurve ++ [Action.edit oneSensor saved, .handleConfigChange, .edit oneSensorSteady saved] ++
          [Action.receive, .receive, .tick, .analyze, .publish, .store, .handleConfigChange])
        (rests oneSensorSteady (configOf oneSensor)) (by decide)
    exact ⟨state, reached, ends, not_noEditLost_of_rests ends (by decide) (by decide)⟩
  · obtain ⟨state, reached, ends⟩ :=
      exists_edited (HasLoaded none "config.yml") ⟨.parsed {}, defaultConfig, rfl, rfl⟩ Machine.free
        ([.edit tooManyFans saved, .receive, .tick, .analyze, .edit steadyCurve saved])
        (rests steadyCurve defaultConfig) (by decide +kernel)
    exact ⟨state, reached, ends, not_noEditLost_of_rests ends (by decide) (by decide)⟩

end TtRiingd.Core.ConfigWatcher
