import TtRiingd.Core.Coordinator

/-!
# One hot reload

The vote counts the replies that arrive with a response. A service that answers with an error, drops
the request or is gone leaves no trace in it. And the configuration is replaced before the vote, so a
rollback has something to undo that nothing undoes.
-/

namespace TtRiingd.Core
open Drivers Providers

/-! ## The vote -/

def AllPrepared (env : Environment) : Prop :=
  ∀ service ∈ prepareTargets, ∀ behaviour, env.handlers service = some behaviour →
    behaviour.outcome = .replied (.ok .success)

/-- Some target with a handler replied, without an error, something other than success. -/
def Refused (env : Environment) : Prop :=
  ∃ service ∈ prepareTargets, ∃ behaviour response, env.handlers service = some behaviour ∧
    behaviour.outcome = .replied (.ok response) ∧ response ≠ .success

theorem Outcome.kept_eq_some {outcome : Outcome} {response : Response} :
    outcome.kept = some response ↔ outcome = .replied (.ok response) := by
  cases outcome with
  | replied reply => cases reply <;> simp [Outcome.kept, Outcome.response]
  | dropped => simp [Outcome.kept, Outcome.response]
  | closed => simp [Outcome.kept, Outcome.response]

theorem failedServices_eq_nil {results : List (ServiceType × Response)} :
    failedServices results = [] ↔ ∀ result ∈ results, result.2 = .success := by
  rw [failedServices, List.filterMap_eq_nil_iff]
  refine forall₂_congr fun result member => ?_
  cases result.2 <;> simp

theorem mem_executeMultiple {handlers : ServiceType → Option Behaviour}
    {results : List (ServiceType × Response)} {service : ServiceType} {response : Response}
    (executed : executeMultiple handlers = .ok results) :
    (service, response) ∈ results ↔ service ∈ prepareTargets ∧
      ∃ behaviour, handlers service = some behaviour ∧ behaviour.outcome = .replied (.ok response) := by
  simp only [executeMultiple, Except.ok.injEq] at executed
  subst executed
  simp only [List.mem_filterMap, Option.bind_eq_some_iff, Option.map_eq_some_iff, Prod.mk.injEq,
    Outcome.kept_eq_some]
  constructor
  · rintro ⟨target, listed, behaviour, handler, other, replied, rfl, rfl⟩
    exact ⟨listed, behaviour, handler, replied⟩
  · rintro ⟨listed, behaviour, handler, replied⟩
    exact ⟨service, listed, behaviour, handler, response, replied, rfl, rfl⟩

theorem failedServices_iff_refused {env : Environment} {results : List (ServiceType × Response)}
    (executed : executeMultiple env.handlers = .ok results) :
    failedServices results ≠ [] ↔ Refused env := by
  rw [Ne, failedServices_eq_nil]
  push Not
  constructor
  · rintro ⟨⟨service, response⟩, member, other⟩
    obtain ⟨listed, behaviour, handler, replied⟩ := (mem_executeMultiple executed).mp member
    exact ⟨service, listed, behaviour, response, handler, replied, other⟩
  · rintro ⟨service, listed, behaviour, response, handler, replied, other⟩
    exact ⟨(service, response), (mem_executeMultiple executed).mpr ⟨listed, behaviour, handler, replied⟩, other⟩

/-! ## What the call leaves behind -/

def World.publish (world : World) (receivers : Nat) (event : Event) : World :=
  if 0 < receivers then { world with published := world.published ++ [event] } else world

theorem notify_ok {receivers : Nat} {event : Event} {world after : World}
    (sent : notify receivers event world = .ok () after) : after = world.publish receivers event := by
  unfold notify at sent
  unfold World.publish
  split at sent
  · cases sent
    rename_i heard
    rw [if_pos heard]
  · contradiction

theorem notify_error {receivers : Nat} {event : Event} {world after : World} {fault : Fault}
    (sent : notify receivers event world = .error fault after) :
    fault = .error (anyhow "channel closed") ∧ after = world.publish receivers event := by
  unfold notify at sent
  unfold World.publish
  split at sent
  · contradiction
  · cases sent
    rename_i unheard
    exact ⟨rfl, (if_neg unheard).symm⟩

theorem notify_state (receivers : Nat) (event : Event) (world : World) :
    (notify receivers event world).state = world.publish receivers event := by
  unfold notify World.publish
  split <;> rfl

theorem secondPhase_commit {env : Environment} (accepted : ¬ Refused env) (transactionId : Nat)
    (world : World) :
    secondPhase env transactionId (executeMultiple env.handlers) world =
      notify env.receivers (.commitConfigUpdate transactionId) world := by
  cases executed : executeMultiple env.handlers with
  | error e => contradiction
  | ok results =>
      have none_failed : failedServices results = [] := by
        by_contra failed
        exact accepted ((failedServices_iff_refused executed).mp failed)
      simp only [secondPhase, none_failed, List.length_nil, if_true]

theorem secondPhase_rollback {env : Environment} (refused : Refused env) (transactionId : Nat)
    (world : World) :
    ∃ e, secondPhase env transactionId (executeMultiple env.handlers) world =
      .error (.error e) (world.publish env.receivers (.rollbackConfigUpdate transactionId)) := by
  cases executed : executeMultiple env.handlers with
  | error e => contradiction
  | ok results =>
      have some_failed : (failedServices results).length ≠ 0 := by
        rw [Ne, List.length_eq_zero_iff]
        exact (failedServices_iff_refused executed).mpr refused
      simp only [secondPhase, if_neg some_failed]
      cases sent : notify env.receivers (.rollbackConfigUpdate transactionId) world with
      | ok value after =>
          rw [EStateM.bind_of_ok sent]
          rw [notify_ok sent]
          exact ⟨_, rfl⟩
      | error fault after =>
          rw [EStateM.bind_of_error sent]
          obtain ⟨rfl, same⟩ := notify_error sent
          rw [same]
          exact ⟨_, rfl⟩

def PrepareSent (env : Environment) (world : World) : Prop :=
  ∃ state config, world.sharedState = some state ∧
    ConfigManager.loadConfigFromPath env.hidapi world.path env.file = .ok config

def asked (env : Environment) (state : AppState) (config : Config) (world : World) : World :=
  prepareServices env.handlers config world.transactionCounter
    { world with
      sharedState := some { state with config }
      transactionCounter := (world.transactionCounter + 1) % 2 ^ 64 }

theorem handleHotReload_asked {env : Environment} {world : World} {state : AppState} {config : Config}
    (shared : world.sharedState = some state)
    (loaded : ConfigManager.loadConfigFromPath env.hidapi world.path env.file = .ok config) :
    handleHotReload env world = secondPhase env world.transactionCounter (executeMultiple env.handlers)
      (asked env state config world) := by
  have reloaded : reload env world.path state.config = .ok () config := by
    simp only [reload, loaded]
  unfold handleHotReload
  simp only [shared, reloaded]
  rfl

theorem handleHotReload_unloaded {env : Environment} {world : World} {state : AppState} {fault : Fault}
    (shared : world.sharedState = some state)
    (failed : ConfigManager.loadConfigFromPath env.hidapi world.path env.file = .error fault) :
    handleHotReload env world = .error (fault.context "Failed to reload configuration") world := by
  have reloaded : reload env world.path state.config = .error fault state.config := by
    simp only [reload, failed]
  unfold handleHotReload
  simp only [shared, reloaded]
  rw [← shared]

def newEvents (env : Environment) (world : World) : List Event :=
  (handleHotReload env world).state.published.drop world.published.length

def ReturnsErr {σ α : Type} (result : EStateM.Result Fault σ α) : Prop :=
  ∃ e after, result = .error (.error e) after

theorem asked_published (env : Environment) (state : AppState) (config : Config) (world : World) :
    (asked env state config world).published = world.published := rfl

theorem newEvents_publish (env : Environment) {world after : World} {event : Event}
    (published : after.published = world.published)
    (state : (handleHotReload env world).state = after.publish env.receivers event) :
    newEvents env world = if 0 < env.receivers then [event] else [] := by
  unfold newEvents World.publish at *
  rw [state]
  by_cases heard : 0 < env.receivers
  · rw [if_pos heard, if_pos heard, published, List.drop_left]
  · rw [if_neg heard, if_neg heard, published, List.drop_length]

/-! ## The decision follows the votes -/

def VoteRespected (env : Environment) (world : World) : Prop :=
  PrepareSent env world → ¬ AllPrepared env →
    newEvents env world = [.rollbackConfigUpdate world.transactionCounter] ∧
      ReturnsErr (handleHotReload env world)

theorem voteRespected_iff (env : Environment) (world : World) :
    VoteRespected env world ↔
      (PrepareSent env world → AllPrepared env ∨ Refused env ∧ 0 < env.receivers) := by
  by_cases sent : PrepareSent env world
  · obtain ⟨state, config, shared, loaded⟩ := id sent
    have call := handleHotReload_asked shared loaded
    simp only [VoteRespected, sent, true_imp_iff]
    by_cases prepared : AllPrepared env
    · simp [prepared]
    · simp only [prepared, not_false_eq_true, true_imp_iff, false_or]
      by_cases refused : Refused env
      · obtain ⟨e, rolled⟩ := secondPhase_rollback refused world.transactionCounter
          (asked env state config world)
        rw [← call] at rolled
        have events := newEvents_publish env (asked_published env state config world)
          (congrArg EStateM.Result.state rolled)
        rw [events, and_iff_right refused]
        by_cases heard : 0 < env.receivers
        · simp only [heard, if_true, true_and, iff_true]
          exact ⟨e, _, rolled⟩
        · simp [heard]
      · have committed := secondPhase_commit refused world.transactionCounter
          (asked env state config world)
        rw [← call] at committed
        have events := newEvents_publish env (asked_published env state config world)
          ((congrArg EStateM.Result.state committed).trans (notify_state _ _ _))
        rw [events]
        constructor
        · rintro ⟨rolled, -⟩
          split at rolled <;> simp at rolled
        · exact fun both => absurd both.1 refused
  · simp [VoteRespected, sent]

def defaultConfig : Config :=
  match ConfigManager.loadConfigFromPath none "config.yml" (.parsed {}) with
  | .ok config => config
  | .error _ => {}

def runningWorld : World where
  sharedState := some { config := defaultConfig, controllers := ⟨{}, ∅, ∅⟩, statics := {} }
  path := "config.yml"
  transactionCounter := 1
  monitoring := .new defaultConfig
  fanColor := .new defaultConfig

def oneVoteLost : Environment where
  hidapi := none
  file := .parsed {}
  handlers
    | .monitoring => some ⟨false, .replied (.error (anyhow "cannot prepare"))⟩
    | .fanColor => some ⟨true, .replied (.ok .success)⟩
    | _ => none
  receivers := 1

theorem lost_vote_commits :
    newEvents oneVoteLost runningWorld = [.commitConfigUpdate 1] ∧
      ¬ VoteRespected oneVoteLost runningWorld := by
  have events : newEvents oneVoteLost runningWorld = [.commitConfigUpdate 1] := rfl
  have sent : PrepareSent oneVoteLost runningWorld := ⟨_, _, rfl, rfl⟩
  have lost : ¬ AllPrepared oneVoteLost := by
    intro prepared
    have reply := prepared .monitoring (by simp [prepareTargets]) _ rfl
    simp at reply
  refine ⟨events, fun respected => ?_⟩
  have rolled := (respected sent lost).1
  rw [events] at rolled
  simp at rolled

/-! ## A failed call leaves everything as it was -/

/-- The world once each service has processed the events. -/
def settle (events : List Event) (world : World) : World :=
  { world with
    monitoring := events.foldl (fun cache event => Monitoring.handleNotify event cache) world.monitoring
    fanColor := events.foldl (fun cache event => FanColor.handleNotify event cache) world.fanColor }

def settled (env : Environment) (world : World) : World :=
  settle (newEvents env world) (handleHotReload env world).state

def World.config (world : World) : Option Config := world.sharedState.map (·.config)

structure SameActive (before after : World) : Prop where
  config : after.config = before.config
  mappings : after.monitoring.mappingCache = before.monitoring.mappingCache
  runners : after.fanColor.runners = before.fanColor.runners

def FailureLeavesNoTrace (env : Environment) (world : World) : Prop :=
  ReturnsErr (handleHotReload env world) → SameActive world (settled env world)

theorem publish_fields (world : World) (receivers : Nat) (event : Event) :
    (world.publish receivers event).sharedState = world.sharedState ∧
      (world.publish receivers event).monitoring = world.monitoring ∧
      (world.publish receivers event).fanColor = world.fanColor := by
  unfold World.publish
  split <;> exact ⟨rfl, rfl, rfl⟩

theorem asked_active (env : Environment) (state : AppState) (config : Config) (world : World) :
    (asked env state config world).monitoring.mappingCache = world.monitoring.mappingCache ∧
      (asked env state config world).fanColor.runners = world.fanColor.runners := by
  unfold asked prepareServices
  constructor
  · simp only
    split <;> rfl
  · simp only
    split <;> rfl

theorem SameActive.refl (world : World) : SameActive world world := ⟨rfl, rfl, rfl⟩

theorem settled_of_unchanged {env : Environment} {world : World}
    (unchanged : (handleHotReload env world).state = world) : settled env world = world := by
  unfold settled newEvents
  rw [unchanged, List.drop_length]
  rfl

theorem settle_quiet {env : Environment} {state : AppState} {config : Config} {world : World}
    {event : Event}
    (quiet : (∃ transactionId, event = .rollbackConfigUpdate transactionId) ∨ ¬ 0 < env.receivers)
    (result : (handleHotReload env world).state = (asked env state config world).publish env.receivers event) :
    (settled env world).config = some config ∧
      (settled env world).monitoring.mappingCache = world.monitoring.mappingCache ∧
      (settled env world).fanColor.runners = world.fanColor.runners := by
  have events := newEvents_publish env (asked_published env state config world) result
  obtain ⟨shared, monitoring, fanColor⟩ :=
    publish_fields (asked env state config world) env.receivers event
  obtain ⟨mappings, runners⟩ := asked_active env state config world
  have same : settled env world = (handleHotReload env world).state := by
    unfold settled
    rw [events]
    rcases quiet with ⟨transactionId, rfl⟩ | unheard
    · split <;> rfl
    · rw [if_neg unheard]
      rfl
  rw [same, result, World.config, shared, monitoring, fanColor]
  exact ⟨rfl, mappings, runners⟩

theorem sameActive_quiet_iff {env : Environment} {state : AppState} {config : Config} {world : World}
    {event : Event} (shared : world.sharedState = some state)
    (quiet : (∃ transactionId, event = .rollbackConfigUpdate transactionId) ∨ ¬ 0 < env.receivers)
    (result : (handleHotReload env world).state = (asked env state config world).publish env.receivers event) :
    SameActive world (settled env world) ↔ config = state.config := by
  obtain ⟨held, mappings, runners⟩ := settle_quiet quiet result
  have before : world.config = some state.config := by
    rw [World.config, shared]
    rfl
  constructor
  · intro same
    rw [same.config, before, Option.some.injEq] at held
    exact held.symm
  · intro same
    exact ⟨by rw [held, before, same], mappings, runners⟩

theorem failureLeavesNoTrace_iff (env : Environment) (world : World) :
    FailureLeavesNoTrace env world ↔ ∀ state config, world.sharedState = some state →
      ConfigManager.loadConfigFromPath env.hidapi world.path env.file = .ok config →
      config = state.config ∨ ¬ Refused env ∧ 0 < env.receivers := by
  unfold FailureLeavesNoTrace
  cases shared : world.sharedState with
  | none =>
      have unchanged : (handleHotReload env world).state = world := by
        simp only [handleHotReload, shared, EStateM.Result.state]
      simp [settled_of_unchanged unchanged, SameActive.refl]
  | some state =>
      cases loaded : ConfigManager.loadConfigFromPath env.hidapi world.path env.file with
      | error fault =>
          have unchanged : (handleHotReload env world).state = world := by
            rw [handleHotReload_unloaded shared loaded]
            rfl
          simp [settled_of_unchanged unchanged, SameActive.refl]
      | ok config =>
          have call := handleHotReload_asked shared loaded
          simp only [Option.some.injEq, Except.ok.injEq]
          by_cases refused : Refused env
          · obtain ⟨e, rolled⟩ := secondPhase_rollback refused world.transactionCounter
              (asked env state config world)
            rw [← call] at rolled
            have fails : ReturnsErr (handleHotReload env world) := ⟨e, _, rolled⟩
            have same := sameActive_quiet_iff shared (.inl ⟨_, rfl⟩) (congrArg EStateM.Result.state rolled)
            simp [fails, refused, same]
          · have committed := secondPhase_commit refused world.transactionCounter
              (asked env state config world)
            rw [← call] at committed
            by_cases heard : 0 < env.receivers
            · have succeeds : ¬ ReturnsErr (handleHotReload env world) := by
                rw [committed]
                rintro ⟨e, after, failed⟩
                simp only [notify, if_pos heard] at failed
                contradiction
              simp [succeeds, refused, heard]
            · have fails : ReturnsErr (handleHotReload env world) := by
                rw [committed]
                simp only [notify, if_neg heard]
                exact ⟨_, _, rfl⟩
              have state_after := (congrArg EStateM.Result.state committed).trans (notify_state _ _ _)
              have same := sameActive_quiet_iff shared (.inr heard) state_after
              simp [fails, heard, same]

def refusedReload : Environment where
  hidapi := none
  file := .parsed { curves := [.constant "steady" 40] }
  handlers
    | .monitoring => some ⟨true, .replied (.ok .success)⟩
    | .fanColor => some ⟨false, .replied (.ok (.error "cannot prepare"))⟩
    | _ => none
  receivers := 1

theorem refused_reload_keeps_new_config :
    newEvents refusedReload runningWorld = [.rollbackConfigUpdate 1] ∧
      ReturnsErr (handleHotReload refusedReload runningWorld) ∧
      ¬ FailureLeavesNoTrace refusedReload runningWorld := by
  have fails : ReturnsErr (handleHotReload refusedReload runningWorld) := ⟨_, _, rfl⟩
  refine ⟨rfl, fails, fun traceless => ?_⟩
  have config := (traceless fails).config
  revert config
  decide

end TtRiingd.Core
