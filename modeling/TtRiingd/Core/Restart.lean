import TtRiingd.Core.HotReload
import TtRiingd.Providers.Startup

/-!
# A hot reload and a restart

What a service prepares is what its constructor builds, so a committed reload leaves the snapshots
that a restart would. The periods are those the tasks started with.
-/

namespace TtRiingd.Core
open Drivers Providers

theorem prepareServices_staged {handlers : ServiceType → Option Behaviour} {config : Config}
    {transactionId : Nat} {world : World}
    (stage : ∀ service ∈ [ServiceType.monitoring, .fanColor], (handlers service).any (·.stages) = true) :
    (prepareServices handlers config transactionId world).monitoring.newMapping = .ofConfig config ∧
      (prepareServices handlers config transactionId world).fanColor.newRunners = buildEffects config := by
  have monitoring := stage .monitoring (by simp)
  have fanColor := stage .fanColor (by simp)
  simp only [prepareServices, monitoring, fanColor, if_true]
  exact ⟨rfl, rfl⟩

structure SameServices (first second : RunningServices) : Prop where
  mappings : first.monitoring.mappingCache.mappings = second.monitoring.mappingCache.mappings
  curves : first.monitoring.mappingCache.curves = second.monitoring.mappingCache.curves
  activeCurves : first.monitoring.mappingCache.activeCurves = second.monitoring.mappingCache.activeCurves
  effects : first.fanColor.runners = second.fanColor.runners
  monitoringPeriod : first.monitoringPeriod = second.monitoringPeriod
  broadcastPeriod : first.broadcastPeriod = second.broadcastPeriod

/-- The services run in `world` as a start from `old` leaves them, and the call with `env` takes them to
`new`: it is a hot reload, both services prepare it, and it is committed. -/
structure HotReloaded (services : RunningServices) (env : Environment) (world : World)
    (old new : Config) : Prop where
  running : ∃ first, startServices old = .ok first ∧ SameServices services first
  monitoring : world.monitoring = services.monitoring
  fanColor : world.fanColor = services.fanColor
  held : world.config = some old
  loaded : ConfigManager.loadConfigFromPath env.hidapi world.path env.file = .ok new
  hot : old.analyzeChanges new = .hotReload
  prepared : ∀ service ∈ [ServiceType.monitoring, .fanColor],
    (env.handlers service).any (·.stages) = true
  committed : (handleHotReload env world).isOk = true

def reloadedServices (services : RunningServices) (env : Environment) (world : World) : RunningServices :=
  -- The loops of the tasks go on with the intervals they have.
  { services with
    monitoring := (settled env world).monitoring
    fanColor := (settled env world).fanColor }

namespace HotReloaded
variable {services : RunningServices} {env : Environment} {world : World} {old new : Config}

theorem settled_eq (reload : HotReloaded services env world old new) :
    ∃ state, settled env world =
      settle [.commitConfigUpdate world.transactionCounter]
        { asked env state new world with
          published := world.published ++ [.commitConfigUpdate world.transactionCounter] } := by
  obtain ⟨state, shared, -⟩ := Option.map_eq_some_iff.mp reload.held
  have call := handleHotReload_asked shared reload.loaded
  have succeeds := reload.committed
  have accepted : ¬ Refused env := by
    intro refused
    obtain ⟨e, rolled⟩ := secondPhase_rollback refused world.transactionCounter (asked env state new world)
    rw [call, rolled] at succeeds
    contradiction
  rw [secondPhase_commit accepted] at call
  have heard : 0 < env.receivers := by
    by_contra unheard
    rw [call, notify, if_neg unheard] at succeeds
    contradiction
  have state_after := (congrArg EStateM.Result.state call).trans (notify_state _ _ _)
  have events := newEvents_publish env (asked_published env state new world) state_after
  rw [if_pos heard] at events
  refine ⟨state, ?_⟩
  rw [settled, events, state_after, World.publish, if_pos heard]
  rfl

theorem snapshots (reload : HotReloaded services env world old new) :
    (settled env world).monitoring.mappingCache = .ofConfig new ∧
      (settled env world).fanColor.runners = buildEffects new := by
  obtain ⟨state, after⟩ := reload.settled_eq
  rw [after]
  exact prepareServices_staged reload.prepared

theorem same_iff_sameTick (reload : HotReloaded services env world old new) :
    (∃ fresh, startServices new = .ok fresh ∧ SameServices (reloadedServices services env world) fresh) ↔
      old.tickSeconds = new.tickSeconds := by
  obtain ⟨first, started, before⟩ := reload.running
  obtain ⟨positive, rfl⟩ := startServices_ok.mp started
  obtain ⟨mappings, effects⟩ := reload.snapshots
  constructor
  · rintro ⟨fresh, started, same⟩
    obtain ⟨-, rfl⟩ := startServices_ok.mp started
    exact UInt16.toNat_inj.mp (before.monitoringPeriod.symm.trans same.monitoringPeriod)
  · intro sameTick
    refine ⟨_, startServices_ok.mpr ⟨sameTick ▸ positive, rfl⟩, ?_⟩
    constructor
    · exact congrArg MappingCache.mappings mappings
    · exact congrArg MappingCache.curves mappings
    · exact congrArg MappingCache.activeCurves mappings
    · exact effects
    · exact before.monitoringPeriod.trans (congrArg UInt16.toNat sameTick)
    · exact before.broadcastPeriod.trans (congrArg (fun tick => UInt16.toNat tick * 2) sameTick)

end HotReloaded

def bothPrepare (file : FileContent) : Environment where
  hidapi := none
  file
  handlers
    | .monitoring | .fanColor => some ⟨true, .replied (.ok .success)⟩
    | _ => none
  receivers := 1

def defaultServices : RunningServices where
  monitoring := .new defaultConfig
  monitoringPeriod := 2
  fanColor := .new defaultConfig
  broadcastPeriod := 4

def configOf (file : FileContent) : Config :=
  match ConfigManager.loadConfigFromPath none "config.yml" file with
  | .ok config => config
  | .error _ => {}

theorem defaultServices_running :
    ∃ first, startServices defaultConfig = .ok first ∧ SameServices defaultServices first :=
  ⟨defaultServices, rfl, rfl, rfl, rfl, rfl, rfl, rfl⟩

theorem hotReload_same_steadyCurve :
    ∃ fresh, startServices (configOf (.parsed { curves := [.constant "steady" 40] })) = .ok fresh ∧
      SameServices (reloadedServices defaultServices
        (bothPrepare (.parsed { curves := [.constant "steady" 40] })) runningWorld) fresh := by
  have reload : HotReloaded defaultServices (bothPrepare (.parsed { curves := [.constant "steady" 40] }))
      runningWorld defaultConfig (configOf (.parsed { curves := [.constant "steady" 40] })) :=
    ⟨defaultServices_running, rfl, rfl, rfl, rfl, rfl, by decide, rfl⟩
  exact reload.same_iff_sameTick.mpr rfl

theorem hotReload_keeps_tick :
    HotReloaded defaultServices (bothPrepare (.parsed { tickSeconds := 5 })) runningWorld defaultConfig
        (configOf (.parsed { tickSeconds := 5 })) ∧
      ¬ ∃ fresh, startServices (configOf (.parsed { tickSeconds := 5 })) = .ok fresh ∧
        SameServices (reloadedServices defaultServices (bothPrepare (.parsed { tickSeconds := 5 }))
          runningWorld) fresh := by
  refine ⟨⟨defaultServices_running, rfl, rfl, rfl, rfl, rfl, by decide, rfl⟩, ?_⟩
  rintro ⟨fresh, started, same⟩
  obtain ⟨-, rfl⟩ := startServices_ok.mp started
  have period := same.monitoringPeriod
  revert period
  decide

end TtRiingd.Core
