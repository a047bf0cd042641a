import TtRiingd.Config.Load
import TtRiingd.Drivers.Manager
import TtRiingd.Providers.FanColor
import TtRiingd.Providers.Monitoring

namespace TtRiingd.Core
open Drivers Providers

/-! ## The broker -/

inductive RecvResult where
  | event (event : Event)
  | lagged (messages : Nat)
  | closed

/-- What becomes of a request in a service: a reply, a response channel dropped without one, or a
mailbox that was closed already. -/
inductive Outcome where
  | replied (reply : Except Error Response)
  | dropped
  | closed

structure Behaviour where
  stages : Bool
  outcome : Outcome

structure Environment where
  hidapi : Option HidApi
  file : FileContent
  handlers : ServiceType → Option Behaviour
  receivers : Nat

def Outcome.response : Outcome → Option (Except Error Response)
  | .replied reply => some reply
  | .dropped => none
  -- The request is dropped, and the sender of the response with it.
  | .closed => none

def Outcome.kept (outcome : Outcome) : Option Response :=
  match outcome.response with
  | some (.ok response) => some response
  | _ => none

def executeMultiple (handlers : ServiceType → Option Behaviour) :
    Except Error (List (ServiceType × Response)) :=
  .ok (prepareTargets.filterMap fun service =>
    (handlers service).bind fun behaviour => behaviour.outcome.kept.map fun response => (service, response))

/-! ## The state of the daemon -/

structure AppState where
  config : Config
  controllers : ControllerManager
  statics : Statics

structure World where
  sharedState : Option AppState
  path : String
  transactionCounter : Nat
  monitoring : MonitoringCache
  fanColor : FanColorServiceCache
  published : List Event := []
  shutDown : Bool := false

def notify (receivers : Nat) (event : Event) : EStateM Fault World Unit := fun world =>
  if 0 < receivers then .ok () { world with published := world.published ++ [event] }
  else .error (.error (anyhow "channel closed")) world

def reload (env : Environment) (path : String) : EStateM Fault Config Unit := fun config =>
  match ConfigManager.loadConfigFromPath env.hidapi path env.file with
  | .ok newConfig => .ok () newConfig
  | .error fault => .error fault config

def prepareServices (handlers : ServiceType → Option Behaviour) (config : Config) (transactionId : Nat)
    (world : World) : World :=
  let stages service := (handlers service).any (·.stages)
  { world with
    monitoring :=
      if stages .monitoring then
        (Monitoring.handleEvent config (.prepareConfigUpdate transactionId) world.monitoring).2
      else world.monitoring
    fanColor :=
      if stages .fanColor then
        (FanColor.handleEvent config (.prepareConfigUpdate transactionId) world.fanColor).2
      else world.fanColor }

def failedServices (results : List (ServiceType × Response)) : List (ServiceType × String) :=
  results.filterMap fun result =>
    match result.2 with
    | .success => none
    | .error err => some (result.1, err)
    | _ => some (result.1, "Unexpected response type")

def generateTransactionId : EStateM Fault World Nat := fun world =>
  .ok world.transactionCounter
    { world with transactionCounter := (world.transactionCounter + 1) % 2 ^ 64 }

def secondPhase (env : Environment) (transactionId : Nat)
    (results : Except Error (List (ServiceType × Response))) : EStateM Fault World Unit :=
  match results with
  | .ok results =>
      let failureCount := (failedServices results).length
      if failureCount = 0 then notify env.receivers (.commitConfigUpdate transactionId)
      else do
        notify env.receivers (.rollbackConfigUpdate transactionId)
        throw (.error (anyhow
          s!"Config reload failed: {failureCount} services could not prepare the new configuration"))
  | .error e => do
      notify env.receivers (.rollbackConfigUpdate transactionId)
      throw (.error (e.context "Failed to prepare config update across services"))

def handleHotReload (env : Environment) : EStateM Fault World Unit := fun world =>
  match world.sharedState with
  | none => .error (.error (anyhow "System state not initialized")) world
  | some state =>
      match reload env world.path state.config with
      | .error fault config =>
          .error (fault.context "Failed to reload configuration")
            { world with sharedState := some { state with config } }
      | .ok () config =>
          let world := { world with sharedState := some { state with config } }
          (do
            let transactionId ← generateTransactionId
            modify (prepareServices env.handlers config transactionId)
            secondPhase env transactionId (executeMultiple env.handlers)) world

end TtRiingd.Core
