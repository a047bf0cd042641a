import TtRiingd.Config.Cfg

namespace TtRiingd

inductive ServiceType where
  | monitoring
  | fanColor
  | broadcast
  | coordinator
  deriving DecidableEq

def ServiceType.debug : ServiceType → String
  | .monitoring => "Monitoring"
  | .fanColor => "FanColor"
  | .broadcast => "Broadcast"
  | .coordinator => "Coordinator"

def prepareTargets : List ServiceType := [.monitoring, .fanColor, .broadcast]

/-- `other` stands for the requests that neither service handles; it carries what `{:?}` prints. -/
inductive RequestPayload where
  | prepareConfigUpdate (transactionId : Nat)
  | other (debug : String)
  deriving DecidableEq

inductive Response where
  | temperature (deviceId : String) (value : F32)
  | sensorData (sensors : List (String × F32))
  | color (deviceId color : String)
  | health (service : ServiceType) (status : String)
  | success
  | error (message : String)
  deriving DecidableEq

inductive Event where
  | temperatureChanged (sensors : List (String × F32))
  | configReloaded
  | configChangeDetected (changeType : ConfigChangeType)
  | commitConfigUpdate (transactionId : Nat)
  | rollbackConfigUpdate (transactionId : Nat)
  | deviceConnected (vendorId productId : UInt16) (serialNumber : Option String)
  | deviceDisconnected (vendorId productId : UInt16) (serialNumber : Option String)
  | systemShutdown
  deriving DecidableEq

end TtRiingd
