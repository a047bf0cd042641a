import TtRiingd.Providers.FanColor
import TtRiingd.Providers.Monitoring

/-!
# The services that prepare a reload

Both keep two snapshots of what they read off the configuration: the active one and a staged one.
-/

namespace TtRiingd.Providers

inductive Service where
  | monitoring
  | fanColor
  deriving DecidableEq

namespace Service

def serviceType : Service → ServiceType
  | .monitoring => .monitoring
  | .fanColor => .fanColor

def Snapshot : Service → Type
  | .monitoring => MappingCache
  | .fanColor => EffectStore

def Cache : Service → Type
  | .monitoring => MonitoringCache
  | .fanColor => FanColorServiceCache

def construct : (service : Service) → Config → service.Cache
  | .monitoring, config => MonitoringCache.new config
  | .fanColor, config => FanColorServiceCache.new config

def active : (service : Service) → service.Cache → service.Snapshot
  | .monitoring, cache => MonitoringCache.mappingCache cache
  | .fanColor, cache => FanColorServiceCache.runners cache

def staged : (service : Service) → service.Cache → service.Snapshot
  | .monitoring, cache => MonitoringCache.newMapping cache
  | .fanColor, cache => FanColorServiceCache.newRunners cache

def build : (service : Service) → Config → service.Snapshot
  | .monitoring, config => MappingCache.ofConfig config
  | .fanColor, config => buildEffects config

def placeholder : (service : Service) → service.Snapshot
  | .monitoring => MappingCache.new
  | .fanColor => (⟨∅⟩ : EffectStore)

def handleEvent : (service : Service) → Config → RequestPayload → service.Cache →
    Except Error Response × service.Cache
  | .monitoring, config, request, cache => Monitoring.handleEvent config request cache
  | .fanColor, config, request, cache => FanColor.handleEvent config request cache

def handleNotify : (service : Service) → Event → service.Cache → service.Cache
  | .monitoring, event, cache => Monitoring.handleNotify event cache
  | .fanColor, event, cache => FanColor.handleNotify event cache

variable (service : Service)

@[simp] theorem active_construct (config : Config) :
    service.active (service.construct config) = service.build config := by
  cases service <;> rfl

@[simp] theorem staged_construct (config : Config) :
    service.staged (service.construct config) = service.placeholder := by
  cases service <;> rfl

@[simp] theorem handleEvent_active (config : Config) (request : RequestPayload) (cache : service.Cache) :
    service.active (service.handleEvent config request cache).2 = service.active cache := by
  cases service <;> cases request <;> rfl

@[simp] theorem handleEvent_prepare (config : Config) (transactionId : Nat) (cache : service.Cache) :
    service.staged (service.handleEvent config (.prepareConfigUpdate transactionId) cache).2 =
      service.build config := by
  cases service <;> rfl

@[simp] theorem handleEvent_other (config : Config) (debug : String) (cache : service.Cache) :
    (service.handleEvent config (.other debug) cache).2 = cache := by
  cases service <;> rfl

@[simp] theorem handleNotify_staged (event : Event) (cache : service.Cache) :
    service.staged (service.handleNotify event cache) = service.staged cache := by
  cases service <;> cases event <;> rfl

@[simp] theorem handleNotify_commit (transactionId : Nat) (cache : service.Cache) :
    service.active (service.handleNotify (.commitConfigUpdate transactionId) cache) =
      service.staged cache := by
  cases service <;> rfl

theorem handleNotify_quiet {event : Event} (quiet : ∀ transactionId, event ≠ .commitConfigUpdate transactionId)
    (cache : service.Cache) : service.handleNotify event cache = cache := by
  cases event with
  | commitConfigUpdate transactionId => exact absurd rfl (quiet transactionId)
  | _ => cases service <;> rfl

end Service

end TtRiingd.Providers
