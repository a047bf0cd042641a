import TtRiingd.Config.CurveRange
import TtRiingd.Config.Load
import TtRiingd.Providers.FanColor
import TtRiingd.Providers.Monitoring

/-!
# Starting the services

Each service builds its snapshot in its constructor and its interval when its task starts, both from
the configuration it finds there. The interval is never made again.
-/

namespace TtRiingd.Providers

/-- `tokio::time::interval`, which panics on a zero period; the result is the period in seconds. -/
def interval (seconds : Nat) : Except Fault Nat := if 0 < seconds then .ok seconds else .error .panic

def Monitoring.startInterval (config : Config) : Except Fault Nat := interval config.tickSeconds.toNat

def Broadcast.startInterval (config : Config) : Except Fault Nat :=
  interval (config.tickSeconds.toNat * 2)

structure RunningServices where
  monitoring : MonitoringCache
  monitoringPeriod : Nat
  fanColor : FanColorServiceCache
  broadcastPeriod : Nat

def startServices (config : Config) : Except Fault RunningServices := do
  let monitoringPeriod ← Monitoring.startInterval config
  let broadcastPeriod ← Broadcast.startInterval config
  .ok { monitoring := .new config, monitoringPeriod, fanColor := .new config, broadcastPeriod }

theorem interval_panics_iff (seconds : Nat) : interval seconds = .error .panic ↔ seconds = 0 := by
  unfold interval
  cases seconds with
  | zero => simp
  | succ seconds => simp

theorem tickSeconds_toNat_eq_zero (config : Config) :
    config.tickSeconds.toNat = 0 ↔ config.tickSeconds = 0 := by
  rw [← UInt16.toNat_inj]
  rfl

theorem startServices_ok {config : Config} {services : RunningServices} :
    startServices config = .ok services ↔ config.tickSeconds ≠ 0 ∧ {
      monitoring := .new config, monitoringPeriod := config.tickSeconds.toNat
      fanColor := .new config, broadcastPeriod := config.tickSeconds.toNat * 2 } = services := by
  rw [Ne, ← tickSeconds_toNat_eq_zero]
  unfold startServices Monitoring.startInterval Broadcast.startInterval interval
  cases config.tickSeconds.toNat with
  | zero =>
      simp only [not_true_eq_false, false_and, iff_false]
      exact fun started => nomatch started
  | succ seconds =>
      have positive : 0 < (seconds + 1) * 2 := by omega
      rw [if_pos (Nat.succ_pos seconds), if_pos positive, and_iff_right (Nat.succ_ne_zero seconds)]
      exact ⟨Except.ok.inj, congrArg Except.ok⟩

def PanicFree (config : Config) : Prop :=
  Monitoring.startInterval config ≠ .error .panic ∧ Broadcast.startInterval config ≠ .error .panic ∧
    ∀ curve ∈ config.curves, ∀ reading, curve.calculateSpeed reading ≠ .error .panic

theorem panicFree_iff (config : Config) :
    PanicFree config ↔ config.tickSeconds ≠ 0 ∧ ∀ curve ∈ config.curves, ¬ curve.HasNanPoint := by
  have reading : Nonempty F32 := ⟨.nan⟩
  simp only [PanicFree, Monitoring.startInterval, Broadcast.startInterval, Ne, interval_panics_iff,
    calculateSpeed_panics_iff, forall_const]
  rw [Nat.mul_eq_zero, or_iff_left two_ne_zero, tickSeconds_toNat_eq_zero, ← and_assoc, and_self_iff]

def nanCurve : CurveCfg F32 :=
  .bezier "smooth" [⟨.nan, .fin 20⟩, ⟨.fin 40, .fin 30⟩, ⟨.fin 60, .fin 70⟩, ⟨.fin 80, .fin 100⟩]

theorem accepted_config_panics :
    (∃ config, ConfigManager.loadConfigFromPath none "config.yml" (.parsed { tickSeconds := 0 }) =
      .ok config ∧ Monitoring.startInterval config = .error .panic ∧ ¬ PanicFree config) ∧
    ∃ config, ConfigManager.loadConfigFromPath none "config.yml" (.parsed { curves := [nanCurve] }) =
      .ok config ∧ nanCurve.calculateSpeed (.fin 50) = .error .panic ∧ ¬ PanicFree config := by
  constructor
  · exact ⟨_, rfl, rfl, fun free => free.1 rfl⟩
  · have panics : nanCurve.calculateSpeed (.fin 50) = .error .panic := rfl
    exact ⟨_, rfl, panics, fun free => free.2.2 nanCurve (.head _) (.fin 50) panics⟩

end TtRiingd.Providers
