import TtRiingd.Config.Mappings
import TtRiingd.Drivers.TTRiingQuad

namespace TtRiingd.Drivers

structure DetectedController where
  hardwareInfo : HardwareInfo
  detectedPid : UInt16

def HardwareFingerprint.debug (fingerprint : HardwareFingerprint) : String :=
  let serial := match fingerprint.serial with
    | some serial => s!"Some({serial.quote})"
    | none => "None"
  s!"HardwareFingerprint \x7b vendor_id: {fingerprint.vendorId}, product_id: {fingerprint.productId}, serial: {serial} \x7d"

/-- The process-wide state behind the registry: its configuration cache, and how many devices have
been opened so far. -/
structure Statics where
  cache : AList fun _ : HardwareFingerprint => ControllerCfg := ∅
  opens : Nat := 0

namespace Registry

def getSupportedHardware : List HardwareInfo := [TTRiingQuad.hardwareInfo]

def isSupportedHardware (vid pid : UInt16) : Bool :=
  getSupportedHardware.any fun hw => hw.vid = vid ∧ pid ∈ hw.pids

section Building
variable (hidapi : Option HidApi)

def buildOneController (controllerCfg : ControllerCfg) : EStateM Error Statics TTRiingQuad :=
  fun statics =>
    match hidapi with
    | none => .error (anyhow "HID API not available") statics
    | some api =>
        match TTRiingQuad.createOne api statics.opens controllerCfg with
        | .ok controller => .ok controller { statics with opens := statics.opens + 1 }
        | .error e => .error e { statics with opens := statics.opens + 1 }

def cacheConfig (statics : Statics) (controller : TTRiingQuad) (controllerCfg : ControllerCfg) : Statics :=
  match controller.getFingerprint with
  | .ok fingerprint => { statics with cache := statics.cache.insert fingerprint controllerCfg }
  | .error _ => statics

def buildControllersFromConfig : List ControllerCfg → Statics → List TTRiingQuad × Statics
  | [], statics => ([], statics)
  | controllerCfg :: rest, statics =>
      match buildOneController hidapi controllerCfg statics with
      | .ok controller statics =>
          let others := buildControllersFromConfig rest (cacheConfig statics controller controllerCfg)
          (controller :: others.1, others.2)
      | .error _ statics => buildControllersFromConfig rest statics

def buildDefaultController (fingerprint : HardwareFingerprint) : EStateM Error Statics TTRiingQuad :=
  fun statics =>
    let fallbackConfig := TTRiingQuad.hardwareInfo.createFallbackConfig fingerprint
    match buildOneController hidapi fallbackConfig statics with
    | .ok controller statics =>
        .ok controller { statics with cache := statics.cache.insert fingerprint fallbackConfig }
    | .error _ statics =>
        .error (anyhow
          s!"Failed to build default controller for fingerprint: {HardwareFingerprint.debug fingerprint}")
          statics

def buildControllerFromFingerprint (fingerprint : HardwareFingerprint) :
    EStateM Error Statics TTRiingQuad := fun statics =>
  match statics.cache.lookup fingerprint with
  | some config => buildOneController hidapi config statics
  | none => buildDefaultController hidapi fingerprint statics

/-! ## Hardware scan -/

def scanHardware : List DetectedController :=
  match hidapi with
  | none => []
  | some api =>
      api.deviceList.filterMap fun device =>
        (getSupportedHardware.find? fun hwInfo =>
          device.vendorId = hwInfo.vid ∧ device.productId ∈ hwInfo.pids).map
            fun hwInfo => ⟨hwInfo, device.productId⟩

def extractUsbInfo (config : ControllerCfg) : UsbSelector := config.usb

def controllerExistsInConfig (controllers : List ControllerCfg) (detected : DetectedController) : Bool :=
  controllers.any fun cfg =>
    (extractUsbInfo cfg).vid = detected.hardwareInfo.vid ∧ (extractUsbInfo cfg).pid = detected.detectedPid

def fallbackFor (detected : DetectedController) : ControllerCfg :=
  detected.hardwareInfo.createFallbackConfig ⟨detected.hardwareInfo.vid, detected.detectedPid, none⟩

def mergeWithConfig (config : Config) : Config :=
  { config with
    controllers := (scanHardware hidapi).foldl
      (fun controllers detected =>
        if controllerExistsInConfig controllers detected then controllers
        else controllers ++ [fallbackFor detected]) config.controllers }

end Building

def hex (n : UInt16) : String :=
  let digits := (Nat.toDigits 16 n.toNat).map Char.toUpper
  String.ofList (List.replicate (4 - digits.length) '0' ++ digits)

def validateSupportedControllers (config : Config) : List String :=
  config.controllers.filterMap fun cfg =>
    let usb := extractUsbInfo cfg
    if getSupportedHardware.any fun hw => hw.vid = usb.vid ∧ usb.pid ∈ hw.pids then none
    else some s!"Controller '{cfg.getId}' (VID:PID {hex usb.vid}:{hex usb.pid}) is not supported"

/-! ## What a successful build returns -/

theorem buildOneController_ok {hidapi : Option HidApi} {cfg : ControllerCfg} {statics after : Statics}
    {ctrl : TTRiingQuad} (built : buildOneController hidapi cfg statics = .ok ctrl after) :
    ∃ api, hidapi = some api ∧ TTRiingQuad.createOne api statics.opens cfg = .ok ctrl ∧
      after = { statics with opens := statics.opens + 1 } := by
  unfold buildOneController at built
  cases hidapi with
  | none => contradiction
  | some api =>
      cases created : TTRiingQuad.createOne api statics.opens cfg with
      | error e => simp [created] at built
      | ok made =>
          simp only [created] at built
          cases built
          exact ⟨api, rfl, created, rfl⟩

theorem buildControllersFromConfig_member {hidapi : Option HidApi} {cfgs : List ControllerCfg}
    {statics : Statics} {ctrl : TTRiingQuad}
    (member : ctrl ∈ (buildControllersFromConfig hidapi cfgs statics).1) :
    ∃ api attempt, ∃ cfg ∈ cfgs, hidapi = some api ∧ TTRiingQuad.createOne api attempt cfg = .ok ctrl := by
  induction cfgs generalizing statics with
  | nil => simp [buildControllersFromConfig] at member
  | cons cfg rest ih =>
      unfold buildControllersFromConfig at member
      cases built : buildOneController hidapi cfg statics with
      | ok made after =>
          simp only [built, List.mem_cons] at member
          rcases member with rfl | member
          · obtain ⟨api, bus, created, -⟩ := buildOneController_ok built
            exact ⟨api, _, cfg, by simp, bus, created⟩
          · obtain ⟨api, attempt, other, listed, result⟩ := ih member
            exact ⟨api, attempt, other, by simp [listed], result⟩
      | error e after =>
          simp only [built] at member
          obtain ⟨api, attempt, other, listed, result⟩ := ih member
          exact ⟨api, attempt, other, by simp [listed], result⟩

/-- The wire of the device that `cfg` selects, when the n-th `open` of the process finds it. -/
def found (hidapi : Option HidApi) (attempt : Nat) (cfg : ControllerCfg) : Option Wire :=
  match hidapi with
  | none => none
  | some api =>
      match api.link attempt cfg.usb.vid cfg.usb.pid with
      | .ok (_, wire) => some wire
      | .error _ => none

def opened (hidapi : Option HidApi) : List ControllerCfg → Nat → List (ControllerCfg × Wire)
  | [], _ => []
  | cfg :: rest, attempt =>
      match found hidapi attempt cfg with
      | some wire => (cfg, wire) :: opened hidapi rest (attempt + 1)
      | none => opened hidapi rest (attempt + 1)

theorem found_of_built {hidapi : Option HidApi} {cfg : ControllerCfg} {statics after : Statics}
    {ctrl : TTRiingQuad} (built : buildOneController hidapi cfg statics = .ok ctrl after) :
    found hidapi statics.opens cfg = some ctrl.dev.wire ∧ ctrl.name = cfg.getId ∧
      after.opens = statics.opens + 1 := by
  obtain ⟨api, rfl, created, rfl⟩ := buildOneController_ok built
  obtain ⟨name, -, info, wire, link, dev⟩ := TTRiingQuad.createOne_ok created
  exact ⟨by simp [found, link, dev, HidDevice.opened], name, rfl⟩

theorem not_found_of_error {hidapi : Option HidApi} {cfg : ControllerCfg} {statics after : Statics}
    {e : Error} (built : buildOneController hidapi cfg statics = .error e after) :
    found hidapi statics.opens cfg = none ∧ (hidapi = none ∨ after.opens = statics.opens + 1) := by
  cases hidapi with
  | none => exact ⟨rfl, .inl rfl⟩
  | some api =>
      obtain ⟨id, usb, fans⟩ := cfg
      simp only [buildOneController, TTRiingQuad.createOne, HidApi.openDevice] at built
      cases link : api.link statics.opens usb.vid usb.pid with
      | ok device => simp [link] at built
      | error message =>
          simp only [link, EStateM.Result.error.injEq] at built
          exact ⟨by simp [found, ControllerCfg.usb, link], .inr (by rw [← built.2])⟩

theorem cacheConfig_opens (statics : Statics) (controller : TTRiingQuad) (cfg : ControllerCfg) :
    (cacheConfig statics controller cfg).opens = statics.opens := by
  unfold cacheConfig
  split <;> rfl

theorem opened_none (cfgs : List ControllerCfg) (attempt : Nat) : opened none cfgs attempt = [] := by
  induction cfgs generalizing attempt with
  | nil => rfl
  | cons cfg rest ih => exact ih (attempt + 1)

theorem buildControllersFromConfig_opened (hidapi : Option HidApi) (cfgs : List ControllerCfg)
    (statics : Statics) :
    (buildControllersFromConfig hidapi cfgs statics).1.map (fun ctrl => (ctrl.getId, ctrl.dev.wire)) =
      (opened hidapi cfgs statics.opens).map fun entry => (entry.1.getId, entry.2) := by
  induction cfgs generalizing statics with
  | nil => rfl
  | cons cfg rest ih =>
      unfold buildControllersFromConfig opened
      cases built : buildOneController hidapi cfg statics with
      | ok ctrl after =>
          obtain ⟨wire, name, count⟩ := found_of_built built
          have others := ih (cacheConfig after ctrl cfg)
          rw [cacheConfig_opens, count] at others
          have id : ctrl.getId = cfg.getId := name
          simp only [wire, List.map_cons, others, id]
      | error e after =>
          obtain ⟨closed, none_or_count⟩ := not_found_of_error built
          have others := ih after
          rcases none_or_count with rfl | count
          · rw [opened_none] at others
            simp only [closed, others, opened_none]
          · rw [count] at others
            simp only [closed, others]

def configFor (statics : Statics) (fingerprint : HardwareFingerprint) : ControllerCfg :=
  (statics.cache.lookup fingerprint).getD (TTRiingQuad.createFallbackConfigInternal fingerprint)

theorem buildOneController_isOk (hidapi : Option HidApi) (cfg : ControllerCfg) (statics : Statics) :
    (buildOneController hidapi cfg statics).isOk = (found hidapi statics.opens cfg).isSome := by
  cases built : buildOneController hidapi cfg statics with
  | ok ctrl after => rw [(found_of_built built).1]; rfl
  | error e after => rw [(not_found_of_error built).1]; rfl

theorem buildOneController_cache (hidapi : Option HidApi) (cfg : ControllerCfg) (statics : Statics) :
    (buildOneController hidapi cfg statics).state.cache = statics.cache := by
  unfold buildOneController
  cases hidapi with
  | none => rfl
  | some api =>
      simp only
      split <;> rfl

/-- A controller is built from the configuration that is cached, or else made up, for its fingerprint. -/
theorem buildControllerFromFingerprint_cases (hidapi : Option HidApi) (fingerprint : HardwareFingerprint)
    (statics : Statics) :
    (∃ ctrl opened after,
      buildOneController hidapi (configFor statics fingerprint) statics = .ok ctrl opened ∧
        buildControllerFromFingerprint hidapi fingerprint statics = .ok ctrl after ∧
        AList.Sets fingerprint (configFor statics fingerprint) statics.cache after.cache) ∨
      ∃ cause e after,
        buildOneController hidapi (configFor statics fingerprint) statics = .error cause after ∧
          buildControllerFromFingerprint hidapi fingerprint statics = .error e after ∧
          after.cache = statics.cache := by
  have unchanged := buildOneController_cache hidapi (configFor statics fingerprint) statics
  unfold buildControllerFromFingerprint
  cases cached : statics.cache.lookup fingerprint with
  | some config =>
      have own : configFor statics fingerprint = config := by rw [configFor, cached, Option.getD_some]
      rw [own] at unchanged ⊢
      cases built : buildOneController hidapi config statics with
      | ok ctrl after =>
          rw [built] at unchanged
          refine .inl ⟨ctrl, after, after, rfl, built, ?_⟩
          rw [show after.cache = statics.cache from unchanged]
          exact AList.sets_of_lookup cached
      | error e after =>
          rw [built] at unchanged
          exact .inr ⟨e, e, after, rfl, built, unchanged⟩
  | none =>
      have own : configFor statics fingerprint = TTRiingQuad.hardwareInfo.createFallbackConfig fingerprint := by
        rw [configFor, cached, Option.getD_none]
        rfl
      rw [own] at unchanged ⊢
      simp only [buildDefaultController]
      cases built : buildOneController hidapi (TTRiingQuad.hardwareInfo.createFallbackConfig fingerprint)
          statics with
      | ok ctrl after =>
          rw [built] at unchanged
          refine .inl ⟨ctrl, after, _, rfl, rfl, ?_⟩
          rw [← show after.cache = statics.cache from unchanged]
          exact AList.sets_insert _ _ _
      | error cause after =>
          rw [built] at unchanged
          exact .inr ⟨cause, _, after, rfl, rfl, unchanged⟩

theorem buildControllerFromFingerprint_ok {hidapi : Option HidApi} {fingerprint : HardwareFingerprint}
    {statics after : Statics} {ctrl : TTRiingQuad}
    (built : buildControllerFromFingerprint hidapi fingerprint statics = .ok ctrl after) :
    ∃ api, hidapi = some api ∧
      TTRiingQuad.createOne api statics.opens (configFor statics fingerprint) = .ok ctrl ∧
      found hidapi statics.opens (configFor statics fingerprint) = some ctrl.dev.wire := by
  rcases buildControllerFromFingerprint_cases hidapi fingerprint statics with
    ⟨made, opened, state, one, same, -⟩ | ⟨cause, e, state, -, failed, -⟩
  · rw [same] at built
    cases built
    obtain ⟨api, bus, created, -⟩ := buildOneController_ok one
    exact ⟨api, bus, created, (found_of_built one).1⟩
  · rw [failed] at built
    contradiction

/-- A successful build leaves the configuration it used in the cache. -/
theorem buildControllerFromFingerprint_caches {hidapi : Option HidApi} {fingerprint : HardwareFingerprint}
    {statics after : Statics} {ctrl : TTRiingQuad}
    (built : buildControllerFromFingerprint hidapi fingerprint statics = .ok ctrl after) :
    AList.Sets fingerprint (configFor statics fingerprint) statics.cache after.cache := by
  rcases buildControllerFromFingerprint_cases hidapi fingerprint statics with
    ⟨made, opened, state, -, same, caches⟩ | ⟨cause, e, state, -, failed, -⟩
  · rw [same] at built
    cases built
    exact caches
  · rw [failed] at built
    contradiction

theorem buildControllerFromFingerprint_error {hidapi : Option HidApi} {fingerprint : HardwareFingerprint}
    {statics after : Statics} {e : Error}
    (failed : buildControllerFromFingerprint hidapi fingerprint statics = .error e after) :
    after.cache = statics.cache := by
  rcases buildControllerFromFingerprint_cases hidapi fingerprint statics with
    ⟨made, opened, state, -, built, -⟩ | ⟨cause, reason, state, -, same, unchanged⟩
  · rw [built] at failed
    contradiction
  · rw [same] at failed
    cases failed
    exact unchanged

theorem buildControllerFromFingerprint_isOk (hidapi : Option HidApi) (fingerprint : HardwareFingerprint)
    (statics : Statics) :
    (buildControllerFromFingerprint hidapi fingerprint statics).isOk =
      (found hidapi statics.opens (configFor statics fingerprint)).isSome := by
  rw [← buildOneController_isOk]
  rcases buildControllerFromFingerprint_cases hidapi fingerprint statics with
    ⟨made, opened, state, one, built, -⟩ | ⟨cause, e, state, one, failed, -⟩
  · rw [one, built]
    rfl
  · rw [one, failed]
    rfl

end Registry

end TtRiingd.Drivers
