import TtRiingd.Config.Load
import TtRiingd.Library.Extend

/-!
# Merging the detected hardware

The table of supported hardware is a parameter here, since drivers are to be added to it. The registry's
own functions are these for `getSupportedHardware`.
-/

namespace TtRiingd
open Drivers Registry

def ControllerCfg.ids (cfg : ControllerCfg) : UInt16 × UInt16 := (cfg.usb.vid, cfg.usb.pid)

def addDetected (controllers : List ControllerCfg) (detected : DetectedController) : List ControllerCfg :=
  if controllerExistsInConfig controllers detected then controllers
  else controllers ++ [fallbackFor detected]

namespace Drivers

def HardwareInfo.Supports (hwInfo : HardwareInfo) (vid pid : UInt16) : Prop := hwInfo.vid = vid ∧ pid ∈ hwInfo.pids

/-- The fallback configuration is for the device with the fingerprint. -/
def HardwareInfo.CopiesIds (hwInfo : HardwareInfo) : Prop := ∀ fingerprint,
  (hwInfo.createFallbackConfig fingerprint).usb.vid = fingerprint.vendorId ∧
    (hwInfo.createFallbackConfig fingerprint).usb.pid = fingerprint.productId

def DetectedController.ids (detected : DetectedController) : UInt16 × UInt16 :=
  (detected.hardwareInfo.vid, detected.detectedPid)

theorem TTRiingQuad.hardwareInfo_copiesIds : TTRiingQuad.hardwareInfo.CopiesIds := fun _ => ⟨rfl, rfl⟩

namespace Registry

def devices (hidapi : Option HidApi) : List DeviceInfo :=
  match hidapi with
  | none => []
  | some api => api.deviceList

section Supported
variable (supportedHardware : List HardwareInfo)

def detect (device : DeviceInfo) : Option DetectedController :=
  (supportedHardware.find? fun hwInfo => device.vendorId = hwInfo.vid ∧ device.productId ∈ hwInfo.pids).map
    fun hwInfo => ⟨hwInfo, device.productId⟩

def scanFor (hidapi : Option HidApi) : List DetectedController :=
  (devices hidapi).filterMap (detect supportedHardware)

def mergeFor (hidapi : Option HidApi) (config : Config) : Config :=
  { config with controllers := (scanFor supportedHardware hidapi).foldl addDetected config.controllers }

def validateSupportedFor (config : Config) : List String :=
  config.controllers.filterMap fun cfg =>
    let usb := extractUsbInfo cfg
    if supportedHardware.any fun hw => hw.vid = usb.vid ∧ usb.pid ∈ hw.pids then none
    else some s!"Controller '{cfg.getId}' (VID:PID {hex usb.vid}:{hex usb.pid}) is not supported"

def validateFor (config : Config) : Except Error Unit :=
  let unsupported := validateSupportedFor supportedHardware config
  if unsupported.isEmpty then .ok ()
  else .error (anyhow ("Unsupported controllers found: \n" ++ String.intercalate "\n" unsupported))

end Supported

theorem scanHardware_eq (hidapi : Option HidApi) : scanHardware hidapi = scanFor getSupportedHardware hidapi := by
  cases hidapi <;> rfl

theorem mergeWithConfig_eq (hidapi : Option HidApi) (config : Config) :
    mergeWithConfig hidapi config = mergeFor getSupportedHardware hidapi config := by
  rw [mergeWithConfig, mergeFor, ← scanHardware_eq]
  rfl

theorem validate_eq (config : Config) : config.validate = validateFor getSupportedHardware config := rfl

/-! ## What is scanned and what is valid -/

section Supported
variable {supportedHardware : List HardwareInfo} {hidapi : Option HidApi} {config : Config}

theorem detect_cases (supportedHardware : List HardwareInfo) (device : DeviceInfo) :
    (detect supportedHardware device = none ∧
      ∀ hwInfo ∈ supportedHardware, ¬ hwInfo.Supports device.vendorId device.productId) ∨
    ∃ hwInfo ∈ supportedHardware, hwInfo.Supports device.vendorId device.productId ∧
      detect supportedHardware device = some ⟨hwInfo, device.productId⟩ := by
  unfold detect
  cases found : supportedHardware.find? fun hwInfo =>
      device.vendorId = hwInfo.vid ∧ device.productId ∈ hwInfo.pids with
  | none =>
      refine .inl ⟨rfl, fun hwInfo listed supports => ?_⟩
      have fails := List.find?_eq_none.mp found hwInfo listed
      exact fails (decide_eq_true ⟨supports.1.symm, supports.2⟩)
  | some hwInfo =>
      have holds := List.find?_some found
      simp only [decide_eq_true_eq] at holds
      exact .inr ⟨hwInfo, List.mem_of_find?_eq_some found, ⟨holds.1.symm, holds.2⟩, rfl⟩

theorem mem_scanFor {detected : DetectedController} (listed : detected ∈ scanFor supportedHardware hidapi) :
    ∃ device ∈ devices hidapi, detected.hardwareInfo ∈ supportedHardware ∧
      detected.hardwareInfo.Supports device.vendorId device.productId ∧
      detected.detectedPid = device.productId := by
  obtain ⟨device, plugged, selected⟩ := List.mem_filterMap.mp listed
  rcases detect_cases supportedHardware device with ⟨undetected, -⟩ | ⟨hwInfo, known, supports, same⟩
  · rw [undetected] at selected
    contradiction
  · rw [same, Option.some.injEq] at selected
    subst selected
    exact ⟨device, plugged, known, supports, rfl⟩

theorem exists_scanFor {device : DeviceInfo} (plugged : device ∈ devices hidapi)
    (supported : ∃ hwInfo ∈ supportedHardware, hwInfo.Supports device.vendorId device.productId) :
    ∃ detected ∈ scanFor supportedHardware hidapi,
      detected.hardwareInfo.vid = device.vendorId ∧ detected.detectedPid = device.productId := by
  rcases detect_cases supportedHardware device with ⟨-, unsupported⟩ | ⟨hwInfo, -, supports, same⟩
  · obtain ⟨hwInfo, known, supports⟩ := supported
    exact absurd supports (unsupported hwInfo known)
  · exact ⟨⟨hwInfo, device.productId⟩, List.mem_filterMap.mpr ⟨device, plugged, same⟩, supports.1, rfl⟩

theorem validateFor_ok_iff : validateFor supportedHardware config = .ok () ↔ ∀ cfg ∈ config.controllers,
    ∃ hwInfo ∈ supportedHardware, hwInfo.Supports cfg.usb.vid cfg.usb.pid := by
  have passes : validateFor supportedHardware config = .ok () ↔
      validateSupportedFor supportedHardware config = [] := by
    simp only [validateFor]
    split <;> simp_all
  rw [passes, validateSupportedFor, List.filterMap_eq_nil_iff]
  refine forall₂_congr fun cfg member => ?_
  rw [ite_eq_left_iff]
  simp only [reduceCtorEq, imp_false, not_not, List.any_eq_true]
  exact exists_congr fun hwInfo => and_congr_right fun _ => decide_eq_true_iff

/-! ## The pass over the devices -/

theorem controllerExists_iff {controllers : List ControllerCfg} {detected : DetectedController} :
    controllerExistsInConfig controllers detected = true ↔ detected.ids ∈ controllers.map ControllerCfg.ids := by
  rw [controllerExistsInConfig, List.any_eq_true, List.mem_map]
  refine exists_congr fun cfg => and_congr_right fun _ => ?_
  exact decide_eq_true_iff.trans (Prod.mk.injEq _ _ _ _).to_iff.symm

theorem addDetected_eq :
    addDetected = List.addMissing ControllerCfg.ids DetectedController.ids fallbackFor := by
  funext controllers detected
  rw [addDetected, List.addMissing]
  by_cases listed : detected.ids ∈ controllers.map ControllerCfg.ids
  · rw [if_pos listed, if_pos (controllerExists_iff.mpr listed)]
  · rw [if_neg listed, if_neg (mt controllerExists_iff.mp listed)]

theorem mergeFor_controllers : (mergeFor supportedHardware hidapi config).controllers =
    List.addAllMissing ControllerCfg.ids DetectedController.ids fallbackFor config.controllers
      (scanFor supportedHardware hidapi) := by
  rw [mergeFor, addDetected_eq]
  rfl

theorem fallbackFor_ids {detected : DetectedController} (copies : detected.hardwareInfo.CopiesIds) :
    (fallbackFor detected).ids = detected.ids :=
  Prod.ext (copies _).1 (copies _).2

theorem scanFor_keeps (copies : ∀ hwInfo ∈ supportedHardware, hwInfo.CopiesIds) :
    ∀ detected ∈ scanFor supportedHardware hidapi, (fallbackFor detected).ids = detected.ids := by
  intro detected listed
  obtain ⟨device, -, known, -⟩ := mem_scanFor listed
  exact fallbackFor_ids (copies _ known)

/-! ## What merging does -/

structure ConservativeMerge (supportedHardware : List HardwareInfo) (hidapi : Option HidApi) (before after : Config) :
    Prop where
  appended : ∃ added, after.controllers = before.controllers ++ added ∧
    (added.map ControllerCfg.ids).Nodup ∧ ∀ cfg ∈ added, cfg.ids ∉ before.controllers.map ControllerCfg.ids ∧
      ∃ device ∈ devices hidapi, ∃ hwInfo ∈ supportedHardware,
        hwInfo.Supports device.vendorId device.productId ∧ cfg.ids = (device.vendorId, device.productId) ∧
        cfg = hwInfo.createFallbackConfig ⟨device.vendorId, device.productId, none⟩
  covered : ∀ device ∈ devices hidapi,
    (∃ hwInfo ∈ supportedHardware, hwInfo.Supports device.vendorId device.productId) →
      (device.vendorId, device.productId) ∈ after.controllers.map ControllerCfg.ids
  valid : validateFor supportedHardware before = .ok () → validateFor supportedHardware after = .ok ()
  sections : after = { before with controllers := after.controllers }
  -- The devices may be listed in another order, and some may be gone.
  again : ∀ later, devices later ⊆ devices hidapi → mergeFor supportedHardware later after = after

theorem mergeFor_appended (copies : ∀ hwInfo ∈ supportedHardware, hwInfo.CopiesIds) (hidapi : Option HidApi)
    (config : Config) :
    ∃ added, (mergeFor supportedHardware hidapi config).controllers = config.controllers ++ added ∧
      (added.map ControllerCfg.ids).Nodup ∧
      ∀ cfg ∈ added, cfg.ids ∉ config.controllers.map ControllerCfg.ids ∧
        ∃ device ∈ devices hidapi, ∃ hwInfo ∈ supportedHardware,
          hwInfo.Supports device.vendorId device.productId ∧ cfg.ids = (device.vendorId, device.productId) ∧
          cfg = hwInfo.createFallbackConfig ⟨device.vendorId, device.productId, none⟩ := by
  obtain ⟨added, result, missing⟩ := List.addAllMissing_eq_append (scanFor_keeps copies)
  refine ⟨added, mergeFor_controllers.trans result, missing.nodup, fun cfg member => ?_⟩
  obtain ⟨detected, listed, ids, made⟩ := missing.origin cfg member
  obtain ⟨device, plugged, known, supports, pid⟩ := mem_scanFor listed
  refine ⟨missing.absent cfg member, device, plugged, detected.hardwareInfo, known, supports, ?_, ?_⟩
  · rw [← ids, DetectedController.ids, supports.1, pid]
  · rw [← made, fallbackFor, supports.1, pid]

theorem mergeFor_covered (copies : ∀ hwInfo ∈ supportedHardware, hwInfo.CopiesIds) (config : Config)
    {detected : DetectedController} (listed : detected ∈ scanFor supportedHardware hidapi) :
    detected.ids ∈ (mergeFor supportedHardware hidapi config).controllers.map ControllerCfg.ids := by
  rw [mergeFor_controllers]
  exact List.key_mem_addAllMissing (scanFor_keeps copies) listed

theorem mergeFor_valid (copies : ∀ hwInfo ∈ supportedHardware, hwInfo.CopiesIds)
    (valid : validateFor supportedHardware config = .ok ()) :
    validateFor supportedHardware (mergeFor supportedHardware hidapi config) = .ok () := by
  rw [validateFor_ok_iff] at valid ⊢
  obtain ⟨added, result, -, origin⟩ := mergeFor_appended copies hidapi config
  rw [result, List.forall_mem_append]
  refine ⟨valid, fun cfg member => ?_⟩
  obtain ⟨-, device, -, hwInfo, known, supports, ids, -⟩ := origin cfg member
  rw [ControllerCfg.ids, Prod.mk.injEq] at ids
  exact ⟨hwInfo, known, by rw [ids.1, ids.2]; exact supports⟩

theorem mergeFor_of_covered (covered : ∀ detected ∈ scanFor supportedHardware hidapi,
    detected.ids ∈ config.controllers.map ControllerCfg.ids) :
    mergeFor supportedHardware hidapi config = config := by
  have same := mergeFor_controllers.trans (List.addAllMissing_of_listed covered)
  calc
    mergeFor supportedHardware hidapi config =
        { config with controllers := (mergeFor supportedHardware hidapi config).controllers } := rfl
    _ = config := by rw [same]

theorem scanFor_subset {later : Option HidApi} (subset : devices later ⊆ devices hidapi) :
    scanFor supportedHardware later ⊆ scanFor supportedHardware hidapi := by
  intro detected listed
  obtain ⟨device, plugged, selected⟩ := List.mem_filterMap.mp listed
  exact List.mem_filterMap.mpr ⟨device, subset plugged, selected⟩

theorem mergeFor_conservative (copies : ∀ hwInfo ∈ supportedHardware, hwInfo.CopiesIds) (hidapi : Option HidApi)
    (config : Config) : ConservativeMerge supportedHardware hidapi config (mergeFor supportedHardware hidapi config) := by
  constructor
  · exact mergeFor_appended copies hidapi config
  · intro device plugged supported
    obtain ⟨detected, listed, vid, pid⟩ := exists_scanFor plugged supported
    have present := mergeFor_covered copies config listed
    rwa [DetectedController.ids, vid, pid] at present
  · exact mergeFor_valid copies
  · rfl
  · intro later subset
    apply mergeFor_of_covered
    exact fun detected listed => mergeFor_covered copies config (scanFor_subset subset listed)

def secondHardware : HardwareInfo where
  vid := 0x264a
  pids := [0x232B, 0x2260]
  channelCount := 3
  name := "second"
  createFallbackConfig fingerprint := .riingQuad "second" ⟨fingerprint.vendorId, fingerprint.productId, none⟩ []

/-- One model twice, one that is not supported, one of each table entry, and one with an entry in the file. -/
def crowdedApi : HidApi := { quietApi with deviceList := [⟨0x264a, 0x232B, some "A"⟩, ⟨0x1234, 1, none⟩,
  ⟨0x264a, 0x232C, none⟩, ⟨0x264a, 0x232B, some "B"⟩, ⟨0x264a, 0x2260, none⟩] }

def oneListed : Config where
  controllers := [.riingQuad "main" ⟨0x264a, 0x232C, none⟩ []]

theorem mergeFor_conservative_crowded :
    let supportedHardware := [TTRiingQuad.hardwareInfo, secondHardware]
    let merged := mergeFor supportedHardware (some crowdedApi) oneListed
    merged.controllers = [.riingQuad "main" ⟨0x264a, 0x232C, none⟩ [],
      .riingQuad "fallback_9802:9003" ⟨0x264a, 0x232B, none⟩ [], .riingQuad "second" ⟨0x264a, 0x2260, none⟩ []] ∧
    ConservativeMerge supportedHardware (some crowdedApi) oneListed merged := by
  refine ⟨by decide, mergeFor_conservative ?_ _ _⟩
  rw [List.forall_mem_cons, List.forall_mem_singleton]
  exact ⟨TTRiingQuad.hardwareInfo_copiesIds, fun _ => ⟨rfl, rfl⟩⟩

end Supported

end Registry

end Drivers

end TtRiingd
