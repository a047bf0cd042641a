import TtRiingd.Config.Merge

/-!
# Controllers without an entry

`mergeWithConfig` gives a detected device without an entry a controller whose id starts with
`fallback_`, and `ensureMappings` adds targets for the controllers whose id starts with `autogenerated`.
-/

namespace TtRiingd
open Drivers Registry ConfigManager

/-! ## The pass over the devices -/

theorem scanHardware_info {hidapi : Option HidApi} {detected : DetectedController}
    (listed : detected ∈ scanHardware hidapi) : detected.hardwareInfo = TTRiingQuad.hardwareInfo := by
  rw [scanHardware_eq] at listed
  obtain ⟨device, -, known, -⟩ := mem_scanFor listed
  exact List.mem_singleton.mp known

theorem fallbackFor_usb {detected : DetectedController}
    (info : detected.hardwareInfo = TTRiingQuad.hardwareInfo) :
    (fallbackFor detected).usb = ⟨detected.hardwareInfo.vid, detected.detectedPid, none⟩ := by
  rw [fallbackFor, info]
  rfl

theorem supported_copiesIds : ∀ hwInfo ∈ getSupportedHardware, hwInfo.CopiesIds :=
  List.forall_mem_singleton.mpr TTRiingQuad.hardwareInfo_copiesIds

/-- The controllers of the merged configuration that drive a device without an entry are the one made up
for it. -/
theorem mergeWithConfig_added {hidapi : Option HidApi} {config : Config} {detected : DetectedController}
    (listed : detected ∈ scanHardware hidapi)
    (unlisted : controllerExistsInConfig config.controllers detected = false) :
    fallbackFor detected ∈ (mergeWithConfig hidapi config).controllers ∧
      ∀ cfg ∈ (mergeWithConfig hidapi config).controllers, cfg.usb.vid = detected.hardwareInfo.vid →
        cfg.usb.pid = detected.detectedPid → cfg = fallbackFor detected := by
  have present := mergeFor_covered supported_copiesIds config (scanHardware_eq hidapi ▸ listed)
  obtain ⟨added, result, -, origin⟩ := mergeFor_appended supported_copiesIds hidapi config
  rw [← mergeWithConfig_eq] at present result
  have only : ∀ cfg ∈ (mergeWithConfig hidapi config).controllers, cfg.ids = detected.ids →
      cfg = fallbackFor detected := by
    intro cfg member ids
    rw [result] at member
    rcases List.mem_append.mp member with given | new
    · have entry : controllerExistsInConfig config.controllers detected = true :=
        controllerExists_iff.mpr (List.mem_map.mpr ⟨cfg, given, ids⟩)
      rw [unlisted] at entry
      contradiction
    · obtain ⟨-, device, -, hwInfo, known, -, own, made⟩ := origin cfg new
      have info : hwInfo = detected.hardwareInfo := (List.mem_singleton.mp known).trans (scanHardware_info listed).symm
      have same : (device.vendorId, device.productId) = detected.ids := own.symm.trans ids
      rw [DetectedController.ids, Prod.mk.injEq] at same
      rw [made, info, same.1, same.2, fallbackFor]
  obtain ⟨cfg, member, ids⟩ := List.mem_map.mp present
  exact ⟨only cfg member ids ▸ member, fun cfg member vid pid => only cfg member (Prod.ext vid pid)⟩

/-! ## The pass over the mappings -/

theorem fanTargets_ids {controller : ControllerCfg} {targets : List FanTarget}
    (collected : fanTargets controller = .ok targets) :
    ∀ target ∈ targets, target.controllerId = controller.getId := by
  unfold fanTargets at collected
  split at collected
  · cases collected
    simp
  · contradiction

theorem autogeneratedTargets_start {controllers : List ControllerCfg} {targets : List FanTarget}
    (collected : autogeneratedTargets controllers = .ok targets) :
    ∀ target ∈ targets, startsWith "autogenerated" target.controllerId = true := by
  induction controllers generalizing targets with
  | nil =>
      cases collected
      simp
  | cons controller rest ih =>
      simp only [autogeneratedTargets, bind, Except.bind] at collected
      cases others : autogeneratedTargets rest with
      | error fault =>
          simp only [others] at collected
          split at collected
          · split at collected <;> contradiction
          · contradiction
      | ok otherTargets =>
          simp only [others] at collected
          intro target member
          split at collected
          · rename_i start
            cases own : fanTargets controller with
            | error fault => simp [own] at collected
            | ok ownTargets =>
                simp only [own, Except.ok.injEq] at collected
                rcases List.mem_append.mp (collected ▸ member) with member | member
                · rw [fanTargets_ids own target member]
                  exact start
                · exact ih others target member
          · simp only [List.nil_append, Except.ok.injEq] at collected
            exact ih others target (collected ▸ member)

theorem ensureMappings_ok {before config : Config} (ensured : ensureMappings before = .ok config) :
    ∃ targets, (∀ target ∈ targets, startsWith "autogenerated" target.controllerId = true) ∧
      config = { before with
        mappings := before.mappings ++ [{ MappingCfg.dummy with targets := targets }]
        curves := before.curves ++ [CurveCfg.constant "dummy_curve" 80]
        activeCurveMappings :=
          before.activeCurveMappings ++ [{ CurveMappingCfg.dummy with targets := targets }]
        effects := before.effects ++ [EffectCfg.constantColor "dummy_effect" ⟨255, 0, 0⟩]
        effectMappings :=
          before.effectMappings ++ [{ EffectMappingCfg.dummy with targets := targets }] } := by
  simp only [ensureMappings, bind, Except.bind] at ensured
  cases collected : autogeneratedTargets before.controllers with
  | error fault => simp [collected] at ensured
  | ok targets =>
      simp only [collected, Except.ok.injEq] at ensured
      exact ⟨targets, autogeneratedTargets_start collected, ensured.symm⟩

/-! ## Which added controllers are driven -/

structure Covered (config : Config) (target : FanTarget) : Prop where
  sensor : ∃ mapping ∈ config.mappings, target ∈ mapping.targets
  curve : ∃ mapping ∈ config.activeCurveMappings, target ∈ mapping.targets ∧
    ∃ curve ∈ config.curves, curve.getId = mapping.curve
  effect : ∃ mapping ∈ config.effectMappings, target ∈ mapping.targets ∧
    ∃ effect ∈ config.effects, effect.getId = mapping.effect

def AddedDriven (hidapi : Option HidApi) (parsed config : Config) : Prop :=
  ∀ detected ∈ scanHardware hidapi, controllerExistsInConfig parsed.controllers detected = false →
    ∃ cfg ∈ config.controllers,
      cfg.usb.vid = detected.hardwareInfo.vid ∧ cfg.usb.pid = detected.detectedPid ∧
      ∀ channel, 1 ≤ channel → channel ≤ detected.hardwareInfo.channelCount →
        Covered config ⟨cfg.getId, channel⟩

/-- The mappings of the file cover the target, with the curve and the effect that are added to every file
counted as its own. -/
structure FileCovers (parsed : Config) (target : FanTarget) : Prop where
  sensor : ∃ mapping ∈ parsed.mappings, target ∈ mapping.targets
  curve : ∃ mapping ∈ parsed.activeCurveMappings, target ∈ mapping.targets ∧
    (mapping.curve = "dummy_curve" ∨ ∃ curve ∈ parsed.curves, curve.getId = mapping.curve)
  effect : ∃ mapping ∈ parsed.effectMappings, target ∈ mapping.targets ∧
    (mapping.effect = "dummy_effect" ∨ ∃ effect ∈ parsed.effects, effect.getId = mapping.effect)

theorem fallbackId_not_autogenerated {detected : DetectedController}
    (info : detected.hardwareInfo = TTRiingQuad.hardwareInfo) :
    startsWith "autogenerated" (fallbackFor detected).getId = false := by
  have first : ∃ rest, (fallbackFor detected).getId.toList = 'f' :: rest := by
    rw [fallbackFor, info]
    change ∃ rest, (TTRiingQuad.createFallbackConfigInternal _).getId.toList = 'f' :: rest
    simp only [TTRiingQuad.createFallbackConfigInternal, ControllerCfg.getId, String.toList_append]
    exact ⟨_, rfl⟩
  obtain ⟨rest, chars⟩ := first
  rw [startsWith, chars]
  rfl

theorem exists_mem_append_singleton {α : Type} {xs : List α} {last : α} {p : α → Prop} :
    (∃ x ∈ xs ++ [last], p x) ↔ (∃ x ∈ xs, p x) ∨ p last := by
  simp only [List.mem_append, List.mem_singleton, or_and_right, exists_or, exists_eq_left]

theorem covered_iff_fileCovers {hidapi : Option HidApi} {parsed config : Config} {target : FanTarget}
    (ensured : ensureMappings (mergeWithConfig hidapi parsed) = .ok config)
    (plain : startsWith "autogenerated" target.controllerId = false) :
    Covered config target ↔ FileCovers parsed target := by
  obtain ⟨targets, start, rfl⟩ := ensureMappings_ok ensured
  have absent : target ∉ targets := by
    intro member
    rw [start target member] at plain
    contradiction
  -- The mappings that were added are for other targets; the curve and the effect that were added count.
  have sensor : (∃ mapping ∈ parsed.mappings ++ [{ MappingCfg.dummy with targets := targets }],
      target ∈ mapping.targets) ↔ ∃ mapping ∈ parsed.mappings, target ∈ mapping.targets :=
    exists_mem_append_singleton.trans (or_iff_left absent)
  have curve : (∃ mapping ∈ parsed.activeCurveMappings ++ [{ CurveMappingCfg.dummy with targets := targets }],
      target ∈ mapping.targets ∧
        ∃ curve ∈ parsed.curves ++ [CurveCfg.constant "dummy_curve" 80], curve.getId = mapping.curve) ↔
      ∃ mapping ∈ parsed.activeCurveMappings, target ∈ mapping.targets ∧
        (mapping.curve = "dummy_curve" ∨ ∃ curve ∈ parsed.curves, curve.getId = mapping.curve) := by
    refine exists_mem_append_singleton.trans ((or_iff_left fun last => absent last.1).trans ?_)
    refine exists_congr fun mapping => and_congr_right fun _ => and_congr_right fun _ => ?_
    exact exists_mem_append_singleton.trans (or_comm.trans (or_congr_left eq_comm))
  have effect : (∃ mapping ∈ parsed.effectMappings ++ [{ EffectMappingCfg.dummy with targets := targets }],
      target ∈ mapping.targets ∧
        ∃ effect ∈ parsed.effects ++ [EffectCfg.constantColor "dummy_effect" ⟨255, 0, 0⟩],
          effect.getId = mapping.effect) ↔
      ∃ mapping ∈ parsed.effectMappings, target ∈ mapping.targets ∧
        (mapping.effect = "dummy_effect" ∨ ∃ effect ∈ parsed.effects, effect.getId = mapping.effect) := by
    refine exists_mem_append_singleton.trans ((or_iff_left fun last => absent last.1).trans ?_)
    refine exists_congr fun mapping => and_congr_right fun _ => and_congr_right fun _ => ?_
    exact exists_mem_append_singleton.trans (or_comm.trans (or_congr_left eq_comm))
  constructor
  · intro covered
    exact ⟨sensor.mp covered.sensor, curve.mp covered.curve, effect.mp covered.effect⟩
  · intro fileCovers
    exact ⟨sensor.mpr fileCovers.sensor, curve.mpr fileCovers.curve, effect.mpr fileCovers.effect⟩

theorem addedDriven_iff {hidapi : Option HidApi} {path : String} {parsed config : Config}
    (loaded : loadConfigFromPath hidapi path (.parsed parsed) = .ok config) :
    AddedDriven hidapi parsed config ↔ ∀ detected ∈ scanHardware hidapi,
      controllerExistsInConfig parsed.controllers detected = false →
      ∀ channel, 1 ≤ channel → channel ≤ detected.hardwareInfo.channelCount →
        FileCovers parsed ⟨(fallbackFor detected).getId, channel⟩ := by
  obtain ⟨_, same, -, -, ensured⟩ := loadConfigFromPath_ok loaded
  cases same
  have controllers : config.controllers = (mergeWithConfig hidapi parsed).controllers := by
    obtain ⟨targets, -, rfl⟩ := ensureMappings_ok ensured
    rfl
  refine forall₃_congr fun detected listed unlisted => ?_
  have info := scanHardware_info listed
  obtain ⟨added, only⟩ := mergeWithConfig_added listed unlisted
  have covered (channel : UInt8) := covered_iff_fileCovers ensured
    (show startsWith "autogenerated" (⟨(fallbackFor detected).getId, channel⟩ : FanTarget).controllerId =
      false from fallbackId_not_autogenerated info)
  rw [controllers]
  constructor
  · rintro ⟨cfg, member, vid, pid, driven⟩ channel first last
    rw [only cfg member vid pid] at driven
    exact (covered channel).mp (driven channel first last)
  · intro fileCovers
    refine ⟨fallbackFor detected, added, ?_, ?_, fun channel first last => ?_⟩
    · rw [fallbackFor_usb info]
    · rw [fallbackFor_usb info]
    · exact (covered channel).mpr (fileCovers channel first last)

def onePlugged : HidApi := { quietApi with deviceList := [⟨0x264a, 0x232B, none⟩] }

def fallbackTargets : List FanTarget := [1, 2, 3, 4, 5].map fun channel => ⟨"fallback_9802:9003", channel⟩

def coveringFile : Config where
  mappings := [⟨"cpu", fallbackTargets⟩]
  activeCurveMappings := [⟨"dummy_curve", fallbackTargets⟩]
  effectMappings := [⟨"dummy_effect", fallbackTargets⟩]

theorem scan_onePlugged : scanHardware (some onePlugged) = [⟨TTRiingQuad.hardwareInfo, 0x232B⟩] := rfl

theorem mem_fallbackTargets {channel : UInt8} (first : 1 ≤ channel) (last : channel ≤ 5) :
    ⟨"fallback_9802:9003", channel⟩ ∈ fallbackTargets := by
  refine List.mem_map.mpr ⟨channel, ?_, rfl⟩
  simp only [List.mem_cons, List.not_mem_nil, or_false, ← UInt8.toNat_inj]
  rw [UInt8.le_iff_toNat_le] at first last
  have lower : 1 ≤ channel.toNat := first
  have upper : channel.toNat ≤ 5 := last
  change channel.toNat = 1 ∨ channel.toNat = 2 ∨ channel.toNat = 3 ∨ channel.toNat = 4 ∨ channel.toNat = 5
  omega

theorem addedDriven_coveringFile :
    ∃ config, loadConfigFromPath (some onePlugged) "config.yml" (.parsed coveringFile) = .ok config ∧
      scanHardware (some onePlugged) ≠ [] ∧ AddedDriven (some onePlugged) coveringFile config := by
  have load : ∃ config,
      loadConfigFromPath (some onePlugged) "config.yml" (.parsed coveringFile) = .ok config := ⟨_, rfl⟩
  obtain ⟨config, loaded⟩ := load
  refine ⟨config, loaded, by simp [scan_onePlugged], (addedDriven_iff loaded).mpr ?_⟩
  rw [scan_onePlugged]
  intro detected listed unlisted channel first last
  cases List.mem_singleton.mp listed
  have target := mem_fallbackTargets first last
  exact ⟨⟨_, .head _, target⟩, ⟨_, .head _, target, .inl rfl⟩, ⟨_, .head _, target, .inl rfl⟩⟩

theorem added_controller_undriven :
    ∃ config, loadConfigFromPath (some onePlugged) "config.yml" (.parsed {}) = .ok config ∧
      config.controllers = [.riingQuad "fallback_9802:9003" ⟨0x264a, 0x232B, none⟩ []] ∧
      ¬ AddedDriven (some onePlugged) {} config := by
  have load : ∃ config, loadConfigFromPath (some onePlugged) "config.yml" (.parsed {}) = .ok config ∧
      ensureMappings (mergeWithConfig (some onePlugged) {}) = .ok config ∧
      config.controllers = [.riingQuad "fallback_9802:9003" ⟨0x264a, 0x232B, none⟩ []] :=
    ⟨_, rfl, rfl, by decide⟩
  obtain ⟨config, loaded, ensured, controllers⟩ := load
  refine ⟨config, loaded, controllers, fun driven => ?_⟩
  have listed : ⟨TTRiingQuad.hardwareInfo, 0x232B⟩ ∈ scanHardware (some onePlugged) := .head _
  obtain ⟨cfg, member, -, -, covered⟩ := driven _ listed rfl
  rw [controllers] at member
  cases List.mem_singleton.mp member
  have fileCovers := (covered_iff_fileCovers ensured rfl).mp (covered 1 (by decide) (by decide))
  obtain ⟨mapping, given, -⟩ := fileCovers.sensor
  contradiction

end TtRiingd
