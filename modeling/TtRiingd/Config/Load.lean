import TtRiingd.Drivers.Registry

namespace TtRiingd
open Drivers

inductive FileContent where
  | unreadable (message : String)
  | unparsable (message : String)
  | parsed (config : Config)

def Config.validate (config : Config) : Except Error Unit :=
  let unsupported := Registry.validateSupportedControllers config
  if unsupported.isEmpty then .ok ()
  else .error (anyhow ("Unsupported controllers found: \n" ++ String.intercalate "\n" unsupported))

namespace ConfigManager

def startsWith (start text : String) : Bool := start.toList.isPrefixOf text.toList

def fanTargets (controller : ControllerCfg) : Except Fault (List FanTarget) :=
  match controller.getFansCount with
  | .ok count => .ok ((List.range count).map fun index => ⟨controller.getId, UInt8.ofNat (index + 1)⟩)
  | .error fault => .error fault

def autogeneratedTargets : List ControllerCfg → Except Fault (List FanTarget)
  | [] => .ok []
  | controller :: rest => do
      let targets ←
        if startsWith "autogenerated" controller.getId then fanTargets controller else .ok []
      let others ← autogeneratedTargets rest
      .ok (targets ++ others)

def ensureMappings (config : Config) : Except Fault Config := do
  -- The three loops of the source collect the same targets.
  let targets ← autogeneratedTargets config.controllers
  .ok { config with
    mappings := config.mappings ++ [{ MappingCfg.dummy with targets := targets }]
    curves := config.curves ++ [.constant "dummy_curve" 80]
    activeCurveMappings :=
      config.activeCurveMappings ++ [{ CurveMappingCfg.dummy with targets := targets }]
    effects := config.effects ++ [.constantColor "dummy_effect" ⟨255, 0, 0⟩]
    effectMappings := config.effectMappings ++ [{ EffectMappingCfg.dummy with targets := targets }] }

def loadConfigFromPath (hidapi : Option HidApi) (path : String) (content : FileContent) :
    Except Fault Config :=
  match content with
  | .unreadable message => .error (.error ((anyhow message).context s!"Failed to read config file: {path}"))
  | .unparsable message => .error (.error ((anyhow message).context s!"Failed to parse YAML in: {path}"))
  | .parsed config =>
      if config.version ≠ 1 then
        .error (.error (anyhow s!"Unsupported config version {config.version} in file: {path}"))
      else
        match config.validate with
        | .error e => .error (.error (e.context s!"Configuration validation failed for: {path}"))
        | .ok () => ensureMappings (Registry.mergeWithConfig hidapi config)

theorem loadConfigFromPath_ok {hidapi : Option HidApi} {path : String} {content : FileContent}
    {config : Config} (accepted : loadConfigFromPath hidapi path content = .ok config) :
    ∃ parsed, content = .parsed parsed ∧ parsed.version = 1 ∧ parsed.validate = .ok () ∧
      ensureMappings (Registry.mergeWithConfig hidapi parsed) = .ok config := by
  unfold loadConfigFromPath at accepted
  cases content with
  | unreadable message => contradiction
  | unparsable message => contradiction
  | parsed parsed =>
      by_cases version : parsed.version = 1
      · cases valid : parsed.validate with
        | error e => simp [version, valid] at accepted
        | ok value => exact ⟨parsed, rfl, version, valid, by simpa [version, valid] using accepted⟩
      · simp [version] at accepted

end ConfigManager

end TtRiingd
