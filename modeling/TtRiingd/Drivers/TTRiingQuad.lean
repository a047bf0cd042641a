import TtRiingd.Drivers.Controller

namespace TtRiingd.Drivers

structure HardwareFingerprint where
  vendorId : UInt16
  productId : UInt16
  serial : Option String
  deriving DecidableEq

structure HardwareInfo where
  vid : UInt16
  pids : List UInt16
  channelCount : UInt8
  name : String
  createFallbackConfig : HardwareFingerprint → ControllerCfg

/-- The calls that hidapi answers. `link` says what the n-th `open` of the process finds: an error, or
a device with its information and its wire. -/
structure HidApi where
  deviceList : List DeviceInfo
  link : Nat → UInt16 → UInt16 → Except String (Except String DeviceInfo × Wire)

def HidApi.openDevice (api : HidApi) (attempt : Nat) (vid pid : UInt16) : Except String HidDevice :=
  match api.link attempt vid pid with
  | .ok (info, wire) => .ok (.opened info wire)
  | .error message => .error message

def quietWire : Wire where
  writeError _ := none
  answer _ _ := [0, 0, 0xFC, 0, 0]
  arrival _ := .ready

def quietApi : HidApi where
  deviceList := []
  link _ vid pid := .ok (.ok ⟨vid, pid, none⟩, quietWire)

abbrev TTRiingQuad := Controller HidDevice

namespace TTRiingQuad

def onDevice {α : Type} (call : EStateM Error HidDevice α) : EStateM Fault TTRiingQuad α := fun ctrl =>
  match call ctrl.dev with
  | .ok value dev => .ok value { ctrl with dev }
  | .error e dev => .error (.error e) { ctrl with dev }

def mapErr {σ α : Type} (message : Error → String) (call : EStateM Fault σ α) : EStateM Fault σ α :=
  fun state =>
    match call state with
    | .error (.error e) after => .error (.error (anyhow (message e))) after
    | other => other

def sendInit : EStateM Fault TTRiingQuad Unit :=
  mapErr (fun e => s!"Failed to initialize TTRiingQuad controller: {e.display}") (onDevice init)

def processFanInner (idx : Nat) (speed : UInt8) : EStateM Fault TTRiingQuad (UInt8 × UInt16) := do
  onDevice (setSpeed (UInt8.ofNat idx) speed)
  onDevice (getData (UInt8.ofNat idx))

def processFanInnerColor (idx : Nat) (colorBuffer : List Rgb) : EStateM Fault TTRiingQuad Unit :=
  onDevice (setRgb (UInt8.ofNat idx) 0x24 colorBuffer)

def updateFan (channel : Nat) (speed : UInt8) (rpm : UInt16) : EStateM Fault TTRiingQuad Unit :=
  fun ctrl =>
    -- `guard.fans[channel - 1]`
    match channel with
    | 0 => .error .panic ctrl
    | index + 1 =>
        match ctrl.fans[index]? with
        | some fan => .ok () { ctrl with fans := ctrl.fans.set index (fan.updateStats speed rpm) }
        | none => .error .panic ctrl

def processBatch (batch : List (Nat × UInt8)) :
    EStateM Fault TTRiingQuad (List (Nat × UInt8 × UInt16)) :=
  batch.mapM' fun entry => do
    let data ← processFanInner entry.1 entry.2
    pure (entry.1, data)

def updateSpeedBatch (batch : List (Nat × UInt8)) : EStateM Fault TTRiingQuad Unit := do
  let result ← processBatch batch
  result.forM fun entry => updateFan entry.1 entry.2.1 entry.2.2

def updateColorBatch (batch : List (Nat × List Rgb)) : EStateM Fault TTRiingQuad Unit :=
  batch.forM fun entry =>
    mapErr (fun e => s!"Failed to set color for fan {entry.1}: {e.display}")
      (processFanInnerColor entry.1 entry.2)

def firmwareVersion : EStateM Fault TTRiingQuad (UInt8 × UInt8 × UInt8) := onDevice getFirmwareVersion

def getId (ctrl : TTRiingQuad) : String := ctrl.name

def getDeviceInfo (ctrl : TTRiingQuad) : Except Error DeviceInfo :=
  match ctrl.dev.info with
  | .ok info => .ok info
  | .error message => .error (anyhow s!"Failed to get device info for TTRiingQuad: {message}")

def getFingerprint (ctrl : TTRiingQuad) : Except Error HardwareFingerprint :=
  match ctrl.getDeviceInfo with
  | .ok info => .ok ⟨info.vendorId, info.productId, info.serialNumber⟩
  | .error e => .error e

def ledCount (_ : TTRiingQuad) : Nat := 52

def createFallbackConfigInternal (fingerprint : HardwareFingerprint) : ControllerCfg :=
  .riingQuad s!"fallback_{fingerprint.vendorId}:{fingerprint.productId}"
    ⟨fingerprint.vendorId, fingerprint.productId, fingerprint.serial⟩ []

def hardwareInfo : HardwareInfo where
  vid := 0x264a
  pids := [0x232B, 0x232C, 0x232D, 0x232E]
  channelCount := 5
  name := "TTRiingQuad"
  createFallbackConfig := createFallbackConfigInternal

def createOne (api : HidApi) (attempt : Nat) (cfg : ControllerCfg) : Except Error TTRiingQuad :=
  match cfg with
  | .riingQuad id usb fans =>
      match api.openDevice attempt usb.vid usb.pid with
      | .ok dev => .ok { name := id, dev, fans := fans.map fun _ => ⟨0, 0⟩ }
      | .error message => .error (anyhow s!"Failed to open device: {message}")

theorem createOne_ok {api : HidApi} {attempt : Nat} {cfg : ControllerCfg} {ctrl : TTRiingQuad}
    (created : createOne api attempt cfg = .ok ctrl) :
    ctrl.name = cfg.getId ∧ ctrl.fans.length = cfg.fans.length ∧ ∃ info wire,
      api.link attempt cfg.usb.vid cfg.usb.pid = .ok (info, wire) ∧ ctrl.dev = .opened info wire := by
  obtain ⟨id, usb, fans⟩ := cfg
  unfold createOne HidApi.openDevice at created
  cases link : api.link attempt usb.vid usb.pid with
  | error message => simp [link] at created
  | ok found =>
      simp only [link, Except.ok.injEq] at created
      subst created
      exact ⟨rfl, by simp [ControllerCfg.fans], found.1, found.2, link, rfl⟩

theorem createOne_fans {api : HidApi} {attempt : Nat} {cfg : ControllerCfg} {ctrl : TTRiingQuad}
    (created : createOne api attempt cfg = .ok ctrl) : ctrl.fans = cfg.fans.map fun _ => ⟨0, 0⟩ := by
  obtain ⟨id, usb, fans⟩ := cfg
  unfold createOne at created
  cases opened : api.openDevice attempt usb.vid usb.pid with
  | error message => simp [opened] at created
  | ok dev =>
      simp only [opened, Except.ok.injEq] at created
      rw [← created]
      rfl

/-! ## When an update fails -/

theorem updateFan_succeeds {channel count : Nat} (speed : UInt8) (rpm : UInt16) {controller : TTRiingQuad}
    (fans : controller.fans.length = count) :
    (∃ after, updateFan channel speed rpm controller = .ok () after) ↔
      1 ≤ channel ∧ channel ≤ count := by
  cases channel with
  | zero => simp [updateFan]
  | succ index =>
      cases listed : controller.fans[index]? with
      | none =>
          have beyond := List.getElem?_eq_none_iff.mp listed
          simp only [updateFan, listed, reduceCtorEq, exists_false, false_iff]
          omega
      | some fan =>
          have within := (List.getElem?_eq_some_iff.mp listed).1
          simp only [updateFan, listed, EStateM.Result.ok.injEq, true_and, exists_eq', true_iff]
          omega

theorem updateFan_error {channel : Nat} {speed : UInt8} {rpm : UInt16} {controller after : TTRiingQuad}
    {fault : Fault} (result : updateFan channel speed rpm controller = .error fault after) :
    fault = .panic := by
  unfold updateFan at result
  split at result
  · cases result
    rfl
  · split at result <;> cases result
    rfl

/-! ## What no call changes -/

structure Later (before after : TTRiingQuad) : Prop where
  name : after.name = before.name
  fans : after.fans.length = before.fans.length
  received : before.dev.received <+: after.dev.received

theorem Later.refl (ctrl : TTRiingQuad) : Later ctrl ctrl := ⟨rfl, rfl, List.prefix_refl _⟩

theorem Later.trans (a b c : TTRiingQuad) (first : Later a b) (second : Later b c) : Later a c :=
  ⟨second.name.trans first.name, second.fans.trans first.fans, first.received.trans second.received⟩

theorem request_prefix (cmd : Command) (dev : HidDevice) :
    dev.received <+: (request cmd dev).state.received := by
  rw [request_received]
  split
  · exact List.prefix_append _ _
  · exact List.prefix_refl _

theorem onDevice_state {α : Type} (call : EStateM Error HidDevice α) (ctrl : TTRiingQuad) :
    (onDevice call ctrl).state = { ctrl with dev := (call ctrl.dev).state } := by
  unfold onDevice
  cases call ctrl.dev with
  | ok value dev => rfl
  | error e dev => rfl

theorem onDevice_later {α : Type} {call : EStateM Error HidDevice α} {cmd : Command}
    (asks : ∀ dev, (call dev).state = (request cmd dev).state) : EStateM.Along Later (onDevice call) := by
  intro ctrl
  have more := request_prefix cmd ctrl.dev
  rw [← asks ctrl.dev] at more
  rw [onDevice_state]
  exact ⟨rfl, rfl, more⟩

theorem mapErr_state {σ α : Type} (message : Error → String) (call : EStateM Fault σ α) (state : σ) :
    (mapErr message call state).state = (call state).state := by
  unfold mapErr
  split <;> rename_i result <;> simp [result]

theorem mapErr_later {α : Type} {message : Error → String} {call : EStateM Fault TTRiingQuad α}
    (later : EStateM.Along Later call) : EStateM.Along Later (mapErr message call) := by
  intro ctrl
  rw [mapErr_state]
  exact later ctrl

theorem sendInit_later : EStateM.Along Later sendInit :=
  mapErr_later (onDevice_later (requestStatus_state .init _ _))

theorem processFanInner_later (idx : Nat) (speed : UInt8) : EStateM.Along Later (processFanInner idx speed) :=
  .bind Later.trans (onDevice_later (requestStatus_state _ _ _)) fun _ => onDevice_later (getData_state _)

theorem updateFan_later (channel : Nat) (speed : UInt8) (rpm : UInt16) :
    EStateM.Along Later (updateFan channel speed rpm) := by
  intro ctrl
  cases channel with
  | zero => exact Later.refl ctrl
  | succ index =>
      cases listed : ctrl.fans[index]? with
      | none =>
          simp only [updateFan, listed]
          exact Later.refl ctrl
      | some fan =>
          simp only [updateFan, listed]
          exact ⟨rfl, List.length_set, List.prefix_refl _⟩

theorem processBatch_later (batch : List (Nat × UInt8)) : EStateM.Along Later (processBatch batch) := by
  refine .mapM' Later.refl Later.trans batch fun entry _ => ?_
  exact .bind Later.trans (processFanInner_later entry.1 entry.2) fun _ => .pure Later.refl _

theorem updateSpeedBatch_later (batch : List (Nat × UInt8)) :
    EStateM.Along Later (updateSpeedBatch batch) :=
  .bind Later.trans (processBatch_later batch) fun result =>
    .forM Later.refl Later.trans (fun _ => updateFan_later _ _ _) result

theorem updateColorBatch_later (batch : List (Nat × List Rgb)) :
    EStateM.Along Later (updateColorBatch batch) :=
  .forM Later.refl Later.trans
    (fun _ => mapErr_later (onDevice_later (requestStatus_state _ _ _))) batch

theorem firmwareVersion_later : EStateM.Along Later firmwareVersion :=
  onDevice_later getFirmwareVersion_state

end TTRiingQuad

end TtRiingd.Drivers
