import TtRiingd.Drivers.Registry

/-!
# Which device a controller drives

hidapi's `open(vid, pid)` takes no serial number and opens the first attached device of that model.
An attached device is known by its place in the list of devices.
-/

namespace TtRiingd.Drivers

structure PluggedDevice where
  info : DeviceInfo
  wire : Wire

def firstOfModel (devices : List PluggedDevice) (vid pid : UInt16) : Option (PluggedDevice × Nat) :=
  devices.zipIdx.find? fun entry => entry.1.info.vendorId = vid ∧ entry.1.info.productId = pid

def HidApi.ofDevices (devices : List PluggedDevice) : HidApi where
  deviceList := devices.map (·.info)
  link _ vid pid :=
    match firstOfModel devices vid pid with
    | some (device, _) => .ok (.ok device.info, device.wire)
    | none => .error "unable to open device"

/-- `cfg` is an entry of the configuration or the one that some fingerprint is rebuilt from, and `ctrl`
is the controller built from it. -/
def Built (devices : List PluggedDevice) (cfgs : List ControllerCfg)
    (fingerprints : List HardwareFingerprint) (statics : Statics) (cfg : ControllerCfg)
    (ctrl : TTRiingQuad) : Prop :=
  let hidapi := some (HidApi.ofDevices devices)
  (cfg ∈ cfgs ∧ (∃ before after, Registry.buildOneController hidapi cfg before = .ok ctrl after) ∧
      ctrl ∈ (Registry.buildControllersFromConfig hidapi cfgs {}).1) ∨
    ∃ fingerprint ∈ fingerprints, cfg = Registry.configFor statics fingerprint ∧
      ∃ after, Registry.buildControllerFromFingerprint hidapi fingerprint statics = .ok ctrl after

def Drives (devices : List PluggedDevice) (cfg : ControllerCfg) (ctrl : TTRiingQuad)
    (device : PluggedDevice) (index : Nat) : Prop :=
  firstOfModel devices cfg.usb.vid cfg.usb.pid = some (device, index) ∧
    ctrl.dev = .opened (.ok device.info) device.wire

structure DrivesOwnDevice (devices : List PluggedDevice) (Built : ControllerCfg → TTRiingQuad → Prop) :
    Prop where
  own : ∀ cfg ctrl serial, Built cfg ctrl → cfg.usb.serial = some serial →
    ∃ device index, Drives devices cfg ctrl device index ∧
      device.info = ⟨cfg.usb.vid, cfg.usb.pid, some serial⟩
  apart : ∀ cfg ctrl other otherCtrl, Built cfg ctrl → Built other otherCtrl →
    other.usb.vid = cfg.usb.vid → other.usb.pid = cfg.usb.pid → other.usb.serial ≠ cfg.usb.serial →
    ∀ device otherDevice index, Drives devices cfg ctrl device index →
      ¬ Drives devices other otherCtrl otherDevice index

/-- Where a device of some model is attached, the entries for that model all give the same serial
number: none, or that of the first such device. -/
def OneSerialPerModel (devices : List PluggedDevice) (cfgs : List ControllerCfg) : Prop :=
  ∀ cfg ∈ cfgs, ∀ device index, firstOfModel devices cfg.usb.vid cfg.usb.pid = some (device, index) →
    (∀ serial, cfg.usb.serial = some serial → device.info.serialNumber = some serial) ∧
    ∀ other ∈ cfgs, other.usb.vid = cfg.usb.vid → other.usb.pid = cfg.usb.pid →
      other.usb.serial = cfg.usb.serial

theorem firstOfModel_model {devices : List PluggedDevice} {vid pid : UInt16} {device : PluggedDevice}
    {index : Nat} (first : firstOfModel devices vid pid = some (device, index)) :
    device.info.vendorId = vid ∧ device.info.productId = pid := by
  simpa using List.find?_some first

section Builds
variable {devices : List PluggedDevice}

theorem buildOneController_first {cfg : ControllerCfg} {device : PluggedDevice} {index : Nat}
    (first : firstOfModel devices cfg.usb.vid cfg.usb.pid = some (device, index)) (statics : Statics) :
    ∃ ctrl after, Registry.buildOneController (some (.ofDevices devices)) cfg statics = .ok ctrl after := by
  apply EStateM.exists_of_isOk
  rw [Registry.buildOneController_isOk]
  simp only [Registry.found, HidApi.ofDevices, first]
  rfl

theorem createOne_drives {cfg : ControllerCfg} {attempt : Nat} {ctrl : TTRiingQuad}
    (created : TTRiingQuad.createOne (.ofDevices devices) attempt cfg = .ok ctrl) :
    ∃ device index, Drives devices cfg ctrl device index := by
  obtain ⟨-, -, info, wire, link, dev⟩ := TTRiingQuad.createOne_ok created
  simp only [HidApi.ofDevices] at link
  cases first : firstOfModel devices cfg.usb.vid cfg.usb.pid with
  | none => simp [first] at link
  | some entry =>
      obtain ⟨device, index⟩ := entry
      simp only [first, Except.ok.injEq, Prod.mk.injEq] at link
      refine ⟨device, index, first, ?_⟩
      rw [dev, ← link.1, ← link.2]

theorem mem_buildControllersFromConfig {cfgs : List ControllerCfg} {cfg : ControllerCfg}
    {device : PluggedDevice} {index : Nat} (listed : cfg ∈ cfgs)
    (first : firstOfModel devices cfg.usb.vid cfg.usb.pid = some (device, index)) (statics : Statics) :
    ∃ ctrl before after,
      Registry.buildOneController (some (.ofDevices devices)) cfg before = .ok ctrl after ∧
      ctrl ∈ (Registry.buildControllersFromConfig (some (.ofDevices devices)) cfgs statics).1 := by
  induction cfgs generalizing statics with
  | nil => contradiction
  | cons head rest ih =>
      unfold Registry.buildControllersFromConfig
      rcases List.mem_cons.mp listed with rfl | listed
      · obtain ⟨ctrl, after, built⟩ := buildOneController_first first statics
        simp only [built]
        exact ⟨ctrl, statics, after, built, .head _⟩
      · split
        · rename_i made middle _
          obtain ⟨ctrl, before, after, built, member⟩ := ih listed (Registry.cacheConfig middle made head)
          exact ⟨ctrl, before, after, built, .tail _ member⟩
        · rename_i middle _
          exact ih listed middle

variable {cfgs : List ControllerCfg} {fingerprints : List HardwareFingerprint} {statics : Statics}

theorem Built.drives {cfg : ControllerCfg} {ctrl : TTRiingQuad}
    (built : Built devices cfgs fingerprints statics cfg ctrl) :
    cfg ∈ cfgs ++ fingerprints.map (Registry.configFor statics) ∧
      ∃ device index, Drives devices cfg ctrl device index := by
  rcases built with ⟨listed, ⟨before, after, made⟩, -⟩ | ⟨fingerprint, listed, rfl, after, made⟩
  · obtain ⟨api, bus, created, -⟩ := Registry.buildOneController_ok made
    cases bus
    exact ⟨List.mem_append_left _ listed, createOne_drives created⟩
  · obtain ⟨api, bus, created, -⟩ := Registry.buildControllerFromFingerprint_ok made
    cases bus
    exact ⟨List.mem_append_right _ (List.mem_map_of_mem listed), createOne_drives created⟩

theorem exists_built {cfg : ControllerCfg} {device : PluggedDevice} {index : Nat}
    (listed : cfg ∈ cfgs ++ fingerprints.map (Registry.configFor statics))
    (first : firstOfModel devices cfg.usb.vid cfg.usb.pid = some (device, index)) :
    ∃ ctrl, Built devices cfgs fingerprints statics cfg ctrl ∧ Drives devices cfg ctrl device index := by
  have built : ∃ ctrl, Built devices cfgs fingerprints statics cfg ctrl := by
    rcases List.mem_append.mp listed with listed | listed
    · obtain ⟨ctrl, before, after, made, member⟩ := mem_buildControllersFromConfig listed first {}
      exact ⟨ctrl, .inl ⟨listed, ⟨before, after, made⟩, member⟩⟩
    · obtain ⟨fingerprint, known, rfl⟩ := List.mem_map.mp listed
      have opens : (Registry.buildControllerFromFingerprint (some (.ofDevices devices)) fingerprint
          statics).isOk = true := by
        rw [Registry.buildControllerFromFingerprint_isOk]
        simp only [Registry.found, HidApi.ofDevices, first]
        rfl
      obtain ⟨ctrl, after, made⟩ := EStateM.exists_of_isOk opens
      exact ⟨ctrl, .inr ⟨fingerprint, known, rfl, after, made⟩⟩
  obtain ⟨ctrl, built⟩ := built
  obtain ⟨-, opened, place, drives⟩ := built.drives
  have same := drives.1
  rw [first] at same
  cases same
  exact ⟨ctrl, built, drives⟩

end Builds

theorem drivesOwnDevice_iff (devices : List PluggedDevice) (cfgs : List ControllerCfg)
    (fingerprints : List HardwareFingerprint) (statics : Statics) :
    DrivesOwnDevice devices (Built devices cfgs fingerprints statics) ↔
      OneSerialPerModel devices (cfgs ++ fingerprints.map (Registry.configFor statics)) := by
  constructor
  · intro good cfg listed device index first
    obtain ⟨ctrl, built, drives⟩ := exists_built listed first
    constructor
    · intro serial given
      obtain ⟨own, place, driven, info⟩ := good.own cfg ctrl serial built given
      have same := driven.1
      rw [first] at same
      cases same
      rw [info]
    · intro other listed' vid pid
      by_contra different
      have first' : firstOfModel devices other.usb.vid other.usb.pid = some (device, index) := by
        rw [vid, pid]
        exact first
      obtain ⟨otherCtrl, built', drives'⟩ := exists_built listed' first'
      exact good.apart cfg ctrl other otherCtrl built built' vid pid different device device index drives
        drives'
  · intro agree
    constructor
    · intro cfg ctrl serial built given
      obtain ⟨listed, device, index, drives⟩ := built.drives
      obtain ⟨vid, pid⟩ := firstOfModel_model drives.1
      have number := (agree cfg listed device index drives.1).1 serial given
      refine ⟨device, index, drives, ?_⟩
      rw [← vid, ← pid, ← number]
    · intro cfg ctrl other otherCtrl built built' vid pid different device otherDevice index drives drives'
      obtain ⟨listed, -⟩ := built.drives
      obtain ⟨listed', -⟩ := built'.drives
      exact different ((agree cfg listed device index drives.1).2 other listed' vid pid)

def twin (serial : String) : PluggedDevice := ⟨⟨0x264a, 0x232B, some serial⟩, quietWire⟩

def twins : List PluggedDevice := [twin "A", twin "B"]

def twinEntry (serial : String) : ControllerCfg := .riingQuad serial ⟨0x264a, 0x232B, some serial⟩ []

def twinEntries : List ControllerCfg := [twinEntry "A", twinEntry "B"]

theorem twinEntry_not_own {cfgs : List ControllerCfg} {fingerprints : List HardwareFingerprint}
    {statics : Statics} {cfg : ControllerCfg} (usb : cfg.usb = ⟨0x264a, 0x232B, some "B"⟩)
    (listed : cfg ∈ cfgs ++ fingerprints.map (Registry.configFor statics)) :
    ¬ DrivesOwnDevice twins (Built twins cfgs fingerprints statics) := by
  intro good
  have first : firstOfModel twins cfg.usb.vid cfg.usb.pid = some (twin "A", 0) := by
    rw [usb]
    rfl
  obtain ⟨ctrl, built, -⟩ := exists_built listed first
  obtain ⟨device, index, drives, info⟩ := good.own cfg ctrl "B" built (by rw [usb])
  have same := drives.1
  rw [first] at same
  cases same
  rw [usb] at info
  simp [twin] at info

theorem twins_share_device :
    (∃ left right, Built twins twinEntries [] {} (twinEntry "A") left ∧
      Built twins twinEntries [] {} (twinEntry "B") right ∧
      Drives twins (twinEntry "A") left (twin "A") 0 ∧ Drives twins (twinEntry "B") right (twin "A") 0) ∧
    ¬ DrivesOwnDevice twins (Built twins twinEntries [] {}) ∧
    ¬ DrivesOwnDevice twins (Built twins [] [⟨0x264a, 0x232B, some "B"⟩] {}) := by
  have left : ∃ ctrl, Built twins twinEntries [] {} (twinEntry "A") ctrl ∧
      Drives twins (twinEntry "A") ctrl (twin "A") 0 := exists_built (by simp [twinEntries]) rfl
  have right : ∃ ctrl, Built twins twinEntries [] {} (twinEntry "B") ctrl ∧
      Drives twins (twinEntry "B") ctrl (twin "A") 0 := exists_built (by simp [twinEntries]) rfl
  obtain ⟨leftCtrl, builtLeft, drivesLeft⟩ := left
  obtain ⟨rightCtrl, builtRight, drivesRight⟩ := right
  refine ⟨⟨leftCtrl, rightCtrl, builtLeft, builtRight, drivesLeft, drivesRight⟩, ?_, ?_⟩
  · exact twinEntry_not_own rfl (List.mem_append_left _ (.tail (twinEntry "A") (.head [])))
  · exact twinEntry_not_own rfl (List.mem_append_right _ (.head _))

end TtRiingd.Drivers
