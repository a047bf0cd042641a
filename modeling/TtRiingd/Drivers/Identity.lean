import TtRiingd.Drivers.Hotplug

/-!
# Fingerprints and controller ids

A fingerprint is remembered twice: `fingerprint2controllerId` gives the id of its controller, and the
registry's cache the configuration to build it from again. An unknown device gets a configuration made
up from its fingerprint, and the id in it leaves out the serial number.
-/

namespace TtRiingd.Drivers
open ControllerManager TTRiingQuad

section Connecting
variable {hidapi : Option HidApi} {vendorId productId : UInt16} {serial : Option String}
  {hw after : Hardware}

theorem deviceConnected_ok (connected : deviceConnected hidapi vendorId productId serial hw = .ok () after) :
    ∃ controller api,
      createOne api hw.statics.opens (Registry.configFor hw.statics ⟨vendorId, productId, serial⟩) =
        .ok controller ∧
      (Registry.found hidapi hw.statics.opens
        (Registry.configFor hw.statics ⟨vendorId, productId, serial⟩)).isSome ∧
      after.manager = attach hw.manager ⟨vendorId, productId, serial⟩ controller ∧
      AList.Sets ⟨vendorId, productId, serial⟩ (Registry.configFor hw.statics ⟨vendorId, productId, serial⟩)
        hw.statics.cache after.statics.cache := by
  unfold deviceConnected at connected
  cases built : Registry.buildControllerFromFingerprint hidapi ⟨vendorId, productId, serial⟩ hw.statics with
  | error e statics => simp [built] at connected
  | ok controller statics =>
      cases started : ControllerWorkerManager.startWorker controller hw.manager.workerManager with
      | error fault workerManager => simp [built, started] at connected
      | ok workerId workerManager =>
          obtain ⟨rfl, rfl⟩ := startWorker_ok started
          simp only [built, started, EStateM.Result.ok.injEq, true_and] at connected
          subst connected
          obtain ⟨api, -, created, wired⟩ := Registry.buildControllerFromFingerprint_ok built
          exact ⟨controller, api, created, by rw [wired]; rfl, rfl,
            Registry.buildControllerFromFingerprint_caches built⟩

theorem deviceConnected_error {e : Error}
    (failed : deviceConnected hidapi vendorId productId serial hw = .error (.error e) after) :
    after.manager = hw.manager ∧ after.statics.cache = hw.statics.cache := by
  unfold deviceConnected at failed
  cases built : Registry.buildControllerFromFingerprint hidapi ⟨vendorId, productId, serial⟩ hw.statics with
  | error reason statics =>
      simp only [built, EStateM.Result.error.injEq] at failed
      obtain ⟨-, rfl⟩ := failed
      exact ⟨rfl, Registry.buildControllerFromFingerprint_error built⟩
  | ok controller statics =>
      cases started : ControllerWorkerManager.startWorker controller hw.manager.workerManager with
      | error fault workerManager =>
          obtain ⟨rfl, -⟩ := startWorker_error started
          simp [built, started] at failed
      | ok workerId workerManager => simp [built, started] at failed

theorem deviceConnected_remembers
    (result : survives (deviceConnected hidapi vendorId productId serial hw) = some after) :
    (after.manager = hw.manager ∧ after.statics.cache = hw.statics.cache) ∨
      deviceConnected hidapi vendorId productId serial hw = .ok () after := by
  cases connecting : deviceConnected hidapi vendorId productId serial hw with
  | ok value state =>
      rw [connecting] at result
      cases result
      exact .inr rfl
  | error fault state =>
      rw [connecting] at result
      cases fault with
      | panic => contradiction
      | error e =>
          cases result
          exact .inl (deviceConnected_error connecting)

end Connecting

theorem deviceDisconnected_remembers (vendorId productId : UInt16) (serial : Option String) (hw : Hardware) :
    (deviceDisconnected vendorId productId serial hw).state.statics = hw.statics ∧
      (deviceDisconnected vendorId productId serial hw).state.manager.fingerprint2controllerId =
        hw.manager.fingerprint2controllerId := by
  unfold deviceDisconnected
  split
  · exact ⟨rfl, rfl⟩
  · split
    · exact ⟨rfl, rfl⟩
    · exact ⟨rfl, rfl⟩
    · split <;> exact ⟨rfl, rfl⟩

theorem attach_named (manager : ControllerManager) (fingerprint : HardwareFingerprint)
    (controller : TTRiingQuad) : AList.Sets fingerprint controller.name manager.fingerprint2controllerId
      (attach manager fingerprint controller).fingerprint2controllerId :=
  AList.sets_insert _ _ _

/-! ## Ids of unknown devices -/

theorem fallbackId_inj {first second : HardwareFingerprint}
    (same : (createFallbackConfigInternal first).getId = (createFallbackConfigInternal second).getId) :
    first.vendorId = second.vendorId ∧ first.productId = second.productId := by
  have digits (n : UInt16) : (toString n).toList = Nat.toDigits 10 n.toNat := Nat.toList_repr
  have number (n m : UInt16) (equal : (toString n).toList = (toString m).toList) : n = m := by
    rw [digits, digits] at equal
    have value := congrArg (Nat.ofDigitChars 10 · 0) equal
    simp only [Nat.ofDigitChars_toDigits (by omega : 1 < 10) (by omega : 10 ≤ 10)] at value
    exact UInt16.toNat_inj.mp value
  -- The vendor id ends at the first character that is no digit, which is the colon.
  have vendor (n : UInt16) (rest : List Char) :
      ((toString n).toList ++ ':' :: rest).takeWhile Char.isDigit = (toString n).toList := by
    rw [digits, List.takeWhile_append_of_pos fun c member =>
      Nat.isDigit_of_mem_toDigits (by omega) (by omega) member]
    simp
  have chars : (toString first.vendorId).toList ++ ':' :: (toString first.productId).toList =
      (toString second.vendorId).toList ++ ':' :: (toString second.productId).toList := by
    have colon : (toString ":").toList = [':'] := rfl
    simpa [createFallbackConfigInternal, ControllerCfg.getId, colon] using congrArg String.toList same
  have vendors := congrArg (List.takeWhile Char.isDigit) chars
  rw [vendor, vendor] at vendors
  rw [vendors, List.append_cancel_left_eq, List.cons.injEq] at chars
  exact ⟨number _ _ vendors, number _ _ chars.2⟩

def emptyHardware : Hardware where
  statics := {}
  manager := ⟨{}, ∅, ∅⟩

def DistinctIds (hw : Hardware) : Prop :=
  ∀ first second firstId secondId, first ≠ second →
    hw.manager.fingerprint2controllerId.lookup first = some firstId →
    hw.manager.fingerprint2controllerId.lookup second = some secondId → firstId ≠ secondId

def ConnectsOneSerial (hidapi : Option HidApi) (hw : Hardware) : HotplugEvent → Prop
  | .connected vendorId productId serial =>
      (Registry.found hidapi hw.statics.opens
        (Registry.configFor hw.statics ⟨vendorId, productId, serial⟩)).isSome →
      ∀ entry ∈ hw.manager.fingerprint2controllerId.entries,
        entry.1.vendorId = vendorId → entry.1.productId = productId → entry.1.serial = serial
  | .disconnected .. => True

instance (hidapi : Option HidApi) (hw : Hardware) :
    (event : HotplugEvent) → Decidable (ConnectsOneSerial hidapi hw event)
  | .connected .. => inferInstanceAs (Decidable (_ = true → ∀ entry ∈ _, _))
  | .disconnected .. => .isTrue trivial

/-- All that is known was made up from fingerprints of different models. -/
structure Invented (hw : Hardware) : Prop where
  cached : ∀ {fingerprint cfg}, hw.statics.cache.lookup fingerprint = some cfg →
    cfg = createFallbackConfigInternal fingerprint
  named : ∀ {fingerprint id}, hw.manager.fingerprint2controllerId.lookup fingerprint = some id →
    id = (createFallbackConfigInternal fingerprint).getId
  models : ∀ {first second firstId secondId},
    hw.manager.fingerprint2controllerId.lookup first = some firstId →
    hw.manager.fingerprint2controllerId.lookup second = some secondId →
    first.vendorId = second.vendorId → first.productId = second.productId → first = second

namespace Invented
variable {hidapi : Option HidApi} {hw after : Hardware}

theorem configFor_eq (invented : Invented hw) (fingerprint : HardwareFingerprint) :
    Registry.configFor hw.statics fingerprint = createFallbackConfigInternal fingerprint := by
  unfold Registry.configFor
  cases cached : hw.statics.cache.lookup fingerprint with
  | none => rfl
  | some cfg => exact invented.cached cached

theorem distinctIds (invented : Invented hw) : DistinctIds hw := by
  intro first second firstId secondId different known known' same
  rw [invented.named known, invented.named known'] at same
  obtain ⟨vendor, product⟩ := fallbackId_inj same
  exact different (invented.models known known' vendor product)

theorem attached (invented : Invented hw) {fingerprint : HardwareFingerprint} {controller : TTRiingQuad}
    (name : controller.name = (createFallbackConfigInternal fingerprint).getId)
    (changed : after.manager = attach hw.manager fingerprint controller)
    (cache : AList.Sets fingerprint (createFallbackConfigInternal fingerprint) hw.statics.cache
      after.statics.cache)
    (oneSerial : ∀ other id, hw.manager.fingerprint2controllerId.lookup other = some id →
      other.vendorId = fingerprint.vendorId → other.productId = fingerprint.productId →
      other = fingerprint) : Invented after := by
  have named := attach_named hw.manager fingerprint controller
  rw [← changed] at named
  constructor
  · intro other cfg cached
    rcases cache.lookup cached with ⟨rfl, rfl⟩ | older
    · rfl
    · exact invented.cached older
  · intro other id known
    rcases named.lookup known with ⟨rfl, rfl⟩ | older
    · exact name
    · exact invented.named older
  · intro first second firstId secondId known known' vendor product
    rcases named.lookup known with ⟨rfl, -⟩ | older
    · rcases named.lookup known' with ⟨rfl, -⟩ | older'
      · rfl
      · exact (oneSerial second secondId older' vendor.symm product.symm).symm
    · rcases named.lookup known' with ⟨rfl, -⟩ | older'
      · exact oneSerial first firstId older vendor product
      · exact invented.models older older' vendor product

theorem handleHotplug (invented : Invented hw) {event : HotplugEvent}
    (oneSerial : ConnectsOneSerial hidapi hw event) (result : handleHotplug hidapi hw event = some after) :
    Invented after := by
  cases event with
  | connected vendorId productId serial =>
      rcases deviceConnected_remembers result with ⟨manager, cache⟩ | connected
      · exact ⟨by rw [cache]; exact invented.cached, by rw [manager]; exact invented.named,
          by rw [manager]; exact invented.models⟩
      · obtain ⟨controller, api, created, opens, changed, cache⟩ := deviceConnected_ok connected
        obtain ⟨name, -⟩ := createOne_ok created
        rw [invented.configFor_eq] at name cache
        refine invented.attached name changed cache fun other id known vendor product => ?_
        have serials := oneSerial opens ⟨other, id⟩ ((AList.mem_entries_iff_lookup _ _ _).mpr known) vendor
          product
        obtain ⟨otherVendor, otherProduct, otherSerial⟩ := other
        simp only at vendor product serials
        rw [vendor, product, serials]
  | disconnected vendorId productId serial =>
      simp only [Drivers.handleHotplug, Option.some.injEq] at result
      subst result
      obtain ⟨statics, names⟩ := deviceDisconnected_remembers vendorId productId serial hw
      exact ⟨by rw [statics]; exact invented.cached, by rw [names]; exact invented.named,
        by rw [names]; exact invented.models⟩

end Invented

theorem distinctIds_of_connectsOneSerial {hidapi : Option HidApi} {hw : Hardware}
    (reachable : Machine.Reachable (handleHotplug hidapi) (fun start => start = emptyHardware)
      (ConnectsOneSerial hidapi) hw) : DistinctIds hw := by
  have invented : Invented hw := by
    apply reachable.invariant Invented
    · rintro start rfl
      exact ⟨by simp [emptyHardware], by simp [emptyHardware], by simp [emptyHardware]⟩
    · exact fun state event after invented oneSerial result => invented.handleHotplug oneSerial result
  exact invented.distinctIds

def knows (fingerprint : HardwareFingerprint) (id : String) (hw : Hardware) : Bool :=
  hw.manager.fingerprint2controllerId.lookup fingerprint = some id

theorem distinctIds_of_connectsOneSerial_two_models :
    ∃ hw, Machine.Reachable (handleHotplug (some quietApi)) (fun start => start = emptyHardware)
        (ConnectsOneSerial (some quietApi)) hw ∧
      knows ⟨0x264a, 0x232B, some "A"⟩ "fallback_9802:9003" hw = true ∧ DistinctIds hw := by
  obtain ⟨hw, reachable, known⟩ :=
    Machine.exists_reachable_of_arrives (fun start => start = emptyHardware) rfl
      [.connected 0x264a 0x232B (some "A"), .disconnected 0x264a 0x232B (some "A"),
        .connected 0x264a 0x232C (some "A"), .connected 0x264a 0x232B (some "A")]
      (knows ⟨0x264a, 0x232B, some "A"⟩ "fallback_9802:9003")
      (show Machine.arrives (handleHotplug (some quietApi)) (ConnectsOneSerial (some quietApi))
        emptyHardware _ _ = true by decide)
  exact ⟨hw, reachable, known, distinctIds_of_connectsOneSerial reachable⟩

theorem twins_share_id :
    ∃ hw, Machine.Reachable (handleHotplug (some quietApi)) (fun start => start = emptyHardware)
      Machine.free hw ∧ ¬ DistinctIds hw := by
  obtain ⟨hw, reachable, shared⟩ :=
    Machine.exists_reachable_of_arrives (fun start => start = emptyHardware) rfl
      [.connected 0x264a 0x232B (some "A"), .connected 0x264a 0x232B (some "B")]
      (fun hw => knows ⟨0x264a, 0x232B, some "A"⟩ "fallback_9802:9003" hw &&
        knows ⟨0x264a, 0x232B, some "B"⟩ "fallback_9802:9003" hw)
      (show Machine.arrives (handleHotplug (some quietApi)) Machine.free emptyHardware _ _ = true by decide)
  simp only [knows, Bool.and_eq_true, decide_eq_true_eq] at shared
  exact ⟨hw, reachable, fun distinct => distinct _ _ _ _ (by decide) shared.1 shared.2 rfl⟩

/-! ## Reconnections -/

/-- Every named fingerprint is cached with a configuration of that name. -/
def Agree (names : AList fun _ : HardwareFingerprint => String)
    (cache : AList fun _ : HardwareFingerprint => ControllerCfg) : Prop :=
  ∀ fingerprint id, names.lookup fingerprint = some id →
    ∃ cfg, cache.lookup fingerprint = some cfg ∧ cfg.getId = id

def Remembered (hw : Hardware) : Prop := Agree hw.manager.fingerprint2controllerId hw.statics.cache

theorem Agree.insert {names : AList fun _ : HardwareFingerprint => String}
    {cache extended : AList fun _ : HardwareFingerprint => ControllerCfg} (agree : Agree names cache)
    {fingerprint : HardwareFingerprint} {cfg : ControllerCfg} (sets : AList.Sets fingerprint cfg cache extended) :
    Agree (names.insert fingerprint cfg.getId) extended := by
  intro other id known
  rw [AList.lookup_insert_eq] at known
  rw [sets other]
  by_cases same : other = fingerprint
  · rw [if_pos same, Option.some.injEq] at known
    exact ⟨cfg, if_pos same, known⟩
  · rw [if_neg same] at known ⊢
    exact agree other id known

theorem buildControllersFromConfig_agree {hidapi : Option HidApi} {cfgs : List ControllerCfg}
    {statics : Statics} {names : AList fun _ : HardwareFingerprint => String}
    {entries : List (HardwareFingerprint × String)} (agree : Agree names statics.cache)
    (listed : fingerprintEntries (Registry.buildControllersFromConfig hidapi cfgs statics).1 = .ok entries) :
    Agree (names.insertAll entries) (Registry.buildControllersFromConfig hidapi cfgs statics).2.cache := by
  induction cfgs generalizing statics names entries with
  | nil =>
      cases listed
      exact agree
  | cons cfg rest ih =>
      unfold Registry.buildControllersFromConfig at listed ⊢
      have unchanged := Registry.buildOneController_cache hidapi cfg statics
      cases built : Registry.buildOneController hidapi cfg statics with
      | error e after =>
          simp only [built] at listed ⊢
          rw [built] at unchanged
          exact ih (show Agree names after.cache from unchanged ▸ agree) listed
      | ok ctrl after =>
          simp only [built] at listed ⊢
          rw [built] at unchanged
          obtain ⟨api, -, created, -⟩ := Registry.buildOneController_ok built
          obtain ⟨name, -⟩ := createOne_ok created
          unfold fingerprintEntries at listed
          cases identified : ctrl.getFingerprint with
          | error e => simp [identified] at listed
          | ok fingerprint =>
              simp only [identified] at listed
              cases others : fingerprintEntries
                  (Registry.buildControllersFromConfig hidapi rest (Registry.cacheConfig after ctrl cfg)).1 with
              | error fault => simp [others, bind, Except.bind] at listed
              | ok otherEntries =>
                  simp only [others, bind, Except.bind, Except.ok.injEq] at listed
                  subst listed
                  rw [AList.insertAll_cons]
                  refine ih ?_ others
                  rw [show ctrl.getId = cfg.getId from name]
                  apply agree.insert
                  simp only [Registry.cacheConfig, identified]
                  rw [← show after.cache = statics.cache from unchanged]
                  exact AList.sets_insert _ _ _

theorem Remembered.initFromCfg {hidapi : Option HidApi} {cfg : Config} {hw : Hardware}
    (started : initFromCfg hidapi cfg {} = .ok hw) : Remembered hw := by
  unfold ControllerManager.initFromCfg at started
  simp only at started
  split at started
  · contradiction
  · rename_i entries listed
    split at started
    · contradiction
    · cases started
      refine buildControllersFromConfig_agree (fun fingerprint id known => ?_) listed
      simp at known

theorem configFor_of_cached {statics : Statics} {fingerprint : HardwareFingerprint} {cfg : ControllerCfg}
    (cached : statics.cache.lookup fingerprint = some cfg) :
    Registry.configFor statics fingerprint = cfg := by
  rw [Registry.configFor, cached, Option.getD_some]

theorem Remembered.handleHotplug {hidapi : Option HidApi} {hw after : Hardware} {event : HotplugEvent}
    (remembered : Remembered hw) (result : handleHotplug hidapi hw event = some after) :
    Remembered after := by
  cases event with
  | connected vendorId productId serial =>
      rcases deviceConnected_remembers result with ⟨manager, cache⟩ | connected
      · unfold Remembered
        rw [manager, cache]
        exact remembered
      · obtain ⟨controller, api, created, -, changed, cache⟩ := deviceConnected_ok connected
        obtain ⟨name, -⟩ := createOne_ok created
        unfold Remembered
        rw [changed, attach, name]
        exact remembered.insert cache
  | disconnected vendorId productId serial =>
      simp only [Drivers.handleHotplug, Option.some.injEq] at result
      subst result
      obtain ⟨statics, names⟩ := deviceDisconnected_remembers vendorId productId serial hw
      unfold Remembered
      rw [statics, names]
      exact remembered

/-- What a run keeps: cached configurations stay as they are, and worker ids only grow. -/
structure Since (before after : Hardware) : Prop where
  cached : ∀ {fingerprint cfg}, before.statics.cache.lookup fingerprint = some cfg →
    after.statics.cache.lookup fingerprint = some cfg
  counted : before.manager.workerManager.nextWorkerId ≤ after.manager.workerManager.nextWorkerId

theorem Since.handleHotplug {hidapi : Option HidApi} {before hw after : Hardware} {event : HotplugEvent}
    (since : Since before hw) (attached : Attached hw.manager)
    (result : handleHotplug hidapi hw event = some after) : Since before after := by
  cases event with
  | connected vendorId productId serial =>
      rcases deviceConnected_remembers result with ⟨manager, cache⟩ | connected
      · exact ⟨by rw [cache]; exact since.cached, by rw [manager]; exact since.counted⟩
      · obtain ⟨controller, api, -, -, changed, cache⟩ := deviceConnected_ok connected
        constructor
        · intro fingerprint cfg cached
          have kept := since.cached cached
          rw [cache fingerprint]
          split
          · rename_i same
            rw [configFor_of_cached (same ▸ kept)]
          · exact kept
        · rw [changed]
          exact Nat.le_succ_of_le since.counted
  | disconnected vendorId productId serial =>
      simp only [Drivers.handleHotplug, Option.some.injEq] at result
      subst result
      obtain ⟨statics, -⟩ := deviceDisconnected_remembers vendorId productId serial hw
      refine ⟨by rw [statics]; exact since.cached, ?_⟩
      rcases deviceDisconnected_cases vendorId productId serial attached with
        ⟨-, same⟩ | ⟨_, _, _, -, -, -, changed⟩
      · rw [same]
        exact since.counted
      · rw [changed]
        exact since.counted

/-- The connection that leads to `after` gave the device the id and the fans that `cfg` has, and a worker
that has not been asked anything yet. -/
structure Restored (fingerprint : HardwareFingerprint) (cfg : ControllerCfg) (workerId : Nat)
    (after : Hardware) : Prop where
  named : after.manager.fingerprint2controllerId.lookup fingerprint = some cfg.getId
  leads : after.manager.controllerId2workerId.lookup cfg.getId = some (some workerId)
  started : ∃ controller, (workersOf after.manager).lookup workerId =
      some { controllerId := workerId, controller } ∧
    controller.name = cfg.getId ∧ controller.fans = cfg.fans.map fun _ => ⟨0, 0⟩

theorem deviceConnected_restores {hidapi : Option HidApi} {fingerprint : HardwareFingerprint}
    {cfg : ControllerCfg} {hw after : Hardware} (cached : hw.statics.cache.lookup fingerprint = some cfg)
    (connected : deviceConnected hidapi fingerprint.vendorId fingerprint.productId fingerprint.serial hw =
      .ok () after) : Restored fingerprint cfg hw.manager.workerManager.nextWorkerId after := by
  obtain ⟨controller, api, created, -, changed, -⟩ := deviceConnected_ok connected
  change createOne api _ (Registry.configFor hw.statics fingerprint) = _ at created
  change after.manager = attach hw.manager fingerprint controller at changed
  rw [configFor_of_cached cached] at created
  obtain ⟨name, -⟩ := createOne_ok created
  constructor
  · rw [changed, attach_named hw.manager fingerprint controller fingerprint, if_pos rfl, name]
  · rw [changed, attach_leads, if_pos name.symm]
  · refine ⟨controller, ?_, name, createOne_fans created⟩
    rw [changed, attach_found, if_pos rfl]

abbrev Running (hidapi : Option HidApi) (cfg : Config) : Hardware → Prop :=
  Machine.Reachable (handleHotplug hidapi) (fun start => initFromCfg hidapi cfg {} = .ok start) Machine.free

abbrev LeadsTo (hidapi : Option HidApi) (hw : Hardware) : Hardware → Prop :=
  Machine.Reachable (handleHotplug hidapi) (fun start => start = hw) Machine.free

def StableIdentity (hidapi : Option HidApi) (cfg : Config) (hw : Hardware) : Prop :=
  ∀ fingerprint id, hw.manager.fingerprint2controllerId.lookup fingerprint = some id →
    ∃ config, hw.statics.cache.lookup fingerprint = some config ∧ config.getId = id ∧
      ∀ later after, LeadsTo hidapi hw later →
        deviceConnected hidapi fingerprint.vendorId fingerprint.productId fingerprint.serial later =
          .ok () after →
        ∃ workerId, Restored fingerprint config workerId after ∧
          ∀ earlier, Running hidapi cfg earlier → LeadsTo hidapi earlier later →
            (workersOf earlier.manager).lookup workerId = none

theorem Running.remembered {hidapi : Option HidApi} {cfg : Config} {hw : Hardware}
    (running : Running hidapi cfg hw) : Remembered hw ∧ Attached hw.manager := by
  refine running.invariant (fun state => Remembered state ∧ Attached state.manager) ?_ ?_
  · exact fun start started => ⟨.initFromCfg started, .initFromCfg started⟩
  · exact fun state event after inv _ result => ⟨inv.1.handleHotplug result, inv.2.handleHotplug result⟩

theorem LeadsTo.since {hidapi : Option HidApi} {hw later : Hardware} (run : LeadsTo hidapi hw later)
    (attached : Attached hw.manager) : Since hw later := by
  have kept : Since hw later ∧ Attached later.manager := by
    refine run.invariant (fun state => Since hw state ∧ Attached state.manager) ?_ ?_
    · rintro start rfl
      exact ⟨⟨fun cached => cached, le_refl _⟩, attached⟩
    · intro state event after inv _ result
      exact ⟨inv.1.handleHotplug inv.2 result, inv.2.handleHotplug result⟩
  exact kept.1

theorem stableIdentity {hidapi : Option HidApi} {cfg : Config} {hw : Hardware}
    (running : Running hidapi cfg hw) : StableIdentity hidapi cfg hw := by
  intro fingerprint id known
  obtain ⟨remembered, attached⟩ := running.remembered
  obtain ⟨config, cached, name⟩ := remembered fingerprint id known
  refine ⟨config, cached, name, fun later after run connected => ?_⟩
  have kept := (run.since attached).cached cached
  refine ⟨_, deviceConnected_restores kept connected, fun earlier before run' => ?_⟩
  have older := before.remembered.2
  cases found : (workersOf earlier.manager).lookup later.manager.workerManager.nextWorkerId with
  | none => rfl
  | some worker => exact absurd (older.fresh found) (Nat.not_lt.mpr (run'.since older).counted)

theorem stableIdentity_replugged :
    ∃ hw, Running (some quietApi) oneController hw ∧ leadsTo "main" 2 true hw = true ∧
      StableIdentity (some quietApi) oneController hw := by
  obtain ⟨hw, running, replugged⟩ :=
    Machine.exists_reachable [.disconnected 0x264a 0x232B none, .connected 0x264a 0x232B none]
      (leadsTo "main" 2 true)
      (show Machine.passes (handleHotplug (some quietApi)) Machine.free
        (initFromCfg (some quietApi) oneController {}) _ _ = true by decide)
  exact ⟨hw, running, replugged, stableIdentity running⟩

end TtRiingd.Drivers
