import TtRiingd.Config.Mappings

/-!
# The two directions of a mapping

`loadMappings` fills both tables in one pass. A later entry replaces the sensor of a fan in one of them
and adds the fan to the set of its own sensor in the other, which nothing takes out of the earlier set.
-/

namespace TtRiingd

def MappingCfg.fans (entry : MappingCfg) : List FanRef := entry.targets.map FanTarget.fanRef

/-- The sensor of the last entry that lists the fan. -/
def lastSensor (mappingCfg : List MappingCfg) (fan : FanRef) : Option String :=
  (mappingCfg.reverse.find? fun entry => fan ∈ entry.fans).map MappingCfg.sensor

namespace Mapping

theorem loadMappings_eq (mappingCfg : List MappingCfg) :
    loadMappings mappingCfg = (mappingCfg.flatMap fun entry => entry.fans.map fun fan => (fan, entry.sensor)).foldl
      (fun acc pair => acc.insert pair.2 pair.1) ⟨∅, ∅⟩ := by
  have pairs : (mappingCfg.flatMap fun entry => entry.fans.map fun fan => (fan, entry.sensor)) =
      (mappingCfg.flatMap fun m => m.targets.map fun t => (m.sensor, t)).map
        fun entry => (entry.2.fanRef, entry.1) := by
    simp [MappingCfg.fans, List.map_flatMap, Function.comp_def]
  rw [pairs, List.foldl_map]
  rfl

theorem foldl_insert_fans2sensor (pairs : List (FanRef × String)) (mapping : Mapping) :
    (pairs.foldl (fun acc pair => acc.insert pair.2 pair.1) mapping).fans2sensor =
      mapping.fans2sensor.insertAll pairs := by
  induction pairs generalizing mapping with
  | nil => rfl
  | cons pair rest ih =>
      rw [List.foldl_cons, ih, AList.insertAll_cons]
      rfl

theorem foldl_insert_sensor2fans (pairs : List (FanRef × String)) (mapping : Mapping) :
    (pairs.foldl (fun acc pair => acc.insert pair.2 pair.1) mapping).sensor2fans =
      mapping.sensor2fans.addAll (pairs.map Prod.swap) := by
  induction pairs generalizing mapping with
  | nil => rfl
  | cons pair rest ih =>
      rw [List.foldl_cons, ih, List.map_cons, AList.addAll_cons]
      rfl

theorem loadMappings_sensor2fans (mappingCfg : List MappingCfg) :
    (loadMappings mappingCfg).sensor2fans =
      AList.addAll ∅ (mappingCfg.flatMap fun entry => entry.fans.map fun fan => (entry.sensor, fan)) := by
  rw [loadMappings_eq, foldl_insert_sensor2fans, List.map_flatMap]
  simp only [List.map_map, Function.comp_def, Prod.swap_prod_mk]

theorem loadMappings_fans2sensor (mappingCfg : List MappingCfg) (fan : FanRef) :
    (loadMappings mappingCfg).fans2sensor.lookup fan = lastSensor mappingCfg fan := by
  rw [loadMappings_eq, foldl_insert_fans2sensor]
  exact AList.lookup_insertAll_groups mappingCfg MappingCfg.fans MappingCfg.sensor fan

theorem mem_fansForSensor_loadMappings (mappingCfg : List MappingCfg) (sensor : String) (fan : FanRef) :
    fan ∈ (loadMappings mappingCfg).fansForSensor sensor ↔
      ∃ entry ∈ mappingCfg, entry.sensor = sensor ∧ fan ∈ entry.fans := by
  have grouped := AList.mem_group_addAll_items mappingCfg MappingCfg.sensor MappingCfg.fans sensor fan
  rw [← loadMappings_sensor2fans] at grouped
  exact grouped

theorem fansForSensor_nodup (mappingCfg : List MappingCfg) (sensor : String) :
    ((loadMappings mappingCfg).fansForSensor sensor).Nodup := by
  have distinct := AList.nodup_group_addAll (fun sensor => by rw [AList.group_empty]; exact List.nodup_nil)
    (mappingCfg.flatMap fun entry => entry.fans.map fun fan => (entry.sensor, fan)) sensor
  rw [← loadMappings_sensor2fans] at distinct
  exact distinct

end Mapping

theorem lastSensor_eq_some {mappingCfg : List MappingCfg} {fan : FanRef} {sensor : String}
    (last : lastSensor mappingCfg fan = some sensor) :
    ∃ entry ∈ mappingCfg, entry.sensor = sensor ∧ fan ∈ entry.fans := by
  obtain ⟨entry, found, sensed⟩ := Option.map_eq_some_iff.mp last
  have listed := List.find?_some found
  rw [decide_eq_true_eq] at listed
  exact ⟨entry, List.mem_reverse.mp (List.mem_of_find?_eq_some found), sensed, listed⟩

theorem lastSensor_isSome {mappingCfg : List MappingCfg} {fan : FanRef} {entry : MappingCfg}
    (member : entry ∈ mappingCfg) (listed : fan ∈ entry.fans) :
    ∃ sensor, lastSensor mappingCfg fan = some sensor := by
  unfold lastSensor
  cases found : mappingCfg.reverse.find? fun entry => fan ∈ entry.fans with
  | some last => exact ⟨last.sensor, rfl⟩
  | none =>
      have never := List.find?_eq_none.mp found entry (List.mem_reverse.mpr member)
      exact absurd (decide_eq_true listed) never

structure TwoWay (mappingCfg : List MappingCfg) : Prop where
  agree : ∀ fan sensor, fan ∈ (Mapping.loadMappings mappingCfg).fansForSensor sensor ↔
    (Mapping.loadMappings mappingCfg).fans2sensor.lookup fan = some sensor
  last : ∀ fan, (Mapping.loadMappings mappingCfg).fans2sensor.lookup fan = lastSensor mappingCfg fan
  single : ∀ fan sensor other, fan ∈ (Mapping.loadMappings mappingCfg).fansForSensor sensor →
    fan ∈ (Mapping.loadMappings mappingCfg).fansForSensor other → sensor = other

/-- Entries that list the same fan name the same sensor. -/
def OneSensorEach (mappingCfg : List MappingCfg) : Prop :=
  ∀ entry ∈ mappingCfg, ∀ other ∈ mappingCfg, ∀ fan, fan ∈ entry.fans → fan ∈ other.fans →
    entry.sensor = other.sensor

theorem twoWay_iff (mappingCfg : List MappingCfg) : TwoWay mappingCfg ↔ OneSensorEach mappingCfg := by
  constructor
  · intro twoWay entry member other member' fan listed listed'
    apply twoWay.single fan
    · exact (Mapping.mem_fansForSensor_loadMappings mappingCfg entry.sensor fan).mpr ⟨entry, member, rfl, listed⟩
    · exact (Mapping.mem_fansForSensor_loadMappings mappingCfg other.sensor fan).mpr ⟨other, member', rfl, listed'⟩
  · intro oneSensor
    constructor
    · intro fan sensor
      rw [Mapping.mem_fansForSensor_loadMappings, Mapping.loadMappings_fans2sensor]
      constructor
      · rintro ⟨entry, member, rfl, listed⟩
        obtain ⟨sensor, last⟩ := lastSensor_isSome member listed
        obtain ⟨other, member', rfl, listed'⟩ := lastSensor_eq_some last
        rw [last, oneSensor entry member other member' fan listed listed']
      · exact lastSensor_eq_some
    · exact Mapping.loadMappings_fans2sensor mappingCfg
    · intro fan sensor other first second
      rw [Mapping.mem_fansForSensor_loadMappings] at first second
      obtain ⟨entry, member, rfl, listed⟩ := first
      obtain ⟨entry', member', rfl, listed'⟩ := second
      exact oneSensor entry member entry' member' fan listed listed'

/-- The fan of the repository's overlap test stays in the set of its first sensor. -/
theorem overlapping_targets_stay :
    let mappingCfg : List MappingCfg := [⟨"cpu_temp", [⟨"0", 1⟩]⟩, ⟨"gpu_temp", [⟨"0", 1⟩]⟩]
    (Mapping.loadMappings mappingCfg).fans2sensor.lookup ⟨"0", 1⟩ = some "gpu_temp" ∧
      ⟨"0", 1⟩ ∈ (Mapping.loadMappings mappingCfg).fansForSensor "cpu_temp" ∧
      ⟨"0", 1⟩ ∈ (Mapping.loadMappings mappingCfg).fansForSensor "gpu_temp" ∧ ¬ TwoWay mappingCfg := by
  refine ⟨by decide, ?_, ?_, fun twoWay => ?_⟩
  · decide
  · decide
  · exact absurd (twoWay.single ⟨"0", 1⟩ "cpu_temp" "gpu_temp" (by decide) (by decide)) (by decide)

/-! ## The curve of a fan -/

def CurveMappingCfg.fans (entry : CurveMappingCfg) : List FanRef := entry.targets.map FanTarget.fanRef

/-- The curve of the last entry that lists the fan. -/
def lastCurve (curveMappingCfg : List CurveMappingCfg) (fan : FanRef) : Option String :=
  (curveMappingCfg.reverse.find? fun entry => fan ∈ entry.fans).map CurveMappingCfg.curve

theorem CurveMapping.loadMappings_getCurveForFan (curveMappingCfg : List CurveMappingCfg) (fan : FanRef) :
    (loadMappings curveMappingCfg).getCurveForFan fan = lastCurve curveMappingCfg fan := by
  have pairs : (curveMappingCfg.flatMap fun entry => entry.fans.map fun fan => (fan, entry.curve)) =
      (curveMappingCfg.flatMap fun c => c.targets.map fun t => (c.curve, t)).map
        fun entry => (entry.2.fanRef, entry.1) := by
    simp [CurveMappingCfg.fans, List.map_flatMap, Function.comp_def]
  have grouped := AList.lookup_insertAll_groups curveMappingCfg CurveMappingCfg.fans CurveMappingCfg.curve fan
  rw [pairs, AList.insertAll, List.foldl_map] at grouped
  exact grouped

end TtRiingd
