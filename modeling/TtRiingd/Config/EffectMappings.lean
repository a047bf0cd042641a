import TtRiingd.Config.Mappings

/-!
# The two readings of the effect mappings

`build_color_mapping` collects the targets of every entry that names an effect, as `load_mappings` does
for a sensor. `build_effect_store` looks for one entry, the first, and paints its targets only.
-/

namespace TtRiingd

def EffectMappingCfg.fans (entry : EffectMappingCfg) : List FanRef := entry.targets.map FanTarget.fanRef

/-! ## What a runner paints -/

theorem EffectCfg.intoRunner_succeeds (effect : EffectCfg) : ∃ runner, effect.intoRunner = .ok runner := by
  cases effect with
  | constantColor id rgb => exact ⟨_, rfl⟩
  | rainbow id duration => exact ⟨_, rfl⟩
  | breathing id color duration => exact ⟨_, rfl⟩
  | fade id color duration => exact ⟨_, rfl⟩

theorem EffectInstance.new_succeeds (effect : EffectCfg) (mapping : EffectMappingCfg) :
    ∃ runner, EffectInstance.new effect (some mapping) = .ok ⟨runner, mapping.fans⟩ := by
  obtain ⟨runner, made⟩ := effect.intoRunner_succeeds
  refine ⟨runner, ?_⟩
  unfold EffectInstance.new
  rw [made]
  rfl

namespace EffectStore

/-- The entry a runner is built from. -/
def entryOf (effectMapping : List EffectMappingCfg) (id : String) : Option EffectMappingCfg :=
  effectMapping.find? fun m => m.effect = id

theorem entryOf_isSome_iff (effectMapping : List EffectMappingCfg) (id : String) :
    (entryOf effectMapping id).isSome ↔ ∃ entry ∈ effectMapping, entry.effect = id := by
  unfold entryOf
  rw [List.find?_isSome]
  simp only [decide_eq_true_eq]

def collect (acc : EffectStore) (entry : String × Except Error EffectInstance) : EffectStore :=
  match entry.2 with
  | .ok runner => ⟨acc.runners.insert entry.1 runner⟩
  | .error _ => acc

def targetsOf (store : EffectStore) (id : String) : Option (List FanRef) :=
  (store.runners.lookup id).map EffectInstance.targets

theorem targetsOf_collect (store : EffectStore) (effect : EffectCfg) (mapping : EffectMappingCfg) (id : String) :
    (store.collect (effect.getId, EffectInstance.new effect (some mapping))).targetsOf id =
      if id = effect.getId then some mapping.fans else store.targetsOf id := by
  obtain ⟨runner, made⟩ := EffectInstance.new_succeeds effect mapping
  unfold collect targetsOf
  simp only [made, AList.lookup_insert_eq]
  by_cases same : id = effect.getId
  · rw [if_pos same, if_pos same]
    rfl
  · rw [if_neg same, if_neg same]

theorem targetsOf_foldl (effectCfg : List EffectCfg) (effectMapping : List EffectMappingCfg) (id : String)
    (store : EffectStore) :
    ((effectCfg.filterMap fun e => (entryOf effectMapping e.getId).map fun mapping =>
        (e.getId, EffectInstance.new e (some mapping))).foldl collect store).targetsOf id =
      if id ∈ effectCfg.map EffectCfg.getId then
        ((entryOf effectMapping id).map EffectMappingCfg.fans).or (store.targetsOf id)
      else store.targetsOf id := by
  induction effectCfg generalizing store with
  | nil => rfl
  | cons effect rest ih =>
      cases found : entryOf effectMapping effect.getId with
      | none =>
          rw [List.filterMap_cons_none (by rw [found]; rfl), ih, List.map_cons]
          by_cases same : id = effect.getId
          · rw [same, found]
            simp
          · simp only [List.mem_cons, same, false_or]
      | some mapping =>
          rw [List.filterMap_cons_some (by rw [found]; rfl), List.foldl_cons, ih, targetsOf_collect, List.map_cons]
          by_cases same : id = effect.getId
          · rw [same, found]
            simp
          · simp only [List.mem_cons, same, false_or, if_false]

theorem targetsOf_buildEffectStore (effectCfg : List EffectCfg) (effectMapping : List EffectMappingCfg)
    (id : String) :
    (buildEffectStore effectCfg effectMapping).targetsOf id =
      if id ∈ effectCfg.map EffectCfg.getId then (entryOf effectMapping id).map EffectMappingCfg.fans else none := by
  have built := targetsOf_foldl effectCfg effectMapping id ⟨∅⟩
  have empty : (EffectStore.mk ∅).targetsOf id = none := by simp [targetsOf]
  rw [empty, Option.or_none] at built
  exact built

end EffectStore

theorem EffectMapping.mem_fansOfEffect (colorCfg : List EffectMappingCfg) (effect : String) (fan : FanRef) :
    fan ∈ (buildColorMapping colorCfg).fansOfEffect effect ↔
      ∃ entry ∈ colorCfg, entry.effect = effect ∧ fan ∈ entry.fans := by
  have pairs : (colorCfg.flatMap fun entry => entry.fans.map fun fan => (entry.effect, fan)) =
      (colorCfg.flatMap fun c => c.targets.map fun t => (c.effect, t)).map
        fun entry => (entry.1, entry.2.fanRef) := by
    simp [EffectMappingCfg.fans, List.map_flatMap, Function.comp_def]
  have grouped := AList.mem_group_addAll_items colorCfg EffectMappingCfg.effect EffectMappingCfg.fans effect fan
  rw [pairs, AList.addAll, List.foldl_map] at grouped
  exact grouped

/-! ## When they agree -/

structure ReadingsAgree (effectCfg : List EffectCfg) (effectMapping : List EffectMappingCfg)
    (effect : EffectCfg) : Prop where
  named : ((EffectStore.buildEffectStore effectCfg effectMapping).runners.lookup effect.getId).isSome ↔
    ∃ entry ∈ effectMapping, entry.effect = effect.getId
  targets : ∀ runner, (EffectStore.buildEffectStore effectCfg effectMapping).runners.lookup effect.getId =
      some runner →
    ∀ fan, fan ∈ runner.targets ↔ fan ∈ (EffectMapping.buildColorMapping effectMapping).fansOfEffect effect.getId

/-- The first entry of an effect lists the targets of all its later entries. -/
def FirstListsAll (effectCfg : List EffectCfg) (effectMapping : List EffectMappingCfg) : Prop :=
  ∀ effect ∈ effectCfg, ∀ first, EffectStore.entryOf effectMapping effect.getId = some first →
    ∀ entry ∈ effectMapping, entry.effect = effect.getId → ∀ fan ∈ entry.fans, fan ∈ first.fans

theorem EffectStore.lookup_buildEffectStore {effectCfg : List EffectCfg} {effect : EffectCfg}
    (listed : effect ∈ effectCfg) (effectMapping : List EffectMappingCfg) :
    ((buildEffectStore effectCfg effectMapping).runners.lookup effect.getId).map EffectInstance.targets =
      (entryOf effectMapping effect.getId).map EffectMappingCfg.fans := by
  have painted := targetsOf_buildEffectStore effectCfg effectMapping effect.getId
  rw [if_pos (List.mem_map_of_mem listed)] at painted
  exact painted

theorem readings_agree_iff (effectCfg : List EffectCfg) (effectMapping : List EffectMappingCfg) :
    (∀ effect ∈ effectCfg, ReadingsAgree effectCfg effectMapping effect) ↔
      FirstListsAll effectCfg effectMapping := by
  constructor
  · intro agree effect listed first found entry member same fan inside
    have painted := EffectStore.lookup_buildEffectStore listed effectMapping
    rw [found, Option.map_some] at painted
    obtain ⟨runner, stored, targets⟩ := Option.map_eq_some_iff.mp painted
    rw [← targets]
    apply ((agree effect listed).targets runner stored fan).mpr
    exact (EffectMapping.mem_fansOfEffect effectMapping effect.getId fan).mpr ⟨entry, member, same, inside⟩
  · intro lists effect listed
    have painted := EffectStore.lookup_buildEffectStore listed effectMapping
    constructor
    · rw [← EffectStore.entryOf_isSome_iff, ← Option.isSome_map, painted, Option.isSome_map]
    · intro runner stored fan
      rw [stored, Option.map_some] at painted
      obtain ⟨first, found, fans⟩ := Option.map_eq_some_iff.mp painted.symm
      rw [EffectMapping.mem_fansOfEffect, ← fans]
      constructor
      · intro inside
        have named := List.find?_some found
        rw [decide_eq_true_eq] at named
        exact ⟨first, List.mem_of_find?_eq_some found, named, inside⟩
      · intro ⟨entry, member, same, inside⟩
        exact lists effect listed first found entry member same fan inside

/-- The second entry of an effect is not painted, and its fan is in `effect2fans`. -/
theorem second_entry_is_ignored :
    let effects : List EffectCfg := [.constantColor "red" ⟨255, 0, 0⟩]
    let effectMapping : List EffectMappingCfg := [⟨"red", [⟨"0", 1⟩]⟩, ⟨"red", [⟨"0", 2⟩]⟩]
    (effects.map EffectCfg.getId).Nodup ∧
      (EffectStore.buildEffectStore effects effectMapping).targetsOf "red" = some [⟨"0", 1⟩] ∧
      ⟨"0", 2⟩ ∈ (EffectMapping.buildColorMapping effectMapping).fansOfEffect "red" ∧
      ¬ ∀ effect ∈ effects, ReadingsAgree effects effectMapping effect := by
  refine ⟨by decide, by decide, by decide, fun agree => ?_⟩
  have same := (agree (.constantColor "red" ⟨255, 0, 0⟩) (by decide)).targets
    ⟨.constant ⟨255, 0, 0⟩, [⟨"0", 1⟩]⟩ (by decide) ⟨"0", 2⟩
  exact absurd (same.mpr (by decide)) (by decide)

end TtRiingd
