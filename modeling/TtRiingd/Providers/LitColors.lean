import TtRiingd.Effects.Breathing
import TtRiingd.Providers.ColorFrames

/-!
# What the LEDs are given

Whatever the order of requests, commits, calculations and transmissions: the LEDs of a fan are handed over
in one colour, and that is a colour of an effect that some configuration maps to the fan.
-/

namespace TtRiingd.Providers.FanColor

/-! ## Where runners come from -/

/-- The configuration has an effect with this runner and a mapping of it to these targets. -/
structure Configured (config : Config) (effect : EffectCfg) (instanceOf : EffectInstance) : Prop where
  listed : effect ∈ config.effects
  made : effect.intoRunner = .ok instanceOf.runner
  mapped : ∃ mapping ∈ config.effectMappings, mapping.effect = effect.getId ∧ instanceOf.targets = mapping.fans

def Sourced (given : Config → Prop) (store : EffectStore) : Prop :=
  ∀ id instanceOf, store.runners.lookup id = some instanceOf →
    ∃ config effect, given config ∧ Configured config effect instanceOf

theorem instance_eq_ok {effect : EffectCfg} {mapping : EffectMappingCfg} {instanceOf : EffectInstance}
    (made : EffectInstance.new effect (some mapping) = .ok instanceOf) :
    effect.intoRunner = .ok instanceOf.runner ∧ instanceOf.targets = mapping.fans := by
  obtain ⟨runner, known⟩ := effect.intoRunner_succeeds
  unfold EffectInstance.new at made
  rw [known] at made
  cases made
  exact ⟨known, rfl⟩

theorem buildEffects_sourced {given : Config → Prop} {config : Config} (known : given config) :
    Sourced given (buildEffects config) := by
  have collected (entries : List (String × Except Error EffectInstance)) (store : EffectStore)
      (sourced : Sourced given store)
      (made : ∀ entry ∈ entries, ∀ instanceOf, entry.2 = .ok instanceOf →
        ∃ effect, Configured config effect instanceOf) :
      Sourced given (entries.foldl EffectStore.collect store) := by
    induction entries generalizing store with
    | nil => exact sourced
    | cons entry rest ih =>
        apply ih
        · unfold EffectStore.collect
          split
          · rename_i instanceOf built
            intro id found lookup
            rw [AList.lookup_insert_eq] at lookup
            split at lookup
            · cases lookup
              obtain ⟨effect, configured⟩ := made entry List.mem_cons_self instanceOf built
              exact ⟨config, effect, known, configured⟩
            · exact sourced id found lookup
          · exact sourced
        · intro later listed
          exact made later (List.mem_cons_of_mem _ listed)
  apply collected
  · intro id instanceOf lookup
    simp at lookup
  · intro entry listed instanceOf built
    obtain ⟨effect, member, named⟩ := List.mem_filterMap.mp listed
    obtain ⟨mapping, found, rfl⟩ := Option.map_eq_some_iff.mp named
    obtain ⟨made, targets⟩ := instance_eq_ok built
    have sameEffect := List.find?_some found
    exact ⟨effect, member, made, mapping, List.mem_of_find?_eq_some found, of_decide_eq_true sameEffect, targets⟩

/-! ## The buffers -/

/-- A colour that an effect of a given configuration may give the fan. -/
def Meant (given : Config → Prop) (fan : FanRef) (rgb : Rgb) : Prop :=
  ∃ config effect, given config ∧ effect ∈ config.effects ∧ effect.Shows rgb ∧
    ∃ mapping ∈ config.effectMappings, mapping.effect = effect.getId ∧ fan ∈ mapping.fans

/-- Every fan has at most one list of LEDs, all in one colour that is meant for it. -/
structure Lit (meant : FanRef → Rgb → Prop) (buffer : Buffer) : Prop where
  single : ∀ fan, (ledsOf buffer fan).length ≤ 1
  meant : ∀ fan, ∀ leds ∈ ledsOf buffer fan, ∃ rgb, meant fan rgb ∧ ∀ led ∈ leds, led = rgb

variable {meant : FanRef → Rgb → Prop}

theorem lit_empty : Lit meant ∅ := ⟨fun _ => Nat.zero_le 1, fun _ _ listed => by contradiction⟩

theorem Lit.paintTarget {buffer : Buffer} (lit : Lit meant buffer) (led : Option Nat) {rgb : Rgb} {fan : FanRef}
    (allowed : meant fan rgb) : Lit meant (paintTarget led rgb buffer fan) := by
  have single := lit.single fan
  constructor
  · intro query
    rw [ledsOf_paintTarget]
    split
    · unfold painted
      split
      · rename_i before
        rw [before] at single
        exact single
      · split
        · exact le_rfl
        · exact Nat.zero_le 1
    · exact lit.single query
  · intro query leds listed
    rw [ledsOf_paintTarget] at listed
    split at listed
    · rename_i same
      subst same
      refine ⟨rgb, allowed, ?_⟩
      unfold painted at listed
      split at listed
      · rename_i first rest before
        rw [before] at single
        have alone : rest = [] := List.length_eq_zero_iff.mp (Nat.le_zero.mp (Nat.le_of_succ_le_succ single))
        rw [alone] at listed
        rw [List.mem_singleton.mp listed]
        intro led inside
        obtain ⟨_, _, rfl⟩ := List.mem_map.mp inside
        rfl
      · split at listed
        · rw [List.mem_singleton.mp listed]
          intro led inside
          exact List.eq_of_mem_replicate inside
        · contradiction
    · exact lit.meant query leds listed

/-! ## Runs -/

/-- The service starts with a given configuration and is asked to prepare given ones, and the streams of its
runners yield what those yield at some time. -/
def Streams (sin : F32 → F32) (given : Config → Prop) : ColorTasks → ColorAct → Prop
  | _, .request config _ => given config
  | _, .loadRunners order rgbOf => ∀ runner ∈ order, ∀ rgb, rgbOf runner.1 = some rgb →
      ∃ elapsed, rgb = runner.2.runner.colorAt sin elapsed
  | _, _ => True

def Shown (sin : F32 → F32) (given : Config → Prop) : ColorTasks → Prop :=
  Machine.Reachable ColorTasks.step (fun first => ∃ config, given config ∧ first = .new config) (Streams sin given)

structure Painting (given : Config → Prop) (tasks : ColorTasks) : Prop where
  runners : Sourced given tasks.cache.runners
  newRunners : Sourced given tasks.cache.newRunners
  todo : ∀ writes, tasks.todo = some writes → ∀ write ∈ writes, Meant given write.1 write.2
  slots : ∀ slot, Lit (Meant given) (tasks.buffers.slots slot).content
  handed : ∀ handed ∈ tasks.handed, Lit (Meant given) handed.map

theorem meant_mono {given wider : Config → Prop} (more : ∀ config, given config → wider config) (fan : FanRef)
    (rgb : Rgb) (meant : Meant given fan rgb) : Meant wider fan rgb := by
  obtain ⟨config, effect, known, others⟩ := meant
  exact ⟨config, effect, more config known, others⟩

theorem Painting.mono {given wider : Config → Prop} {tasks : ColorTasks} (painting : Painting given tasks)
    (more : ∀ config, given config → wider config) : Painting wider tasks := by
  have sourced {store : EffectStore} (source : Sourced given store) : Sourced wider store := by
    intro id instanceOf found
    obtain ⟨config, effect, known, configured⟩ := source id instanceOf found
    exact ⟨config, effect, more config known, configured⟩
  have lit {buffer : Buffer} (before : Lit (Meant given) buffer) : Lit (Meant wider) buffer := by
    refine ⟨before.single, ?_⟩
    intro fan leds listed
    obtain ⟨rgb, meant, single⟩ := before.meant fan leds listed
    exact ⟨rgb, meant_mono more fan rgb meant, single⟩
  exact ⟨sourced painting.runners, sourced painting.newRunners,
    fun writes todo write member => meant_mono more _ _ (painting.todo writes todo write member),
    fun slot => lit (painting.slots slot), fun handed listed => lit (painting.handed handed listed)⟩

section Steps
variable {sin : F32 → F32} {given : Config → Prop} {tasks after : ColorTasks}

theorem painting_new {config : Config} (known : given config) : Painting given (.new config) := by
  refine ⟨buildEffects_sourced known, ?_, ?_, fun _ => lit_empty, ?_⟩
  · intro id instanceOf lookup
    simp [ColorTasks.new, FanColorServiceCache.new] at lookup
  · intro writes none
    contradiction
  · intro handed listed
    contradiction

theorem Painting.onBuffers (painting : Painting given tasks) {act : DoubleBuffer.Act Buffer}
    {buffers : DoubleBuffer.State Buffer} (moved : DoubleBuffer.step tasks.buffers act = some buffers)
    (keeps : ∀ change, act = .update change → ∀ buffer, Lit (Meant given) buffer → Lit (Meant given) (change buffer))
    (slot : Bool) : Lit (Meant given) (buffers.slots slot).content := by
  rcases DoubleBuffer.step_contents moved with same | ⟨place, change, update, -, rfl⟩
  · rw [same]
    exact painting.slots slot
  · by_cases here : slot = place
    · subst here
      have changed : ((DoubleBuffer.write tasks.buffers slot change).slots slot).content =
          change (tasks.buffers.slots slot).content := by simp [DoubleBuffer.write]
      rw [changed]
      exact keeps change update _ (painting.slots slot)
    · rw [DoubleBuffer.write_content_of_ne _ _ _ _ here]
      exact painting.slots slot

theorem Painting.loadRunners (sine : Sine sin) (painting : Painting given tasks)
    {order : List (String × EffectInstance)} {rgbOf : String → Option Rgb}
    (streams : Streams sin given tasks (.loadRunners order rgbOf))
    (listed : order.Perm (runnersOf tasks.cache.runners)) :
    ∀ write ∈ order.flatMap (paintsOf rgbOf), Meant given write.1 write.2 := by
  intro ⟨fan, rgb⟩ painted
  obtain ⟨runner, member, paints⟩ := List.mem_flatMap.mp painted
  obtain ⟨yielded, target⟩ := (mem_paintsOf rgbOf runner fan rgb).mp paints
  obtain ⟨entry, stored, rfl⟩ := List.mem_map.mp (listed.mem_iff.mp member)
  obtain ⟨config, effect, known, configured⟩ :=
    painting.runners entry.1 entry.2 ((AList.mem_entries_iff_lookup _ _ _).mp stored)
  obtain ⟨elapsed, rfl⟩ := streams _ member rgb yielded
  obtain ⟨mapping, mapped, same, targets⟩ := configured.mapped
  have shows := EffectCfg.shows_colorAt sine configured.made elapsed
  exact ⟨config, effect, known, configured.listed, shows, mapping, mapped, same, targets ▸ target⟩

theorem Painting.request (painting : Painting given tasks) {config : Config} (known : given config)
    (payload : RequestPayload) :
    Painting given { tasks with cache := (handleEvent config payload tasks.cache).2 } := by
  refine ⟨?_, ?_, painting.todo, painting.slots, painting.handed⟩
  · cases payload with
    | prepareConfigUpdate id => exact painting.runners
    | other debug => exact painting.runners
  · cases payload with
    | prepareConfigUpdate id => exact buildEffects_sourced known
    | other debug => exact painting.newRunners

theorem Painting.notify (painting : Painting given tasks) (event : Event) (since : Nat) :
    Painting given { tasks with cache := handleNotify event tasks.cache, since } := by
  unfold handleNotify
  split
  · exact ⟨painting.newRunners, painting.newRunners, painting.todo, painting.slots, painting.handed⟩
  · exact ⟨painting.runners, painting.newRunners, painting.todo, painting.slots, painting.handed⟩
  · exact ⟨painting.runners, painting.newRunners, painting.todo, painting.slots, painting.handed⟩

/-- Every act on the buffers but a painted target leaves their contents as they are. -/
theorem Painting.moved (painting : Painting given tasks) {act : DoubleBuffer.Act Buffer}
    {buffers : DoubleBuffer.State Buffer} (moved : DoubleBuffer.step tasks.buffers act = some buffers)
    (other : ∀ change, act ≠ .update change) (since : Nat) : Painting given { tasks with buffers, since } := by
  refine ⟨painting.runners, painting.newRunners, painting.todo, ?_, painting.handed⟩
  exact painting.onBuffers moved fun change update => absurd update (other change)

theorem painting_step (sine : Sine sin) (painting : Painting given tasks) {label : ColorAct}
    (streams : Streams sin given tasks label) (action : tasks.step label = some after) : Painting given after := by
  cases label with
  | request config payload =>
      simp only [ColorTasks.step, Option.ite_none_right_eq_some, Option.some.injEq] at action
      rw [← action.2]
      exact painting.request streams payload
  | notify event =>
      simp only [ColorTasks.step, Option.ite_none_right_eq_some, Option.some.injEq] at action
      rw [← action.2]
      exact painting.notify event _
  | loadRunners order rgbOf =>
      simp only [ColorTasks.step, Option.ite_none_right_eq_some, Option.some.injEq] at action
      obtain ⟨⟨_, _, listed⟩, rfl⟩ := action
      refine ⟨painting.runners, painting.newRunners, ?_, painting.slots, painting.handed⟩
      intro writes loaded
      cases loaded
      exact painting.loadRunners sine streams listed
  | paint led =>
      simp only [ColorTasks.step] at action
      split at action
      · rename_i write rest todo
        obtain ⟨buffers, moved, rfl⟩ := ColorTasks.onBuffers_eq_some.mp action
        have allowed := painting.todo _ todo
        refine ⟨painting.runners, painting.newRunners, ?_, ?_, painting.handed⟩
        · intro writes left
          cases left
          exact fun later listed => allowed later (List.mem_cons_of_mem _ listed)
        · apply painting.onBuffers moved
          intro change update buffer lit
          cases update
          exact lit.paintTarget led (allowed write List.mem_cons_self)
      · contradiction
  | swapBuffers =>
      simp only [ColorTasks.step, Option.ite_none_right_eq_some] at action
      obtain ⟨buffers, moved, rfl⟩ := ColorTasks.onBuffers_eq_some.mp action.2
      have swapped := painting.moved moved (by simp) tasks.since
      exact ⟨swapped.runners, swapped.newRunners, by simp, swapped.slots, swapped.handed⟩
  | setColors =>
      simp only [ColorTasks.step] at action
      split at action
      · rename_i slot reading
        obtain ⟨buffers, moved, rfl⟩ := ColorTasks.onBuffers_eq_some.mp action
        have sent := painting.moved moved (by simp) tasks.since
        refine ⟨sent.runners, sent.newRunners, sent.todo, sent.slots, ?_⟩
        intro handed listed
        rcases List.mem_append.mp listed with earlier | now
        · exact painting.handed handed earlier
        · rw [List.mem_singleton.mp now]
          exact painting.slots slot
      · contradiction
  | _ =>
      obtain ⟨buffers, moved, rfl⟩ := ColorTasks.onBuffers_eq_some.mp action
      exact painting.moved moved (by simp) _

end Steps

theorem leds_show_effects {sin : F32 → F32} (sine : Sine sin) {given : Config → Prop} {tasks : ColorTasks}
    (shown : Shown sin given tasks) : ∀ handed ∈ tasks.handed, Lit (Meant given) handed.map := by
  have painting : Painting given tasks := by
    apply Machine.Reachable.invariant (Painting given) ?_ ?_ shown
    · intro first ⟨config, known, same⟩
      rw [same]
      exact painting_new known
    · intro state label after painting streams action
      exact painting_step sine painting streams action
  exact painting.handed

def oneFade : Config where
  effects := [.fade "red" ⟨255, 0, 0⟩ 2]
  effectMappings := [⟨"red", [⟨"0", 1⟩]⟩]

/-- The sine at zero, where the calculation below asks for it. -/
def sinAtStart : F32 → F32
  | .fin _ => .fin 0
  | _ => .nan

theorem sinAtStart_sine : Sine sinAtStart := ⟨fun _ => ⟨0, rfl, by simp⟩, rfl⟩

/-- One calculation and one transmission, with every stream at the same colour. -/
theorem streams_of_frame {sin : F32 → F32} {given : Config → Prop} {config : Config} {rgb : Rgb}
    (yields : ∀ runner ∈ runnersOf (buildEffects config), ∃ elapsed, rgb = runner.2.runner.colorAt sin elapsed) :
    ∀ label ∈ ColorTasks.calculation config rgb ++ ColorTasks.transmission, ∀ state,
      Streams sin given state label := by
  intro label listed state
  cases label with
  | request config payload => simp [ColorTasks.calculation, ColorTasks.transmission] at listed
  | loadRunners order rgbOf =>
      simp only [ColorTasks.calculation, ColorTasks.transmission, List.mem_append, List.mem_cons, List.mem_map,
        ColorAct.loadRunners.injEq, reduceCtorEq, List.not_mem_nil, and_false, exists_false, or_false,
        false_or] at listed
      rw [listed.1, listed.2]
      intro runner member other yielded
      cases yielded
      exact yields runner member
  | _ => trivial

theorem leds_show_effects_oneFade :
    ∃ tasks, Shown sinAtStart (· = oneFade) tasks ∧ (∀ handed ∈ tasks.handed, Lit (Meant (· = oneFade)) handed.map) ∧
      tasks.handed.map (fun handed => ledsOf handed.map ⟨"0", 1⟩) = [[[⟨128, 0, 0⟩]]] := by
  let labels := ColorTasks.calculation oneFade ⟨128, 0, 0⟩ ++ ColorTasks.transmission
  obtain ⟨tasks, -, ran, seen⟩ := @Machine.run_of_arrives _ _ ColorTasks.step Machine.free _ (.new oneFade) labels
    (fun tasks => tasks.handed.map (fun handed => ledsOf handed.map ⟨"0", 1⟩) = [[[⟨128, 0, 0⟩]]]) (by decide)
  have yields : ∀ runner ∈ runnersOf (buildEffects oneFade),
      ∃ elapsed, (⟨128, 0, 0⟩ : Rgb) = runner.2.runner.colorAt sinAtStart elapsed := by
    intro runner member
    cases List.mem_singleton.mp member
    exact ⟨0, by decide +kernel⟩
  have first : Shown sinAtStart (· = oneFade) (.new oneFade) := .start ⟨oneFade, rfl, rfl⟩
  have shown := first.run (Machine.Allowed.of_all (streams_of_frame yields) _) ran
  exact ⟨tasks, shown, leds_show_effects sinAtStart_sine shown, of_decide_eq_true seen⟩

end TtRiingd.Providers.FanColor
