import TtRiingd.Providers.ColorFrames

/-!
# Entries of removed effects

Both buffers live as long as the service and are only ever added to: a commit replaces the runners and
leaves the entries of their targets in the buffers. They are handed over with every batch from then on.
-/

namespace TtRiingd.Providers.FanColor

def heldFans (buffer : Buffer) : List FanRef :=
  buffer.entries.flatMap fun entry => entry.2.map fun channel => ⟨entry.1, channel.1⟩

def targetedFans (store : EffectStore) : List FanRef := (runnersOf store).flatMap fun runner => runner.2.targets

/-- Every entry of the map is a target of some effect of the store. -/
def Handed.Sound (handed : Handed) : Prop := ∀ fan ∈ heldFans handed.map, fan ∈ targetedFans handed.store

instance (handed : Handed) : Decidable handed.Sound :=
  inferInstanceAs (Decidable (∀ fan ∈ heldFans handed.map, fan ∈ targetedFans handed.store))

theorem mem_heldFans (buffer : Buffer) (fan : FanRef) : fan ∈ heldFans buffer ↔ ledsOf buffer fan ≠ [] := by
  unfold heldFans ledsOf
  rw [← any_iff_ledsIn]
  simp only [List.mem_flatMap, List.mem_map, List.any_eq_true, decide_eq_true_eq]
  constructor
  · intro ⟨⟨controllerId, buf⟩, listed, channel, inside, same⟩
    subst same
    rw [(AList.mem_entries_iff_lookup buffer controllerId buf).mp listed]
    exact ⟨channel, inside, rfl⟩
  · intro ⟨channel, inside, same⟩
    cases found : buffer.lookup fan.controllerId with
    | none =>
        rw [found] at inside
        contradiction
    | some buf =>
        rw [found] at inside
        refine ⟨⟨fan.controllerId, buf⟩, (AList.mem_entries_iff_lookup _ _ _).mpr found, channel, inside, ?_⟩
        rw [same]

theorem painted_ne_nil {led : Option Nat} {rgb : Rgb} {leds : List (List Rgb)} (held : leds ≠ []) :
    painted led rgb leds ≠ [] := by
  cases leds with
  | nil => contradiction
  | cons first rest => simp [painted]

theorem heldFans_paintTarget {led : Option Nat} {rgb : Rgb} {buffer : Buffer} {fan query : FanRef}
    (held : query ∈ heldFans (paintTarget led rgb buffer fan)) : query = fan ∨ query ∈ heldFans buffer := by
  rw [mem_heldFans, ledsOf_paintTarget] at held
  by_cases same : query = fan
  · exact .inl same
  · rw [if_neg same] at held
    exact .inr ((mem_heldFans buffer query).mpr held)

theorem heldFans_stay {buffer : Buffer} {query : FanRef} (held : query ∈ heldFans buffer) (led : Option Nat)
    (rgb : Rgb) (fan : FanRef) : query ∈ heldFans (paintTarget led rgb buffer fan) := by
  rw [mem_heldFans] at held ⊢
  rw [ledsOf_paintTarget]
  by_cases same : query = fan
  · rw [if_pos same, ← same]
    exact painted_ne_nil held
  · rw [if_neg same]
    exact held

theorem targeted_of_paints {order : List (String × EffectInstance)} {store : EffectStore}
    (listed : order.Perm (runnersOf store)) {rgbOf : String → Option Rgb} {write : FanRef × Rgb}
    (painted : write ∈ order.flatMap (paintsOf rgbOf)) : write.1 ∈ targetedFans store := by
  obtain ⟨runner, member, paints⟩ := List.mem_flatMap.mp painted
  have targets := ((mem_paintsOf rgbOf runner write.1 write.2).mp paints).2
  exact List.mem_flatMap.mpr ⟨runner, listed.mem_iff.mp member, targets⟩

/-! ## Between two commits -/

def ColorAct.commits : ColorAct → Bool
  | .notify event => isCommit event
  | _ => false

namespace ColorTasks

/-- Since the buffers held `base`, the targets of the store in use have been added and nothing else has
changed about which entries there are. -/
structure Since (base : Bool → Buffer) (tasks : ColorTasks) : Prop where
  kept : ∀ slot, ∀ fan ∈ heldFans (base slot), fan ∈ heldFans (tasks.buffers.slots slot).content
  added : ∀ slot, ∀ fan ∈ heldFans (tasks.buffers.slots slot).content,
    fan ∈ heldFans (base slot) ∨ fan ∈ targetedFans tasks.cache.runners
  pending : ∀ writes, tasks.todo = some writes →
    tasks.isPainting ∧ ∀ write ∈ writes, write.1 ∈ targetedFans tasks.cache.runners

theorem handleNotify_of_not_commit {event : Event} (other : isCommit event = false)
    (cache : FanColorServiceCache) : handleNotify event cache = cache := by
  cases event with
  | commitConfigUpdate transactionId => contradiction
  | _ => rfl

theorem handleEvent_runners (config : Config) (payload : RequestPayload) (cache : FanColorServiceCache) :
    (handleEvent config payload cache).2.runners = cache.runners := by
  cases payload with
  | prepareConfigUpdate transactionId => rfl
  | other debug => rfl

theorem isPainting_iff (tasks : ColorTasks) : tasks.isPainting ↔ ∃ slot, tasks.buffers.writer = .painting slot := by
  unfold isPainting
  cases tasks.buffers.writer <;> simp

section Steps
variable {base : Bool → Buffer} {tasks after : ColorTasks}

/-- A step of the buffers that neither paints nor swaps. -/
theorem Since.of_buffers (since : Since base tasks) {act : DoubleBuffer.Act Buffer}
    (moved : DoubleBuffer.step tasks.buffers act = some after.buffers)
    (unpainted : ∀ change, act ≠ .update change) (unswapped : act ≠ .swap)
    (runners : after.cache.runners = tasks.cache.runners) (todo : after.todo = tasks.todo) : Since base after := by
  have contents : ∀ slot, (after.buffers.slots slot).content = (tasks.buffers.slots slot).content := by
    rcases DoubleBuffer.step_contents moved with same | ⟨slot, change, update, -⟩
    · exact same
    · exact absurd update (unpainted change)
  refine ⟨?_, ?_, ?_⟩
  · intro slot
    rw [contents]
    exact since.kept slot
  · intro slot
    rw [contents, runners]
    exact since.added slot
  · intro writes listed
    rw [todo] at listed
    obtain ⟨painting, targeted⟩ := since.pending writes listed
    obtain ⟨slot, painting⟩ := (isPainting_iff tasks).mp painting
    rw [runners]
    exact ⟨(isPainting_iff after).mpr ⟨slot, DoubleBuffer.step_writer moved painting unswapped⟩, targeted⟩

theorem Since.of_cache (since : Since base tasks) (buffers : after.buffers = tasks.buffers)
    (runners : after.cache.runners = tasks.cache.runners) (todo : after.todo = tasks.todo) : Since base after := by
  refine ⟨?_, ?_, ?_⟩
  · rw [buffers]
    exact since.kept
  · rw [buffers, runners]
    exact since.added
  · unfold isPainting
    rw [buffers, runners, todo]
    exact since.pending

theorem Since.loadRunners (since : Since base tasks) (painting : tasks.isPainting)
    {order : List (String × EffectInstance)} (listed : order.Perm (runnersOf tasks.cache.runners))
    (rgbOf : String → Option Rgb) :
    Since base { tasks with todo := some (order.flatMap (paintsOf rgbOf)) } := by
  refine ⟨since.kept, since.added, ?_⟩
  intro writes same
  rw [← Option.some.inj same]
  exact ⟨painting, fun write inside => targeted_of_paints listed inside⟩

theorem Since.paint (since : Since base tasks) {slot : Bool} (painting : tasks.buffers.writer = .painting slot)
    {write : FanRef × Rgb} {rest : List (FanRef × Rgb)} (todo : tasks.todo = some (write :: rest))
    (led : Option Nat) :
    Since base { tasks with
      buffers := DoubleBuffer.write tasks.buffers slot fun buffer => paintTarget led write.2 buffer write.1
      todo := some rest } := by
  obtain ⟨-, targeted⟩ := since.pending _ todo
  rw [List.forall_mem_cons] at targeted
  refine ⟨?_, ?_, ?_⟩
  · intro other fan held
    have before := since.kept other fan held
    by_cases same : other = slot
    · simp only [DoubleBuffer.write, same, Function.update_self] at before ⊢
      exact heldFans_stay before led write.2 write.1
    · rw [DoubleBuffer.write_content_of_ne _ _ _ _ same]
      exact before
  · intro other fan held
    by_cases same : other = slot
    · simp only [DoubleBuffer.write, same, Function.update_self] at held ⊢
      rcases heldFans_paintTarget held with target | before
      · exact .inr (by rw [target]; exact targeted.1)
      · exact since.added slot fan before
    · rw [DoubleBuffer.write_content_of_ne _ _ _ _ same] at held
      exact since.added other fan held
  · intro writes same
    rw [← Option.some.inj same]
    exact ⟨(isPainting_iff _).mpr ⟨slot, painting⟩, targeted.2⟩

theorem Since.swap (since : Since base tasks) {buffers : DoubleBuffer.State Buffer}
    (moved : DoubleBuffer.step tasks.buffers .swap = some buffers) :
    Since base { tasks with buffers, todo := none } := by
  have contents : ∀ slot, (buffers.slots slot).content = (tasks.buffers.slots slot).content := by
    rcases DoubleBuffer.step_contents moved with same | ⟨slot, change, update, -⟩
    · exact same
    · contradiction
  refine ⟨?_, ?_, ?_⟩
  · intro slot
    simp only [contents]
    exact since.kept slot
  · intro slot
    simp only [contents]
    exact since.added slot
  · simp

theorem since_step (since : Since base tasks) {label : ColorAct} (quiet : label.commits = false)
    (action : tasks.step label = some after) :
    Since base after ∧ after.cache.runners = tasks.cache.runners := by
  cases label with
  | request config payload =>
      simp only [step, Option.ite_none_right_eq_some, Option.some.injEq] at action
      have runners := handleEvent_runners config payload tasks.cache
      rw [← action.2]
      exact ⟨since.of_cache rfl runners rfl, runners⟩
  | notify event =>
      simp only [step, Option.ite_none_right_eq_some, Option.some.injEq] at action
      have same := handleNotify_of_not_commit quiet tasks.cache
      rw [← action.2]
      exact ⟨since.of_cache rfl (by rw [same]) rfl, by rw [same]⟩
  | loadRunners order rgbOf =>
      simp only [step, Option.ite_none_right_eq_some, Option.some.injEq] at action
      obtain ⟨⟨painting, -, listed⟩, rfl⟩ := action
      exact ⟨since.loadRunners painting listed rgbOf, rfl⟩
  | paint led =>
      simp only [step] at action
      split at action
      · rename_i write rest todo
        obtain ⟨buffers, moved, rfl⟩ := onBuffers_eq_some.mp action
        obtain ⟨slot, painting⟩ := (isPainting_iff tasks).mp (since.pending _ todo).1
        simp only [DoubleBuffer.step, painting, Option.some.injEq] at moved
        rw [← moved]
        exact ⟨since.paint painting todo led, rfl⟩
      · contradiction
  | swapBuffers =>
      simp only [step, Option.ite_none_right_eq_some] at action
      obtain ⟨buffers, moved, rfl⟩ := onBuffers_eq_some.mp action.2
      exact ⟨since.swap moved, rfl⟩
  | setColors =>
      simp only [step] at action
      split at action
      · obtain ⟨buffers, moved, rfl⟩ := onBuffers_eq_some.mp action
        exact ⟨since.of_buffers moved (by simp) (by simp) rfl rfl, rfl⟩
      · contradiction
  | _ =>
      obtain ⟨buffers, moved, rfl⟩ := onBuffers_eq_some.mp action
      exact ⟨since.of_buffers moved (by simp) (by simp) rfl rfl, rfl⟩

end Steps

/-! ## Across commits -/

/-- A commit starts the account again, from what the buffers hold. -/
theorem since_commit {base : Bool → Buffer} {tasks after : ColorTasks} {label : ColorAct}
    (since : Since base tasks) (commits : label.commits = true) (action : tasks.step label = some after) :
    Since (fun slot => (tasks.buffers.slots slot).content) after ∧
      after.cache.runners = tasks.cache.newRunners := by
  cases label with
  | notify event =>
      cases event with
      | commitConfigUpdate transactionId =>
          simp only [step, Option.ite_none_right_eq_some, Option.some.injEq] at action
          obtain ⟨idle, rfl⟩ := action
          refine ⟨⟨fun _ _ => id, fun _ _ => .inl, ?_⟩, rfl⟩
          intro writes todo
          obtain ⟨slot, painting⟩ := (isPainting_iff tasks).mp (since.pending writes todo).1
          rw [idle] at painting
          contradiction
      | _ => contradiction
  | _ => contradiction

theorem since_new (config : Config) : Since (fun _ => ∅) (ColorTasks.new config) := by
  refine ⟨fun _ _ => id, fun _ _ => .inl, ?_⟩
  simp [ColorTasks.new]

theorem reached_since {config : Config} {tasks : ColorTasks} (reached : Reached config tasks) :
    ∃ base, Since base tasks := by
  apply Machine.Reachable.invariant (fun tasks => ∃ base, Since base tasks) ?_ ?_ reached
  · intro first same
    exact ⟨_, by rw [same]; exact since_new config⟩
  · intro tasks label after ⟨base, since⟩ _ action
    cases commits : label.commits with
    | true => exact ⟨_, (since_commit since commits action).1⟩
    | false => exact ⟨base, (since_step since commits action).1⟩

/-- A commit takes over a store that still targets every entry the buffers hold. -/
def CommitsCover (tasks : ColorTasks) (label : ColorAct) : Prop :=
  label.commits = true → ∀ slot, ∀ fan ∈ heldFans (tasks.buffers.slots slot).content,
    fan ∈ targetedFans tasks.cache.newRunners

instance (tasks : ColorTasks) (label : ColorAct) : Decidable (CommitsCover tasks label) :=
  inferInstanceAs (Decidable (label.commits = true → ∀ slot : Bool,
    ∀ fan ∈ heldFans (tasks.buffers.slots slot).content, fan ∈ targetedFans tasks.cache.newRunners))

theorem commitsCover_sound {config : Config} {tasks : ColorTasks}
    (reached : Machine.Reachable step (fun first => first = ColorTasks.new config) CommitsCover tasks) :
    Since (fun _ => ∅) tasks ∧ ∀ handed ∈ tasks.handed, handed.Sound := by
  apply reached.invariant fun tasks => Since (fun _ => ∅) tasks ∧ ∀ handed ∈ tasks.handed, handed.Sound
  · intro first same
    rw [same]
    exact ⟨since_new config, by simp [ColorTasks.new]⟩
  · intro tasks label after ⟨since, sound⟩ covers action
    have targeted : ∀ slot, (tasks.handOver slot).Sound := by
      intro slot fan held
      rcases since.added slot fan held with never | target
      · contradiction
      · exact target
    refine ⟨?_, ?_⟩
    · cases commits : label.commits with
      | false => exact (since_step since commits action).1
      | true =>
          obtain ⟨fresh, runners⟩ := since_commit since commits action
          refine ⟨fun _ _ never => by contradiction, ?_, fresh.pending⟩
          intro slot fan held
          rcases fresh.added slot fan held with before | target
          · rw [runners]
            exact .inr (covers commits slot fan before)
          · exact .inr target
    · rcases (step_cases action).2 with same | ⟨slot, more⟩
      · rw [same]
        exact sound
      · rw [more, List.forall_mem_append]
        exact ⟨sound, by simpa using targeted slot⟩

theorem since_run {base : Bool → Buffer} {tasks final : ColorTasks} {labels : List ColorAct}
    (since : Since base tasks) (quiet : ∀ label ∈ labels, label.commits = false)
    (ran : Machine.run step tasks labels = some final) :
    Since base final ∧ final.cache.runners = tasks.cache.runners := by
  induction labels generalizing tasks with
  | nil =>
      cases ran
      exact ⟨since, rfl⟩
  | cons label rest ih =>
      rw [List.forall_mem_cons] at quiet
      obtain ⟨middle, action, ran⟩ := Option.bind_eq_some_iff.mp ran
      obtain ⟨since, runners⟩ := since_step since quiet.1 action
      obtain ⟨since, later⟩ := ih since quiet.2 ran
      exact ⟨since, later.trans runners⟩

/-- After a commit and any run without another one, a buffer is free of entries of removed effects exactly
when the committed store targets all that the buffer held at the commit. -/
theorem handOver_sound_iff {config : Config} {before after final : ColorTasks} {commit : ColorAct}
    {labels : List ColorAct} (reached : Reached config before) (commits : commit.commits = true)
    (committed : before.step commit = some after) (quiet : ∀ label ∈ labels, label.commits = false)
    (ran : Machine.run step after labels = some final) (slot : Bool) :
    (final.handOver slot).Sound ↔ ∀ fan ∈ heldFans (before.buffers.slots slot).content,
      fan ∈ targetedFans before.cache.newRunners := by
  obtain ⟨base, since⟩ := reached_since reached
  obtain ⟨since, active⟩ := since_commit since commits committed
  obtain ⟨since, runners⟩ := since_run since quiet ran
  have store : (final.handOver slot).store = before.cache.newRunners := runners.trans active
  unfold Handed.Sound
  rw [store]
  constructor
  · intro sound fan held
    exact sound fan (since.kept slot fan held)
  · intro covers fan held
    rcases since.added slot fan held with before | target
    · exact covers fan before
    · rw [← store]
      exact target

/-- The condition on the commits is enough in every run, and at each commit it is exact for the buffer that
is handed over. -/
theorem removed_stop_painting (config : Config) :
    (∀ tasks, Machine.Reachable step (fun first => first = ColorTasks.new config) CommitsCover tasks →
      ∀ handed ∈ tasks.handed, 2 ≤ handed.since → handed.Sound) ∧
    ∀ before after final commit labels slot, Reached config before → ColorAct.commits commit = true →
      before.step commit = some after → (∀ label ∈ labels, ColorAct.commits label = false) →
      Machine.run step after labels = some final → final.buffers.reader = .reading slot → 2 ≤ final.since →
      ((final.handOver slot).Sound ↔ ∀ fan ∈ heldFans (before.buffers.slots slot).content,
        fan ∈ targetedFans before.cache.newRunners) := by
  refine ⟨fun tasks reached handed listed _ => (commitsCover_sound reached).2 handed listed, ?_⟩
  intro before after final commit labels slot reached commits committed quiet ran _ _
  exact handOver_sound_iff reached commits committed quiet ran slot

/-- The request and the commit of a configuration without effects. -/
def removal : List ColorAct := [.request {} (.prepareConfigUpdate 1), .notify (.commitConfigUpdate 1)]

def repaint : List ColorAct := [.request oneEffect (.prepareConfigUpdate 1), .notify (.commitConfigUpdate 1)]

theorem removed_stop_painting_same_effects :
    ∃ tasks, Machine.Reachable step (fun first => first = ColorTasks.new oneEffect) CommitsCover tasks ∧
      ∃ handed ∈ tasks.handed, handed.since = 2 ∧ handed.Sound := by
  obtain ⟨tasks, reached, painted⟩ := @Machine.exists_reachable_of_arrives _ _ step CommitsCover _
    (fun first => first = ColorTasks.new oneEffect) _ rfl
    (calculation oneEffect ⟨255, 0, 0⟩ ++ repaint ++ calculation oneEffect ⟨255, 0, 0⟩ ++
      calculation oneEffect ⟨255, 0, 0⟩ ++ transmission)
    (fun tasks => tasks.handed.any fun handed => handed.since = 2) (by decide)
  obtain ⟨handed, listed, twice⟩ := List.any_eq_true.mp painted
  have since : handed.since = 2 := of_decide_eq_true twice
  exact ⟨tasks, reached, handed, listed, since,
    (removed_stop_painting oneEffect).1 tasks reached handed listed since.ge⟩

theorem removed_effect_keeps_painting :
    ∃ tasks, Reached oneEffect tasks ∧
      ∃ handed ∈ tasks.handed, handed.since = 2 ∧ ¬ handed.Sound := by
  obtain ⟨tasks, reached, stale⟩ := @Machine.exists_reachable_of_arrives _ _ step Machine.free _
    (fun first => first = ColorTasks.new oneEffect) _ rfl
    (calculation oneEffect ⟨255, 0, 0⟩ ++ removal ++ calculation {} ⟨255, 0, 0⟩ ++
      calculation {} ⟨255, 0, 0⟩ ++ transmission)
    (fun tasks => tasks.handed.any fun handed => handed.since = 2 ∧ ¬ handed.Sound) (by decide)
  obtain ⟨handed, listed, stale⟩ := List.any_eq_true.mp stale
  exact ⟨tasks, reached, handed, listed, of_decide_eq_true stale⟩

end ColorTasks

end TtRiingd.Providers.FanColor
