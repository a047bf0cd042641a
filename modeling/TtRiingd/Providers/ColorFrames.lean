import TtRiingd.Library.DoubleBuffer
import TtRiingd.Providers.ColorOrder

/-!
# The two tasks of the colour service

The calculate task answers configuration requests, follows commits and paints; the transmit task hands the
buffer to the controllers. They share the double buffer and nothing else, and every `await` between them
is a step of its own.
-/

namespace TtRiingd.Providers.FanColor

/-- What one `SetColors` batch was given, under which store and how many calculations after its commit. -/
structure Handed where
  map : Buffer
  store : EffectStore
  since : Nat

/-- `todo` is what the running calculation has still to paint, once it has loaded the runners. -/
structure ColorTasks where
  buffers : DoubleBuffer.State Buffer
  cache : FanColorServiceCache
  todo : Option (List (FanRef × Rgb)) := none
  since : Nat := 0
  handed : List Handed := []

def ColorTasks.new (config : Config) : ColorTasks where
  buffers := .new ∅
  cache := .new config

inductive ColorAct where
  | request (config : Config) (payload : RequestPayload)
  | notify (event : Event)
  | loadWriteIndex
  | lockWriteBuffer
  | loadRunners (order : List (String × EffectInstance)) (rgbOf : String → Option Rgb)
  | paint (led : Option Nat)
  | swapBuffers
  | releaseWriteBuffer
  | loadReadIndex
  | lockReadBuffer
  | setColors
  | releaseReadBuffer

def isCommit : Event → Bool
  | .commitConfigUpdate _ => true
  | _ => false

namespace ColorTasks

def isPainting (tasks : ColorTasks) : Bool :=
  match tasks.buffers.writer with
  | .painting _ => true
  | _ => false

def onBuffers (tasks : ColorTasks) (act : DoubleBuffer.Act Buffer)
    (next : DoubleBuffer.State Buffer → ColorTasks) : Option ColorTasks :=
  (DoubleBuffer.step tasks.buffers act).map next

def step (tasks : ColorTasks) : ColorAct → Option ColorTasks
  -- Requests, events and ticks are branches of one `select!`.
  | .request config payload =>
      if tasks.buffers.writer = .idle then
        some { tasks with cache := (handleEvent config payload tasks.cache).2 }
      else none
  | .notify event =>
      if tasks.buffers.writer = .idle then
        some { tasks with
          cache := handleNotify event tasks.cache
          since := if isCommit event then 0 else tasks.since }
      else none
  | .loadWriteIndex => tasks.onBuffers .loadWrite fun buffers => { tasks with buffers }
  | .lockWriteBuffer => tasks.onBuffers .lockWrite fun buffers => { tasks with buffers }
  | .loadRunners order rgbOf =>
      if tasks.isPainting ∧ tasks.todo = none ∧ order.Perm (runnersOf tasks.cache.runners) then
        some { tasks with todo := some (order.flatMap (paintsOf rgbOf)) }
      else none
  | .paint led =>
      match tasks.todo with
      | some (write :: rest) =>
          tasks.onBuffers (.update fun buffer => paintTarget led write.2 buffer write.1) fun buffers =>
            { tasks with buffers, todo := some rest }
      | _ => none
  | .swapBuffers =>
      if tasks.todo = some [] then tasks.onBuffers .swap fun buffers => { tasks with buffers, todo := none }
      else none
  | .releaseWriteBuffer =>
      tasks.onBuffers .unlockWrite fun buffers => { tasks with buffers, since := tasks.since + 1 }
  | .loadReadIndex => tasks.onBuffers .loadRead fun buffers => { tasks with buffers }
  | .lockReadBuffer => tasks.onBuffers .lockRead fun buffers => { tasks with buffers }
  | .setColors =>
      match tasks.buffers.reader with
      | .reading slot =>
          tasks.onBuffers .send fun buffers =>
            { tasks with
              buffers
              handed := tasks.handed ++ [⟨(tasks.buffers.slots slot).content, tasks.cache.runners, tasks.since⟩] }
      | _ => none
  | .releaseReadBuffer => tasks.onBuffers .unlockRead fun buffers => { tasks with buffers }

def Reached (config : Config) : ColorTasks → Prop :=
  Machine.Reachable step (fun first => first = ColorTasks.new config) Machine.free

/-! ## The tasks use the buffers as the double buffer does -/

theorem onBuffers_eq_some {tasks after : ColorTasks} {act : DoubleBuffer.Act Buffer}
    {next : DoubleBuffer.State Buffer → ColorTasks} :
    tasks.onBuffers act next = some after ↔
      ∃ buffers, DoubleBuffer.step tasks.buffers act = some buffers ∧ next buffers = after :=
  Option.map_eq_some_iff

/-- What `SetColors` is given while the transmit task reads the slot. -/
def handOver (tasks : ColorTasks) (slot : Bool) : Handed :=
  ⟨(tasks.buffers.slots slot).content, tasks.cache.runners, tasks.since⟩

theorem step_cases {tasks after : ColorTasks} {label : ColorAct} (action : tasks.step label = some after) :
    (after.buffers = tasks.buffers ∨ ∃ act, DoubleBuffer.step tasks.buffers act = some after.buffers) ∧
      (after.handed = tasks.handed ∨ ∃ slot, after.handed = tasks.handed ++ [tasks.handOver slot]) := by
  cases label with
  | request config payload | notify event | loadRunners order rgbOf =>
      simp only [step, Option.ite_none_right_eq_some, Option.some.injEq] at action
      rw [← action.2]
      exact ⟨.inl rfl, .inl rfl⟩
  | paint led =>
      simp only [step] at action
      split at action
      · obtain ⟨buffers, moved, rfl⟩ := onBuffers_eq_some.mp action
        exact ⟨.inr ⟨_, moved⟩, .inl rfl⟩
      · contradiction
  | swapBuffers =>
      simp only [step, Option.ite_none_right_eq_some] at action
      obtain ⟨buffers, moved, rfl⟩ := onBuffers_eq_some.mp action.2
      exact ⟨.inr ⟨_, moved⟩, .inl rfl⟩
  | setColors =>
      simp only [step] at action
      split at action
      · rename_i slot reading
        obtain ⟨buffers, moved, rfl⟩ := onBuffers_eq_some.mp action
        exact ⟨.inr ⟨_, moved⟩, .inr ⟨slot, rfl⟩⟩
      · contradiction
  | _ =>
      obtain ⟨buffers, moved, rfl⟩ := onBuffers_eq_some.mp action
      exact ⟨.inr ⟨_, moved⟩, .inl rfl⟩

theorem reached_buffers {config : Config} {tasks : ColorTasks} (reached : Reached config tasks) :
    DoubleBuffer.Reached ∅ tasks.buffers := by
  apply Machine.Reachable.invariant (fun tasks => DoubleBuffer.Reached ∅ tasks.buffers) ?_ ?_ reached
  · intro first same
    exact .start (by rw [same]; rfl)
  · intro tasks label after simulated _ action
    rcases (step_cases action).1 with same | ⟨act, moved⟩
    · rw [same]
      exact simulated
    · exact .next simulated trivial moved

/-! ## One calculation paints what `calculateFanColors` computes -/

theorem run_paints {tasks : ColorTasks} {slot : Bool} (ledCount : String → Option Nat)
    (painting : tasks.buffers.writer = .painting slot) {writes : List (FanRef × Rgb)}
    (todo : tasks.todo = some writes) :
    ∃ after, Machine.run step tasks (writes.map fun write => .paint (ledCount write.1.controllerId)) = some after ∧
      after.todo = some [] ∧ after.buffers.writer = .painting slot ∧
      after.buffers.frames = tasks.buffers.frames ∧
      (after.buffers.slots slot).content =
        writes.foldl (FanColor.paint ledCount) (tasks.buffers.slots slot).content := by
  induction writes generalizing tasks with
  | nil => exact ⟨tasks, rfl, todo, painting, rfl, rfl⟩
  | cons write rest ih =>
      let painted : ColorTasks :=
        { tasks with
          buffers := DoubleBuffer.write tasks.buffers slot fun buffer => FanColor.paint ledCount buffer write
          todo := some rest }
      have first : step tasks (.paint (ledCount write.1.controllerId)) = some painted := by
        simp only [step, todo, onBuffers, DoubleBuffer.step, painting, Option.map_some]
        rfl
      obtain ⟨after, ran, done, still, frames, content⟩ := @ih painted painting rfl
      refine ⟨after, ?_, done, still, frames, ?_⟩
      · rw [List.map_cons, Machine.run, first]
        exact ran
      · rw [content]
        simp [painted, DoubleBuffer.write]

/-- With the controllers connected as `ledCount` says throughout, the call leaves as its frame what
`calculateFanColors` makes of the buffer it locked. -/
theorem calculation_frame {tasks : ColorTasks} {slot : Bool} (ledCount : String → Option Nat)
    (rgbOf : String → Option Rgb) {order : List (String × EffectInstance)}
    (painting : tasks.buffers.writer = .painting slot) (unloaded : tasks.todo = none)
    (listed : order.Perm (runnersOf tasks.cache.runners)) :
    ∃ after, Machine.run step tasks (.loadRunners order rgbOf ::
        (order.flatMap (paintsOf rgbOf)).map (fun write => .paint (ledCount write.1.controllerId)) ++
          [.swapBuffers]) = some after ∧
      after.buffers.frames = tasks.buffers.frames ++
        [calculateFanColors ledCount rgbOf order (tasks.buffers.slots slot).content] := by
  let loaded : ColorTasks := { tasks with todo := some (order.flatMap (paintsOf rgbOf)) }
  have first : step tasks (.loadRunners order rgbOf) = some loaded := by
    simp only [step, isPainting, painting, unloaded, listed, and_self, if_true]
    rfl
  obtain ⟨painted, ran, done, still, frames, content⟩ := @run_paints loaded slot ledCount painting _ rfl
  let swapped : ColorTasks :=
    { painted with
      buffers := { DoubleBuffer.finish painted.buffers slot with writer := .swapped slot }
      todo := none }
  have last : step painted .swapBuffers = some swapped := by
    simp only [step, done, if_true, onBuffers, DoubleBuffer.step, still, Option.map_some]
    rfl
  refine ⟨swapped, ?_, ?_⟩
  · rw [List.cons_append, Machine.run, first, Option.bind_some, Machine.run_append, ran]
    simp only [Option.bind_some, Machine.run, last]
  · simp only [swapped, DoubleBuffer.finish, frames, content, calculateFanColors_eq]
    rfl

/-! ## Whole frames, in order -/

/-- Each map handed over is the frame of its number, frame 0 being the empty buffers of the start; the
numbers never decrease, and no map is handed over while it is painted. -/
theorem frames_whole_and_ordered {config : Config} {tasks : ColorTasks} (reached : Reached config tasks) :
    (∀ entry ∈ tasks.buffers.sent, tasks.buffers.frames[entry.1]? = some entry.2) ∧
    (∃ finished, tasks.buffers.frames = ∅ :: finished) ∧
    (tasks.buffers.sent.map Prod.fst).Pairwise (· ≤ ·) ∧
    ∀ slot, tasks.buffers.reader = .reading slot → ¬ tasks.buffers.writer.holds slot := by
  have inv := (reached_buffers reached).inv
  refine ⟨inv.ordered.framed, (reached_buffers reached).frames, inv.ordered.sorted, ?_⟩
  intro slot reading held
  exact inv.locking.apart slot held reading

def oneEffect : Config where
  effects := [.constantColor "red" ⟨255, 0, 0⟩]
  effectMappings := [⟨"red", [⟨"0", 1⟩]⟩]

def calculation (config : Config) (rgb : Rgb) : List ColorAct :=
  [.loadWriteIndex, .lockWriteBuffer, .loadRunners (runnersOf (buildEffects config)) fun _ => some rgb] ++
    ((runnersOf (buildEffects config)).flatMap (paintsOf fun _ => some rgb)).map (fun _ => .paint (some 1)) ++
    [.swapBuffers, .releaseWriteBuffer]

def transmission : List ColorAct := [.loadReadIndex, .lockReadBuffer, .setColors, .releaseReadBuffer]

/-- The second transmission loads the index before the second calculation and locks its buffer after it. -/
theorem frames_whole_and_ordered_twice :
    ∃ tasks, Reached oneEffect tasks ∧ (tasks.buffers.sent.map Prod.fst).Pairwise (· ≤ ·) ∧
      tasks.buffers.sent.map Prod.fst = [0, 1] := by
  obtain ⟨tasks, reached, numbers⟩ := @Machine.exists_reachable_of_arrives _ _ step Machine.free _
    (fun first => first = ColorTasks.new oneEffect) _ rfl
    (transmission ++ calculation oneEffect ⟨255, 0, 0⟩ ++ [ColorAct.loadReadIndex] ++
      calculation oneEffect ⟨255, 0, 0⟩ ++ [ColorAct.lockReadBuffer, .setColors])
    (fun tasks => tasks.buffers.sent.map Prod.fst = [0, 1]) (by decide)
  exact ⟨tasks, reached, (frames_whole_and_ordered reached).2.2.1, of_decide_eq_true numbers⟩

end ColorTasks

end TtRiingd.Providers.FanColor
