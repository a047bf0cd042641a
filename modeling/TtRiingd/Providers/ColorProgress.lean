import TtRiingd.Providers.ColorFrames

/-!
# The two tasks finish

Each of them holds one lock at a time and waits for none while it does. So wherever they stand, both can
finish the call they are in, and neither has to begin another one for that.
-/

namespace TtRiingd.Providers.FanColor

/-- Acts that go on with a call; those that begin one or take a request or an event are the others. -/
def ColorAct.finishes : ColorAct → Bool
  | .request _ _ | .notify _ | .loadWriteIndex | .loadReadIndex => false
  | _ => true

namespace ColorTasks

def Finishes (tasks after : ColorTasks) : Prop :=
  ∃ labels : List ColorAct, (∀ label ∈ labels, label.finishes = true) ∧ Machine.run step tasks labels = some after

section Finishes
variable {config : Config} {tasks middle after : ColorTasks}

theorem Finishes.refl (tasks : ColorTasks) : Finishes tasks tasks := ⟨[], by simp, rfl⟩

theorem Finishes.of_step {label : ColorAct} (going : label.finishes = true) (action : tasks.step label = some after) :
    Finishes tasks after := by
  refine ⟨[label], by simpa using going, ?_⟩
  rw [Machine.run, action]
  rfl

theorem Finishes.trans (first : Finishes tasks middle) (second : Finishes middle after) : Finishes tasks after := by
  obtain ⟨labels, going, ran⟩ := first
  obtain ⟨others, going', ran'⟩ := second
  refine ⟨labels ++ others, ?_, ?_⟩
  · intro label listed
    exact (List.mem_append.mp listed).elim (going label) (going' label)
  · rw [Machine.run_append, ran]
    exact ran'

theorem Reached.finishes (reached : Reached config tasks) (finishes : Finishes tasks after) : Reached config after := by
  obtain ⟨labels, -, ran⟩ := finishes
  exact Machine.Reachable.run reached (Machine.Allowed.of_all (fun _ _ _ => trivial) tasks) ran

theorem Finishes.of_buffers (label : ColorAct) {act : DoubleBuffer.Act Buffer} {buffers : DoubleBuffer.State Buffer}
    {next : DoubleBuffer.State Buffer → ColorTasks} (going : label.finishes = true)
    (does : tasks.step label = tasks.onBuffers act next) (moved : DoubleBuffer.step tasks.buffers act = some buffers) :
    Finishes tasks (next buffers) :=
  .of_step going (does.trans (onBuffers_eq_some.mpr ⟨buffers, moved, rfl⟩))

/-! ## The transmit task -/

theorem finishes_reading {slot : Bool} (reading : tasks.buffers.reader = .reading slot) :
    ∃ after, Finishes tasks after ∧ after.buffers.reader = .idle ∧ after.buffers.writer = tasks.buffers.writer := by
  have moved : DoubleBuffer.step tasks.buffers .unlockRead = some { tasks.buffers.setLock slot
      ⟨(tasks.buffers.slots slot).lock.writer, (tasks.buffers.slots slot).lock.readers - 1⟩ with reader := .idle } := by
    simp only [DoubleBuffer.step, reading]
  exact ⟨_, .of_buffers ColorAct.releaseReadBuffer rfl rfl moved, rfl, rfl⟩

/-- No writer is in its way. -/
theorem finishes_transmission (reached : Reached config tasks) (idle : tasks.buffers.writer = .idle) :
    ∃ after, Finishes tasks after ∧ after.buffers.writer = .idle ∧ after.buffers.reader = .idle := by
  cases reader : tasks.buffers.reader with
  | idle => exact ⟨tasks, .refl tasks, idle, reader⟩
  | reading slot =>
      obtain ⟨after, finishes, rests, same⟩ := finishes_reading reader
      exact ⟨after, finishes, same.trans idle, rests⟩
  | loaded slot =>
      have free : (tasks.buffers.slots slot).lock.writer = false := by
        rw [← Bool.not_eq_true, (reached_buffers reached).inv.locking.writer slot, idle]
        simp [DoubleBuffer.Writer.holds]
      let locked : DoubleBuffer.State Buffer := { tasks.buffers.setLock slot
        ⟨false, (tasks.buffers.slots slot).lock.readers + 1⟩ with reader := .reading slot }
      have moved : DoubleBuffer.step tasks.buffers .lockRead = some locked := by
        simp only [DoubleBuffer.step, reader, free, if_true]
        rfl
      have reading : ({ tasks with buffers := locked } : ColorTasks).buffers.reader = .reading slot := rfl
      obtain ⟨after, finishes, rests, same⟩ := finishes_reading reading
      exact ⟨after, (Finishes.of_buffers .lockReadBuffer rfl rfl moved).trans finishes, same.trans idle, rests⟩

/-! ## The calculate task -/

theorem finishes_swapped {slot : Bool} (swapped : tasks.buffers.writer = .swapped slot) :
    ∃ after, Finishes tasks after ∧ after.buffers.writer = .idle := by
  have moved : DoubleBuffer.step tasks.buffers .unlockWrite =
      some { tasks.buffers.setLock slot ⟨false, 0⟩ with writer := .idle } := by
    simp only [DoubleBuffer.step, swapped]
  exact ⟨_, .of_buffers ColorAct.releaseWriteBuffer rfl rfl moved, rfl⟩

/-- The runners are loaded if they are not, and every controller is taken to be gone. -/
theorem finishes_painting {slot : Bool} (painting : tasks.buffers.writer = .painting slot) :
    ∃ after, Finishes tasks after ∧ after.buffers.writer = .idle := by
  have loads : ∃ loaded, Finishes tasks loaded ∧ loaded.buffers.writer = .painting slot ∧
      ∃ writes, loaded.todo = some writes := by
    cases todo : tasks.todo with
    | some writes => exact ⟨tasks, .refl tasks, painting, writes, todo⟩
    | none =>
        let order := runnersOf tasks.cache.runners
        have action : tasks.step (.loadRunners order fun _ => none) =
            some { tasks with todo := some (order.flatMap (paintsOf fun _ => none)) } := by
          simp [step, isPainting, painting, todo, order]
        exact ⟨_, .of_step rfl action, painting, _, rfl⟩
  obtain ⟨loaded, begins, still, writes, todo⟩ := loads
  obtain ⟨painted, ran, done, still, -⟩ := run_paints (fun _ => none) still todo
  have paints : Finishes loaded painted := by
    refine ⟨_, ?_, ran⟩
    intro label listed
    obtain ⟨write, -, rfl⟩ := List.mem_map.mp listed
    rfl
  let swapped : DoubleBuffer.State Buffer := { DoubleBuffer.finish painted.buffers slot with writer := .swapped slot }
  have moved : DoubleBuffer.step painted.buffers .swap = some swapped := by
    simp only [DoubleBuffer.step, still]
    rfl
  have swaps := @Finishes.of_buffers painted .swapBuffers _ _ (fun buffers => { painted with buffers, todo := none })
    rfl (if_pos done) moved
  have left : ({ painted with buffers := swapped, todo := none } : ColorTasks).buffers.writer = .swapped slot := rfl
  obtain ⟨after, finishes, idle⟩ := finishes_swapped left
  exact ⟨after, ((begins.trans paints).trans swaps).trans finishes, idle⟩

/-- No reader is in its way. -/
theorem finishes_calculation (reached : Reached config tasks)
    (unread : ∀ slot, tasks.buffers.reader ≠ .reading slot) :
    ∃ after, Finishes tasks after ∧ after.buffers.writer = .idle := by
  cases writer : tasks.buffers.writer with
  | idle => exact ⟨tasks, .refl tasks, writer⟩
  | painting slot => exact finishes_painting writer
  | swapped slot => exact finishes_swapped writer
  | loaded slot =>
      have inv := (reached_buffers reached).inv
      have open_lock : (tasks.buffers.slots slot).lock.writer = false := by
        rw [← Bool.not_eq_true, inv.locking.writer slot, writer]
        simp [DoubleBuffer.Writer.holds]
      have unlocked : (tasks.buffers.slots slot).lock.readers = 0 := by
        rw [inv.locking.readers slot, if_neg (unread slot)]
      let locked : DoubleBuffer.State Buffer := { tasks.buffers.setLock slot ⟨true, 0⟩ with writer := .painting slot }
      have moved : DoubleBuffer.step tasks.buffers .lockWrite = some locked := by
        simp only [DoubleBuffer.step, writer, open_lock, unlocked, and_self, if_true]
        rfl
      have painting : ({ tasks with buffers := locked } : ColorTasks).buffers.writer = .painting slot := rfl
      obtain ⟨after, finishes, idle⟩ := finishes_painting painting
      exact ⟨after, (Finishes.of_buffers .lockWriteBuffer rfl rfl moved).trans finishes, idle⟩

end Finishes

/-- Wherever the two tasks stand, both can finish the calls they are in: neither waits for the other for ever. -/
theorem color_tasks_finish {config : Config} {tasks : ColorTasks} (reached : Reached config tasks) :
    ∃ after, Finishes tasks after ∧ after.buffers.writer = .idle ∧ after.buffers.reader = .idle := by
  have unread : ∃ middle, Finishes tasks middle ∧ ∀ slot, middle.buffers.reader ≠ .reading slot := by
    cases reader : tasks.buffers.reader with
    | reading slot =>
        obtain ⟨middle, finishes, rests, -⟩ := finishes_reading reader
        exact ⟨middle, finishes, by simp [rests]⟩
    | idle => exact ⟨tasks, .refl tasks, by simp [reader]⟩
    | loaded slot => exact ⟨tasks, .refl tasks, by simp [reader]⟩
  obtain ⟨first, releases, unread⟩ := unread
  obtain ⟨second, calculates, idle⟩ := finishes_calculation (reached.finishes releases) unread
  obtain ⟨last, transmits, rest⟩ := finishes_transmission ((reached.finishes releases).finishes calculates) idle
  exact ⟨last, (releases.trans calculates).trans transmits, rest⟩

/-- The transmit task waits for the slot that is being painted. -/
theorem color_tasks_finish_contended :
    ∃ tasks after, Reached oneEffect tasks ∧ tasks.buffers.writer = .painting true ∧
      tasks.buffers.reader = .loaded true ∧ Finishes tasks after ∧ after.buffers.writer = .idle ∧
      after.buffers.reader = .idle := by
  obtain ⟨tasks, reached, contended⟩ := @Machine.exists_reachable_of_arrives _ _ step Machine.free _
    (fun first => first = ColorTasks.new oneEffect) _ rfl
    ([ColorAct.loadReadIndex] ++ calculation oneEffect ⟨255, 0, 0⟩ ++ [ColorAct.loadWriteIndex, .lockWriteBuffer])
    (fun tasks => tasks.buffers.writer = .painting true ∧ tasks.buffers.reader = .loaded true) (by decide)
  obtain ⟨writer, reader⟩ := of_decide_eq_true contended
  obtain ⟨after, rests⟩ := color_tasks_finish reached
  exact ⟨tasks, after, reached, writer, reader, rests⟩

end ColorTasks

end TtRiingd.Providers.FanColor
