import TtRiingd.Library.Machine
import Mathlib.Logic.Function.Basic
import Mathlib.Data.List.Pairwise

/-!
# A double buffer between one writer and one reader

Two slots, each behind a readers-writer lock, and an atomic index of the slot to write. The writer loads
the index, locks that slot, changes it step by step, flips the index and unlocks; the reader loads the
index, locks the other slot and hands its content over. The index is loaded before the lock is held, so
either of them can find itself at a slot that has changed sides. What the reader hands over is still a
frame that a call of the writer has finished, and never an older one than before.
-/

namespace DoubleBuffer

variable {β : Type}

structure RwLock where
  writer : Bool
  readers : Nat

/-- `number` is the writer's call that last finished the slot, 0 before the first one. -/
structure Slot (β : Type) where
  content : β
  lock : RwLock := ⟨false, 0⟩
  number : Nat := 0

inductive Writer where
  | idle
  | loaded (slot : Bool)
  | painting (slot : Bool)
  | swapped (slot : Bool)
  deriving DecidableEq

inductive Reader where
  | idle
  | loaded (slot : Bool)
  | reading (slot : Bool)
  deriving DecidableEq

/-- `frames` lists what each finished call left, the initial content first; `sent` what the reader has
handed over. -/
structure State (β : Type) where
  slots : Bool → Slot β
  writeIndex : Bool := false
  writer : Writer := .idle
  reader : Reader := .idle
  frames : List β
  sent : List (Nat × β) := []

def State.new (empty : β) : State β where
  slots _ := { content := empty }
  frames := [empty]

def State.setLock (state : State β) (slot : Bool) (lock : RwLock) : State β :=
  { state with slots := Function.update state.slots slot { state.slots slot with lock } }

inductive Act (β : Type) where
  | loadWrite
  | lockWrite
  | update (change : β → β)
  | swap
  | unlockWrite
  | loadRead
  | lockRead
  | send
  | unlockRead

def write (state : State β) (slot : Bool) (change : β → β) : State β :=
  { state with
    slots := Function.update state.slots slot
      { state.slots slot with content := change (state.slots slot).content } }

/-- The content as it is now is the next frame. -/
def finish (state : State β) (slot : Bool) : State β :=
  { state with
    slots := Function.update state.slots slot { state.slots slot with number := state.frames.length }
    frames := state.frames ++ [(state.slots slot).content]
    writeIndex := !state.writeIndex }

def step (state : State β) (act : Act β) : Option (State β) :=
  match act, state.writer, state.reader with
  | .loadWrite, .idle, _ => some { state with writer := .loaded state.writeIndex }
  | .lockWrite, .loaded slot, _ =>
      if (state.slots slot).lock.writer = false ∧ (state.slots slot).lock.readers = 0 then
        some { state.setLock slot ⟨true, 0⟩ with writer := .painting slot }
      else none
  | .update change, .painting slot, _ => some (write state slot change)
  | .swap, .painting slot, _ => some { finish state slot with writer := .swapped slot }
  | .unlockWrite, .swapped slot, _ => some { state.setLock slot ⟨false, 0⟩ with writer := .idle }
  | .loadRead, _, .idle => some { state with reader := .loaded !state.writeIndex }
  | .lockRead, _, .loaded slot =>
      if (state.slots slot).lock.writer = false then
        some { state.setLock slot ⟨false, (state.slots slot).lock.readers + 1⟩ with reader := .reading slot }
      else none
  | .send, _, .reading slot =>
      some { state with sent := state.sent ++ [((state.slots slot).number, (state.slots slot).content)] }
  | .unlockRead, _, .reading slot =>
      some { state.setLock slot ⟨(state.slots slot).lock.writer, (state.slots slot).lock.readers - 1⟩ with
        reader := .idle }
  | _, _, _ => none

section Fields
variable (state : State β) (slot other : Bool) (lock : RwLock) (change : β → β)

@[simp] theorem setLock_number : ((state.setLock slot lock).slots other).number = (state.slots other).number := by
  by_cases same : other = slot <;> simp [State.setLock, same]

@[simp] theorem setLock_content : ((state.setLock slot lock).slots other).content = (state.slots other).content := by
  by_cases same : other = slot <;> simp [State.setLock, same]

theorem setLock_lock :
    ((state.setLock slot lock).slots other).lock = if other = slot then lock else (state.slots other).lock := by
  by_cases same : other = slot <;> simp [State.setLock, same]

@[simp] theorem write_number : ((write state slot change).slots other).number = (state.slots other).number := by
  by_cases same : other = slot <;> simp [write, same]

@[simp] theorem write_lock : ((write state slot change).slots other).lock = (state.slots other).lock := by
  by_cases same : other = slot <;> simp [write, same]

theorem write_content_of_ne (elsewhere : other ≠ slot) :
    ((write state slot change).slots other).content = (state.slots other).content := by
  simp [write, elsewhere]

@[simp] theorem finish_lock : ((finish state slot).slots other).lock = (state.slots other).lock := by
  by_cases same : other = slot <;> simp [finish, same]

@[simp] theorem finish_content : ((finish state slot).slots other).content = (state.slots other).content := by
  by_cases same : other = slot <;> simp [finish, same]

theorem finish_number :
    ((finish state slot).slots other).number =
      if other = slot then state.frames.length else (state.slots other).number := by
  by_cases same : other = slot <;> simp [finish, same]

end Fields

/-! ## The invariant -/

def Writer.holds (writer : Writer) (slot : Bool) : Prop := writer = .painting slot ∨ writer = .swapped slot

def Reader.at (reader : Reader) (slot : Bool) : Prop := reader = .loaded slot ∨ reader = .reading slot

/-- The two tasks are the only holders of the locks, and never hold the same one. -/
structure Locking (state : State β) : Prop where
  writer : ∀ slot, (state.slots slot).lock.writer = true ↔ state.writer.holds slot
  readers : ∀ slot, (state.slots slot).lock.readers = if state.reader = .reading slot then 1 else 0
  apart : ∀ slot, state.writer.holds slot → state.reader ≠ .reading slot

/-- The slot to read holds the newest frame; the writer is at the slot to write until it swaps. -/
structure Indexing (state : State β) : Prop where
  newest : (state.slots !state.writeIndex).number + 1 = state.frames.length
  older : (state.slots state.writeIndex).number < state.frames.length
  loaded : ∀ slot, state.writer = .loaded slot → slot = state.writeIndex
  painting : ∀ slot, state.writer = .painting slot → slot = state.writeIndex

/-- A slot that is not being painted holds the frame of its number. -/
def Whole (state : State β) : Prop :=
  ∀ slot, state.writer ≠ .painting slot →
    state.frames[(state.slots slot).number]? = some (state.slots slot).content

structure Ordered (state : State β) : Prop where
  framed : ∀ entry ∈ state.sent, state.frames[entry.1]? = some entry.2
  sorted : (state.sent.map Prod.fst).Pairwise (· ≤ ·)
  /-- A reader that has chosen its slot will not go back behind what was sent. -/
  next : ∀ slot, state.reader.at slot → ∀ entry ∈ state.sent, entry.1 ≤ (state.slots slot).number

structure Inv (state : State β) : Prop where
  locking : Locking state
  indexing : Indexing state
  whole : Whole state
  ordered : Ordered state

theorem inv_new (empty : β) : Inv (State.new empty) := by
  refine ⟨⟨?_, ?_, ?_⟩, ⟨rfl, Nat.zero_lt_one, ?_, ?_⟩, fun slot _ => rfl, ⟨?_, List.Pairwise.nil, ?_⟩⟩
  all_goals simp [State.new, Writer.holds]

/-! ## What a step leaves alone -/

section Congruence
variable {state after : State β}

theorem Indexing.of_same (indexing : Indexing state)
    (numbers : ∀ slot, (after.slots slot).number = (state.slots slot).number)
    (frames : after.frames = state.frames) (index : after.writeIndex = state.writeIndex)
    (stays : ∀ slot, after.writer = .loaded slot ∨ after.writer = .painting slot → slot = state.writeIndex) :
    Indexing after := by
  refine ⟨?_, ?_, ?_, ?_⟩
  · rw [numbers, frames, index]
    exact indexing.newest
  · rw [numbers, frames, index]
    exact indexing.older
  · intro slot loaded
    rw [index]
    exact stays slot (.inl loaded)
  · intro slot painting
    rw [index]
    exact stays slot (.inr painting)

theorem Whole.of_same (whole : Whole state)
    (numbers : ∀ slot, (after.slots slot).number = (state.slots slot).number)
    (frames : after.frames = state.frames)
    (contents : ∀ slot, after.writer ≠ .painting slot →
      (after.slots slot).content = (state.slots slot).content ∧ state.writer ≠ .painting slot) : Whole after := by
  intro slot unpainted
  obtain ⟨content, unpainted⟩ := contents slot unpainted
  rw [numbers, frames, content]
  exact whole slot unpainted

theorem Ordered.of_same (ordered : Ordered state)
    (numbers : ∀ slot, (after.slots slot).number = (state.slots slot).number)
    (frames : after.frames = state.frames) (sent : after.sent = state.sent)
    (chosen : ∀ slot, after.reader.at slot → state.reader.at slot) : Ordered after := by
  refine ⟨?_, ?_, ?_⟩
  · rw [frames, sent]
    exact ordered.framed
  · rw [sent]
    exact ordered.sorted
  · intro slot at_slot
    rw [numbers, sent]
    exact ordered.next slot (chosen slot at_slot)

end Congruence

theorem Locking.setLock_writer {state : State β} {slot : Bool} {taken : Bool} {writer : Writer}
    (locking : Locking state) (vacant : state.reader ≠ .reading slot)
    (here : writer.holds slot ↔ taken = true)
    (elsewhere : ∀ other, other ≠ slot → (writer.holds other ↔ state.writer.holds other)) :
    Locking { state.setLock slot ⟨taken, 0⟩ with writer } := by
  refine ⟨?_, ?_, ?_⟩
  · intro other
    rw [setLock_lock]
    by_cases same : other = slot
    · rw [if_pos same, same]
      exact here.symm
    · rw [if_neg same, elsewhere other same]
      exact locking.writer other
  · intro other
    rw [setLock_lock]
    by_cases same : other = slot
    · rw [if_pos same, same]
      exact (if_neg vacant).symm
    · rw [if_neg same]
      exact locking.readers other
  · intro other held
    by_cases same : other = slot
    · rw [same]
      exact vacant
    · exact locking.apart other ((elsewhere other same).mp held)

theorem Locking.setLock_reader {state : State β} {slot : Bool} {readers : Nat} {reader : Reader}
    (locking : Locking state) (here : readers = if reader = .reading slot then 1 else 0)
    (elsewhere : ∀ other, other ≠ slot → (reader = .reading other ↔ state.reader = .reading other))
    (apart : state.writer.holds slot → reader ≠ .reading slot) :
    Locking { state.setLock slot ⟨(state.slots slot).lock.writer, readers⟩ with reader } := by
  refine ⟨?_, ?_, ?_⟩
  · intro other
    rw [setLock_lock]
    by_cases same : other = slot
    · rw [if_pos same, same]
      exact locking.writer slot
    · rw [if_neg same]
      exact locking.writer other
  · intro other
    rw [setLock_lock]
    by_cases same : other = slot
    · rw [if_pos same, same]
      exact here
    · rw [if_neg same, locking.readers other]
      simp only [elsewhere other same]
  · intro other held
    by_cases same : other = slot
    · rw [same]
      exact apart (same ▸ held)
    · exact fun reading => locking.apart other held ((elsewhere other same).mp reading)

/-! ## One step at a time -/

section Steps
variable {state : State β} {slot : Bool}

theorem inv_loadWrite (inv : Inv state) (idle : state.writer = .idle) :
    Inv { state with writer := .loaded state.writeIndex } := by
  have holds : ∀ slot, (Writer.loaded state.writeIndex).holds slot ↔ state.writer.holds slot := by
    simp [idle, Writer.holds]
  refine ⟨⟨?_, inv.locking.readers, ?_⟩, ?_, ?_, inv.ordered.of_same (fun _ => rfl) rfl rfl fun _ => id⟩
  · intro slot
    exact (inv.locking.writer slot).trans (holds slot).symm
  · intro slot held
    exact inv.locking.apart slot ((holds slot).mp held)
  · refine inv.indexing.of_same (fun _ => rfl) rfl rfl ?_
    simp
  · refine inv.whole.of_same (fun _ => rfl) rfl ?_
    intro slot _
    exact ⟨rfl, by simp [idle]⟩

theorem inv_lockWrite (inv : Inv state) (loaded : state.writer = .loaded slot)
    (vacant : (state.slots slot).lock.readers = 0) :
    Inv { state.setLock slot ⟨true, 0⟩ with writer := .painting slot } := by
  refine ⟨?_, ?_, ?_, inv.ordered.of_same (by simp) rfl rfl fun _ => id⟩
  · have unread : state.reader ≠ .reading slot := by
      intro reading
      rw [inv.locking.readers slot, if_pos reading] at vacant
      contradiction
    apply inv.locking.setLock_writer unread
    · simp [Writer.holds]
    · intro other elsewhere
      simp [Writer.holds, loaded, Ne.symm elsewhere]
  · refine inv.indexing.of_same (by simp) rfl rfl ?_
    intro other same
    rw [← inv.indexing.loaded slot loaded]
    simpa [eq_comm] using same
  · refine inv.whole.of_same (by simp) rfl ?_
    intro other _
    exact ⟨by simp, by simp [loaded]⟩

theorem inv_update (inv : Inv state) (painting : state.writer = .painting slot) (change : β → β) :
    Inv (write state slot change) := by
  refine ⟨⟨?_, ?_, inv.locking.apart⟩, ?_, ?_, inv.ordered.of_same (by simp) rfl rfl fun _ => id⟩
  · intro other
    rw [write_lock]
    exact inv.locking.writer other
  · intro other
    rw [write_lock]
    exact inv.locking.readers other
  · refine inv.indexing.of_same (by simp) rfl rfl ?_
    intro other same
    exact same.elim (inv.indexing.loaded other) (inv.indexing.painting other)
  · refine inv.whole.of_same (by simp) rfl ?_
    intro other unpainted
    have different : other ≠ slot := by
      intro same
      exact unpainted (by rw [same]; exact painting)
    exact ⟨write_content_of_ne _ _ _ _ different, unpainted⟩

theorem inv_swap (inv : Inv state) (painting : state.writer = .painting slot) :
    Inv { finish state slot with writer := .swapped slot } := by
  have here : slot = state.writeIndex := inv.indexing.painting slot painting
  have holds : ∀ other, (Writer.swapped slot).holds other ↔ state.writer.holds other := by
    simp [painting, Writer.holds]
  have grows : ∀ (number : Nat) (content : β), state.frames[number]? = some content →
      (state.frames ++ [(state.slots slot).content])[number]? = some content := by
    intro number content found
    rw [List.getElem?_append_left (List.getElem?_eq_some_iff.mp found).1, found]
  refine ⟨⟨?_, ?_, ?_⟩, ⟨?_, ?_, by simp, by simp⟩, ?_, ⟨?_, inv.ordered.sorted, ?_⟩⟩
  · intro other
    rw [finish_lock, holds]
    exact inv.locking.writer other
  · intro other
    rw [finish_lock]
    exact inv.locking.readers other
  · intro other held
    exact inv.locking.apart other ((holds other).mp held)
  · rw [finish_number]
    simp [finish, here]
  · have older := inv.indexing.newest
    rw [finish_number]
    simp only [finish, here, List.length_append, List.length_singleton]
    rw [if_neg (by simp)]
    omega
  · intro other _
    rw [finish_number, finish_content]
    by_cases same : other = slot
    · rw [if_pos same, same]
      exact List.getElem?_concat_length
    · rw [if_neg same]
      exact grows _ _ (inv.whole other (by rw [painting]; simpa using Ne.symm same))
  · intro entry listed
    exact grows _ _ (inv.ordered.framed entry listed)
  · intro other chosen entry listed
    have sent := inv.ordered.next other chosen entry listed
    rw [finish_number]
    by_cases same : other = slot
    · rw [if_pos same]
      exact Nat.le_of_lt (List.getElem?_eq_some_iff.mp (inv.ordered.framed entry listed)).1
    · rw [if_neg same]
      exact sent

theorem inv_unlockWrite (inv : Inv state) (swapped : state.writer = .swapped slot) :
    Inv { state.setLock slot ⟨false, 0⟩ with writer := .idle } := by
  refine ⟨?_, ?_, ?_, inv.ordered.of_same (by simp) rfl rfl fun _ => id⟩
  · apply inv.locking.setLock_writer (inv.locking.apart slot (.inr swapped))
    · simp [Writer.holds]
    · intro other elsewhere
      simp [Writer.holds, swapped, Ne.symm elsewhere]
  · refine inv.indexing.of_same (by simp) rfl rfl ?_
    simp
  · refine inv.whole.of_same (by simp) rfl ?_
    intro other _
    exact ⟨by simp, by simp [swapped]⟩

/-- What was sent is not newer than the slot to read, which holds the newest frame. -/
theorem inv_loadRead (inv : Inv state) (idle : state.reader = .idle) :
    Inv { state with reader := .loaded !state.writeIndex } := by
  refine ⟨⟨inv.locking.writer, ?_, by simp⟩, ?_, ?_, ⟨inv.ordered.framed, inv.ordered.sorted, ?_⟩⟩
  · intro slot
    have unread := inv.locking.readers slot
    simpa [idle] using unread
  · refine inv.indexing.of_same (fun _ => rfl) rfl rfl ?_
    intro other same
    exact same.elim (inv.indexing.loaded other) (inv.indexing.painting other)
  · exact inv.whole.of_same (fun _ => rfl) rfl fun _ unpainted => ⟨rfl, unpainted⟩
  · intro slot chosen entry listed
    have newest := inv.indexing.newest
    have sent := (List.getElem?_eq_some_iff.mp (inv.ordered.framed entry listed)).1
    have same : (!state.writeIndex) = slot := by simpa [Reader.at] using chosen
    rw [← same]
    simp only
    omega

theorem inv_lockRead (inv : Inv state) (loaded : state.reader = .loaded slot)
    (free : (state.slots slot).lock.writer = false) :
    Inv { state.setLock slot ⟨false, (state.slots slot).lock.readers + 1⟩ with reader := .reading slot } := by
  refine ⟨?_, ?_, ?_, ?_⟩
  · have unread := inv.locking.readers slot
    have locked := @Locking.setLock_reader β state slot ((state.slots slot).lock.readers + 1) (.reading slot)
      inv.locking (by simp [unread, loaded]) (by intro other elsewhere; simp [loaded, Ne.symm elsewhere])
      (by intro held; rw [(inv.locking.writer slot).mpr held] at free; contradiction)
    rw [free] at locked
    exact locked
  · refine inv.indexing.of_same (by simp) rfl rfl ?_
    intro other same
    exact same.elim (inv.indexing.loaded other) (inv.indexing.painting other)
  · exact inv.whole.of_same (by simp) rfl fun _ unpainted => ⟨by simp, unpainted⟩
  · refine inv.ordered.of_same (by simp) rfl rfl ?_
    intro other chosen
    have same : slot = other := by simpa [Reader.at] using chosen
    exact .inl (by rw [loaded, same])

theorem inv_send (inv : Inv state) (reading : state.reader = .reading slot) :
    Inv { state with sent := state.sent ++ [((state.slots slot).number, (state.slots slot).content)] } := by
  have unpainted : state.writer ≠ .painting slot := fun painting => inv.locking.apart slot (.inl painting) reading
  refine ⟨⟨inv.locking.writer, inv.locking.readers, inv.locking.apart⟩, ?_, ?_, ⟨?_, ?_, ?_⟩⟩
  · refine inv.indexing.of_same (fun _ => rfl) rfl rfl ?_
    intro other same
    exact same.elim (inv.indexing.loaded other) (inv.indexing.painting other)
  · exact inv.whole.of_same (fun _ => rfl) rfl fun _ unpainted => ⟨rfl, unpainted⟩
  · intro entry listed
    rcases List.mem_append.mp listed with earlier | now
    · exact inv.ordered.framed entry earlier
    · rw [List.mem_singleton.mp now]
      exact inv.whole slot unpainted
  · rw [List.map_append, List.pairwise_append]
    refine ⟨inv.ordered.sorted, List.pairwise_singleton _ _, ?_⟩
    intro number earlier last now
    obtain ⟨entry, listed, rfl⟩ := List.mem_map.mp earlier
    rw [List.mem_singleton.mp now]
    exact inv.ordered.next slot (.inr reading) entry listed
  · intro other chosen entry listed
    rcases List.mem_append.mp listed with earlier | now
    · exact inv.ordered.next other chosen entry earlier
    · have same : slot = other := by simpa [Reader.at, reading] using chosen
      apply Nat.le_of_eq
      rw [List.mem_singleton.mp now, same]

theorem inv_unlockRead (inv : Inv state) (reading : state.reader = .reading slot) :
    Inv { state.setLock slot ⟨(state.slots slot).lock.writer, (state.slots slot).lock.readers - 1⟩ with
      reader := .idle } := by
  refine ⟨?_, ?_, ?_, ?_⟩
  · apply inv.locking.setLock_reader
    · simp [inv.locking.readers slot, reading]
    · intro other elsewhere
      simp [reading, Ne.symm elsewhere]
    · simp
  · refine inv.indexing.of_same (by simp) rfl rfl ?_
    intro other same
    exact same.elim (inv.indexing.loaded other) (inv.indexing.painting other)
  · exact inv.whole.of_same (by simp) rfl fun _ unpainted => ⟨by simp, unpainted⟩
  · refine inv.ordered.of_same (by simp) rfl rfl ?_
    intro other chosen
    simp [Reader.at] at chosen

end Steps

theorem step_inv {state after : State β} {act : Act β} (inv : Inv state) (action : step state act = some after) :
    Inv after := by
  unfold step at action
  split at action
  · cases action
    exact inv_loadWrite inv ‹_›
  · split at action <;> cases action
    rename_i open_lock
    exact inv_lockWrite inv ‹_› open_lock.2
  · cases action
    exact inv_update inv ‹_› _
  · cases action
    exact inv_swap inv ‹_›
  · cases action
    exact inv_unlockWrite inv ‹_›
  · cases action
    exact inv_loadRead inv ‹_›
  · split at action <;> cases action
    exact inv_lockRead inv ‹_› ‹_›
  · cases action
    exact inv_send inv ‹_›
  · cases action
    exact inv_unlockRead inv ‹_›
  · contradiction

/-! ## What the steps do to the contents and the frames -/

theorem step_contents {state after : State β} {act : Act β} (action : step state act = some after) :
    (∀ slot, (after.slots slot).content = (state.slots slot).content) ∨
      ∃ slot change, act = .update change ∧ state.writer = .painting slot ∧ after = write state slot change := by
  unfold step at action
  split at action
  · cases action
    exact .inl fun slot => rfl
  · split at action <;> cases action
    exact .inl fun slot => setLock_content _ _ _ _
  · cases action
    exact .inr ⟨_, _, rfl, ‹_›, rfl⟩
  · cases action
    exact .inl fun slot => finish_content _ _ _
  · cases action
    exact .inl fun slot => setLock_content _ _ _ _
  · cases action
    exact .inl fun slot => rfl
  · split at action <;> cases action
    exact .inl fun slot => setLock_content _ _ _ _
  · cases action
    exact .inl fun slot => rfl
  · cases action
    exact .inl fun slot => setLock_content _ _ _ _
  · contradiction

theorem step_frames {state after : State β} {act : Act β} (action : step state act = some after) :
    after.frames = state.frames ∨
      ∃ slot, state.writer = .painting slot ∧ after.frames = state.frames ++ [(state.slots slot).content] := by
  unfold step at action
  split at action
  · cases action
    exact .inl rfl
  · split at action <;> cases action
    exact .inl rfl
  · cases action
    exact .inl rfl
  · cases action
    exact .inr ⟨_, ‹_›, rfl⟩
  · cases action
    exact .inl rfl
  · cases action
    exact .inl rfl
  · split at action <;> cases action
    exact .inl rfl
  · cases action
    exact .inl rfl
  · cases action
    exact .inl rfl
  · contradiction

theorem step_writer {state after : State β} {act : Act β} {slot : Bool} (action : step state act = some after)
    (painting : state.writer = .painting slot) (unswapped : act ≠ .swap) : after.writer = .painting slot := by
  unfold step at action
  rw [painting] at action
  split at action
  · contradiction
  · contradiction
  · cases action
    exact painting
  · exact absurd rfl unswapped
  · contradiction
  · cases action
    rfl
  · split at action <;> cases action
    exact painting
  · cases action
    rfl
  · cases action
    exact painting
  · contradiction

/-! ## Whole runs -/

def Reached (empty : β) : State β → Prop :=
  Machine.Reachable step (fun first => first = State.new empty) Machine.free


theorem Reached.inv {empty : β} {state : State β} (reached : Reached empty state) : Inv state := by
  apply Machine.Reachable.invariant Inv ?_ ?_ reached
  · intro first same
    rw [same]
    exact inv_new empty
  · intro state label after inv _ action
    exact step_inv inv action

theorem Reached.frames {empty : β} {state : State β} (reached : Reached empty state) :
    ∃ finished, state.frames = empty :: finished := by
  apply Machine.Reachable.invariant (fun state : State β => ∃ finished, state.frames = empty :: finished)
    ?_ ?_ reached
  · intro first same
    exact ⟨[], by rw [same]; rfl⟩
  · intro state label after ⟨finished, frames⟩ _ action
    rcases step_frames action with same | ⟨slot, -, more⟩
    · exact ⟨finished, by rw [same, frames]⟩
    · exact ⟨finished ++ [(state.slots slot).content], by rw [more, frames, List.cons_append]⟩

end DoubleBuffer
