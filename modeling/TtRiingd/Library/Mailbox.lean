import Mathlib.Data.List.Nodup
import Mathlib.Logic.Function.Basic
import TtRiingd.Library.Machine

/-!
# A worker with a mailbox and reply channels

Clients put commands into a bounded queue. One worker takes them out, executes them on its device and
answers each on a channel of its own. It leaves its loop after a command that ends it, at a signal that it
may see whenever it is between two commands, or in a panic. What it never took is dropped with its queue,
and then the channels of those commands are closed.

All interleavings are the runs of `step`. The calls are numbered beforehand, so that any number of clients
may call in any order.
-/

namespace Mailbox

/-! ## The machine -/

/-- What a client calls for, and whether it waits for the reply or only for the answer that the command was
queued. -/
structure Call (κ : Type) where
  command : κ
  waits : Bool

/-- `exec` returns no result when the command panics. -/
structure Setting (κ σ ρ : Type) where
  calls : Nat → Call κ
  exec : κ → σ → Option ρ × σ
  ends : κ → Bool
  capacity : Nat

inductive Phase where
  | idle
  | busy (call : Nat)
  | leaving
  | gone
  deriving DecidableEq

inductive Channel (ρ : Type) where
  | live
  | sent (result : ρ)
  | dropped
  deriving DecidableEq

inductive Outcome (ρ : Type) where
  | missing
  | closed
  | answer (result : ρ)
  deriving DecidableEq

inductive Caller (ρ : Type) where
  | ready
  | sending
  | waiting
  | returned (outcome : Outcome ρ)
  | tried (accepted : Bool)
  deriving DecidableEq

/-- `accepted` and `executed` are the history: the calls in the order in which they were queued, and in the
order in which their commands were executed. -/
structure State (σ ρ : Type) where
  device : σ
  phase : Phase := .idle
  queue : List Nat := []
  channels : Nat → Channel ρ := fun _ => .live
  callers : Nat → Caller ρ := fun _ => .ready
  signalled : Bool := false
  registered : Bool := true
  accepted : List Nat := []
  executed : List (Nat × Option ρ) := []

inductive Act where
  | call (call : Nat)
  | accept (call : Nat)
  | refuse (call : Nat)
  | take
  | finish
  | signal
  | observe
  | drop
  | clear
  | receive (call : Nat)
  deriving DecidableEq

section Steps
variable {κ σ ρ : Type}

def State.setCaller (state : State σ ρ) (call : Nat) (caller : Caller ρ) : State σ ρ :=
  { state with callers := Function.update state.callers call caller }

def State.enqueue (state : State σ ρ) (call : Nat) : State σ ρ :=
  { state with queue := state.queue ++ [call], accepted := state.accepted ++ [call] }

/-- The receiver is dropped, and with it the reply channels of the commands it holds. -/
def State.release (state : State σ ρ) (held : List Nat) : State σ ρ :=
  { state with
    phase := .gone
    queue := []
    channels := fun call => if call ∈ held then .dropped else state.channels call }

variable (setting : Setting κ σ ρ) (state : State σ ρ)

def HasRoom : Prop := state.phase ≠ .gone ∧ state.queue.length < setting.capacity

instance : Decidable (HasRoom setting state) := inferInstanceAs (Decidable (_ ∧ _))

def begin (call : Nat) : State σ ρ :=
  if state.registered then
    if (setting.calls call).waits then state.setCaller call .sending
    else if HasRoom setting state then (state.enqueue call).setCaller call (.tried true)
    else state.setCaller call (.tried false)
  else if (setting.calls call).waits then state.setCaller call (.returned .missing)
  else state.setCaller call (.tried false)

def reply (call : Nat) (result : ρ) (device : σ) : State σ ρ :=
  { state with
    phase := if setting.ends (setting.calls call).command then .leaving else .idle
    device
    channels := Function.update state.channels call (.sent result)
    executed := state.executed ++ [(call, some result)] }

def panicked (call : Nat) (device : σ) : State σ ρ :=
  { state.release (call :: state.queue) with
    device
    executed := state.executed ++ [(call, none)] }

def answer (call : Nat) : State σ ρ :=
  match setting.exec (setting.calls call).command state.device with
  | (some result, device) => reply setting state call result device
  | (none, device) => panicked state call device

def step (act : Act) : Option (State σ ρ) :=
  match act with
  | .call call =>
      match state.callers call with
      | .ready => some (begin setting state call)
      | _ => none
  | .accept call =>
      match state.callers call with
      | .sending => if HasRoom setting state then some ((state.enqueue call).setCaller call .waiting) else none
      | _ => none
  | .refuse call =>
      match state.callers call, state.phase with
      | .sending, .gone => some (state.setCaller call (.returned .closed))
      | _, _ => none
  | .take =>
      match state.phase, state.queue with
      | .idle, call :: rest => some { state with phase := .busy call, queue := rest }
      | _, _ => none
  | .finish =>
      match state.phase with
      | .busy call => some (answer setting state call)
      | _ => none
  | .signal => some { state with signalled := true }
  | .observe =>
      match state.phase with
      | .idle => if state.signalled then some { state with phase := .leaving } else none
      | _ => none
  | .drop =>
      match state.phase with
      | .leaving => some (state.release state.queue)
      | _ => none
  | .clear =>
      match state.phase with
      | .gone => if state.signalled then some { state with registered := false } else none
      | _ => none
  | .receive call =>
      match state.callers call, state.channels call with
      | .waiting, .sent result => some (state.setCaller call (.returned (.answer result)))
      | .waiting, .dropped => some (state.setCaller call (.returned .closed))
      | _, _ => none

end Steps

/-! ## What a step can do -/

section Moves
variable {κ σ ρ : Type} {setting : Setting κ σ ρ} {state after : State σ ρ}

inductive Turns (setting : Setting κ σ ρ) (state : State σ ρ) (call : Nat) : Caller ρ → Prop where
  | sends (ready : state.callers call = .ready) : Turns setting state call .sending
  | misses (ready : state.callers call = .ready) : Turns setting state call (.returned .missing)
  | fails (ready : state.callers call = .ready) (polls : (setting.calls call).waits = false) :
      Turns setting state call (.tried false)
  | refused (sending : state.callers call = .sending) (gone : state.phase = .gone) :
      Turns setting state call (.returned .closed)
  | dropped (waiting : state.callers call = .waiting) (closed : state.channels call = .dropped) :
      Turns setting state call (.returned .closed)
  | answered {result : ρ} (waiting : state.callers call = .waiting)
      (sent : state.channels call = .sent result) : Turns setting state call (.returned (.answer result))

inductive Moves (setting : Setting κ σ ρ) (state : State σ ρ) : State σ ρ → Prop where
  | caller {call : Nat} {caller : Caller ρ} (turns : Turns setting state call caller) :
      Moves setting state (state.setCaller call caller)
  | enqueue {call : Nat} {caller : Caller ρ}
      (queued : state.callers call = .sending ∧ caller = .waiting ∨
        state.callers call = .ready ∧ (setting.calls call).waits = false ∧ caller = .tried true)
      (room : state.phase ≠ .gone) :
      Moves setting state ((state.enqueue call).setCaller call caller)
  | take {call : Nat} {rest : List Nat} (idle : state.phase = .idle) (queue : state.queue = call :: rest) :
      Moves setting state { state with phase := .busy call, queue := rest }
  | reply {call : Nat} {result : ρ} {device : σ} (busy : state.phase = .busy call)
      (done : setting.exec (setting.calls call).command state.device = (some result, device)) :
      Moves setting state (reply setting state call result device)
  | panicked {call : Nat} {device : σ} (busy : state.phase = .busy call)
      (done : setting.exec (setting.calls call).command state.device = (none, device)) :
      Moves setting state (panicked state call device)
  | observe (idle : state.phase = .idle) : Moves setting state { state with phase := .leaving }
  | drop (leaving : state.phase = .leaving) : Moves setting state (state.release state.queue)
  | flags (signalled registered : Bool) :
      Moves setting state { state with signalled := signalled, registered := registered }

theorem moves_of_begin {call : Nat} (ready : state.callers call = .ready) :
    Moves setting state (begin setting state call) := by
  unfold begin
  cases waits : (setting.calls call).waits with
  | true =>
      simp only [if_true]
      split
      · exact .caller (.sends ready)
      · exact .caller (.misses ready)
  | false =>
      simp only [Bool.false_eq_true, if_false]
      split
      · split
        · rename_i room
          exact .enqueue (.inr ⟨ready, waits, rfl⟩) room.1
        · exact .caller (.fails ready waits)
      · exact .caller (.fails ready waits)

theorem moves_of_answer {call : Nat} (busy : state.phase = .busy call) :
    Moves setting state (answer setting state call) := by
  unfold answer
  split
  · rename_i done
    exact .reply busy done
  · rename_i done
    exact .panicked busy done

theorem moves_of_step {act : Act} (action : step setting state act = some after) :
    Moves setting state after := by
  cases act with
  | call call =>
      simp only [step] at action
      split at action <;> cases action
      rename_i ready
      exact moves_of_begin ready
  | accept call =>
      simp only [step] at action
      split at action <;> try contradiction
      rename_i sending
      split at action <;> cases action
      rename_i room
      exact .enqueue (.inl ⟨sending, rfl⟩) room.1
  | refuse call =>
      simp only [step] at action
      split at action <;> cases action
      rename_i sending gone
      exact .caller (.refused sending gone)
  | take =>
      simp only [step] at action
      split at action <;> cases action
      rename_i idle queue
      exact .take idle queue
  | finish =>
      simp only [step] at action
      split at action <;> cases action
      rename_i busy
      exact moves_of_answer busy
  | signal =>
      cases action
      exact .flags true state.registered
  | observe =>
      simp only [step] at action
      split at action <;> try contradiction
      rename_i idle
      split at action <;> cases action
      exact .observe idle
  | drop =>
      simp only [step] at action
      split at action <;> cases action
      rename_i leaving
      exact .drop leaving
  | clear =>
      simp only [step] at action
      split at action <;> try contradiction
      split at action <;> cases action
      exact .flags state.signalled false
  | receive call =>
      simp only [step] at action
      split at action <;> cases action
      · rename_i waiting sent
        exact .caller (.answered waiting sent)
      · rename_i waiting closed
        exact .caller (.dropped waiting closed)

end Moves

/-! ## Each command once, in the order of the queue -/

section Order
variable {κ σ ρ : Type} {setting : Setting κ σ ρ} {state after : State σ ρ}

def State.inHand (state : State σ ρ) : List Nat :=
  match state.phase with
  | .busy call => [call]
  | .idle | .leaving | .gone => []

def State.started (state : State σ ρ) : List Nat := state.executed.map Prod.fst ++ state.inHand

structure Lined (state : State σ ρ) : Prop where
  queued : state.phase ≠ .gone → state.accepted = state.started ++ state.queue
  started : state.started <+: state.accepted
  distinct : state.accepted.Nodup
  unsent : ∀ call, state.callers call = .ready ∨ state.callers call = .sending → call ∉ state.accepted

theorem Turns.was_called {call : Nat} {caller : Caller ρ} (turns : Turns setting state call caller)
    (unsent : caller = .ready ∨ caller = .sending) : state.callers call = .ready := by
  cases turns with
  | sends ready => exact ready
  | _ => simp at unsent

theorem Lined.setCaller (lined : Lined state) {call : Nat} {caller : Caller ρ}
    (fresh : caller = .ready ∨ caller = .sending → call ∉ state.accepted) :
    Lined (state.setCaller call caller) := by
  refine ⟨lined.queued, lined.started, lined.distinct, fun other unsent => ?_⟩
  simp only [State.setCaller, Function.update_apply] at unsent
  split at unsent
  · rename_i same
    exact same ▸ fresh unsent
  · exact lined.unsent other unsent

theorem Lined.enqueue (lined : Lined state) {call : Nat} {caller : Caller ρ}
    (queued : state.callers call = .sending ∧ caller = .waiting ∨
      state.callers call = .ready ∧ (setting.calls call).waits = false ∧ caller = .tried true)
    (room : state.phase ≠ .gone) : Lined ((state.enqueue call).setCaller call caller) := by
  have new : call ∉ state.accepted := by
    apply lined.unsent
    rcases queued with ⟨sending, -⟩ | ⟨ready, -, -⟩
    · exact .inr sending
    · exact .inl ready
  constructor
  · intro _
    change state.accepted ++ [call] = state.started ++ (state.queue ++ [call])
    rw [lined.queued room, List.append_assoc]
  · exact lined.started.trans (List.prefix_append _ _)
  · refine List.nodup_append.mpr ⟨lined.distinct, List.nodup_singleton _, fun other member last only => ?_⟩
    rw [List.mem_singleton.mp only]
    exact fun same => new (same ▸ member)
  · intro other unsent'
    simp only [State.setCaller, State.enqueue, Function.update_apply] at unsent' ⊢
    split at unsent'
    · rcases queued with ⟨-, rfl⟩ | ⟨-, -, rfl⟩ <;> simp at unsent'
    · rename_i different
      rw [List.mem_append, List.mem_singleton, not_or]
      exact ⟨lined.unsent other unsent', different⟩

theorem Lined.take (lined : Lined state) {call : Nat} {rest : List Nat} (idle : state.phase = .idle)
    (queue : state.queue = call :: rest) : Lined { state with phase := .busy call, queue := rest } := by
  have queued := lined.queued (by simp [idle])
  have hand : state.inHand = [] := by simp [State.inHand, idle]
  have started : State.started { state with phase := .busy call, queue := rest } =
      state.executed.map Prod.fst ++ [call] := rfl
  have accepted : state.accepted = (state.executed.map Prod.fst ++ [call]) ++ rest := by
    rw [queued, State.started, hand, queue]
    simp
  exact ⟨fun _ => started ▸ accepted, by rw [started, accepted]; exact List.prefix_append _ _,
    lined.distinct, lined.unsent⟩

theorem Lined.reply (lined : Lined state) {call : Nat} (busy : state.phase = .busy call) (result : ρ)
    (device : σ) : Lined (Mailbox.reply setting state call result device) := by
  have hand : (Mailbox.reply setting state call result device).inHand = [] := by
    unfold State.inHand Mailbox.reply
    cases setting.ends (setting.calls call).command <;> rfl
  have same : (Mailbox.reply setting state call result device).started = state.started := by
    rw [State.started, hand, State.started, State.inHand, busy]
    simp [Mailbox.reply]
  exact ⟨fun _ => same ▸ lined.queued (by simp [busy]), same ▸ lined.started, lined.distinct, lined.unsent⟩

theorem Lined.panicked (lined : Lined state) {call : Nat} (busy : state.phase = .busy call) (device : σ) :
    Lined (Mailbox.panicked state call device) := by
  have same : (Mailbox.panicked state call device).started = state.started := by
    simp [State.started, State.inHand, Mailbox.panicked, State.release, busy]
  exact ⟨fun gone => absurd rfl gone, same ▸ lined.started, lined.distinct, lined.unsent⟩

theorem Lined.observe (lined : Lined state) (idle : state.phase = .idle) :
    Lined { state with phase := .leaving } := by
  have same : State.started { state with phase := .leaving } = state.started := by
    simp [State.started, State.inHand, idle]
  exact ⟨fun _ => same ▸ lined.queued (by simp [idle]), same ▸ lined.started, lined.distinct, lined.unsent⟩

theorem Lined.drop (lined : Lined state) (leaving : state.phase = .leaving) :
    Lined (state.release state.queue) := by
  have same : (state.release state.queue).started = state.started := by
    simp [State.started, State.inHand, State.release, leaving]
  exact ⟨fun gone => absurd rfl gone, same ▸ lined.started, lined.distinct, lined.unsent⟩

theorem Lined.moves (lined : Lined state) (moves : Moves setting state after) : Lined after := by
  cases moves with
  | caller turns => exact lined.setCaller fun unsent => lined.unsent _ (.inl (turns.was_called unsent))
  | enqueue queued room => exact lined.enqueue queued room
  | take idle queue => exact lined.take idle queue
  | reply busy done => exact lined.reply busy _ _
  | panicked busy done => exact lined.panicked busy _
  | observe idle => exact lined.observe idle
  | drop leaving => exact lined.drop leaving
  | flags signalled registered => exact ⟨lined.queued, lined.started, lined.distinct, lined.unsent⟩

end Order

/-! ## What the callers are told -/

section Replies
variable {κ σ ρ : Type} {setting : Setting κ σ ρ} {state after : State σ ρ}

/-- Out of the loop, with the receiver still there or not. -/
def State.Over (state : State σ ρ) : Prop := state.phase = .leaving ∨ state.phase = .gone

structure Replied (setting : Setting κ σ ρ) (state : State σ ρ) : Prop where
  waiting : ∀ call, state.callers call = .waiting → call ∈ state.accepted
  pending : ∀ call ∈ state.accepted, state.channels call = .live →
    state.phase ≠ .gone ∧ call ∈ state.inHand ++ state.queue
  sent : ∀ call result, state.channels call = .sent result → (call, some result) ∈ state.executed
  answered : ∀ call result, state.callers call = .returned (.answer result) →
    (call, some result) ∈ state.executed
  ended : ∀ call result, (call, some result) ∈ state.executed →
    setting.ends (setting.calls call).command = true → state.Over
  tried : ∀ call accepted, state.callers call = .tried accepted → (setting.calls call).waits = false

theorem Replied.turns (replied : Replied setting state) {call : Nat} {caller : Caller ρ}
    (turns : Turns setting state call caller) : Replied setting (state.setCaller call caller) := by
  refine ⟨fun other waiting => ?_, replied.pending, replied.sent, fun other result answered => ?_, replied.ended,
    fun other accepted tried => ?_⟩
  · simp only [State.setCaller, Function.update_apply] at waiting
    split at waiting
    · rw [waiting] at turns
      cases turns
    · exact replied.waiting other waiting
  · simp only [State.setCaller, Function.update_apply] at answered
    split at answered
    · rename_i same
      rw [answered] at turns
      cases turns with
      | answered waiting sent => exact same ▸ replied.sent call result sent
    · exact replied.answered other result answered
  · simp only [State.setCaller, Function.update_apply] at tried
    split at tried
    · rename_i same
      rw [tried] at turns
      cases turns with
      | fails ready polls => exact same ▸ polls
    · exact replied.tried other accepted tried

theorem Replied.enqueue (replied : Replied setting state) {call : Nat} {caller : Caller ρ}
    (queued : state.callers call = .sending ∧ caller = .waiting ∨
      state.callers call = .ready ∧ (setting.calls call).waits = false ∧ caller = .tried true)
    (room : state.phase ≠ .gone) : Replied setting ((state.enqueue call).setCaller call caller) := by
  refine ⟨fun other waiting => ?_, fun other accepted live => ?_, replied.sent, fun other result answered => ?_,
    replied.ended, fun other accepted tried => ?_⟩
  · change other ∈ state.accepted ++ [call]
    rw [List.mem_append, List.mem_singleton]
    simp only [State.setCaller, State.enqueue, Function.update_apply] at waiting
    split at waiting
    · rename_i same
      exact .inr same
    · exact .inl (replied.waiting other waiting)
  · change state.phase ≠ .gone ∧ other ∈ state.inHand ++ (state.queue ++ [call])
    rw [← List.append_assoc, List.mem_append]
    rcases List.mem_append.mp accepted with older | new
    · exact ⟨room, .inl (replied.pending other older live).2⟩
    · exact ⟨room, .inr new⟩
  · simp only [State.setCaller, State.enqueue, Function.update_apply] at answered
    split at answered
    · rcases queued with ⟨-, rfl⟩ | ⟨-, -, rfl⟩ <;> cases answered
    · exact replied.answered other result answered
  · simp only [State.setCaller, State.enqueue, Function.update_apply] at tried
    split at tried
    · rename_i same
      rcases queued with ⟨-, rfl⟩ | ⟨-, polls, -⟩
      · cases tried
      · exact same ▸ polls
    · exact replied.tried other accepted tried

theorem Replied.take (replied : Replied setting state) {call : Nat} {rest : List Nat}
    (idle : state.phase = .idle) (queue : state.queue = call :: rest) :
    Replied setting { state with phase := .busy call, queue := rest } := by
  refine ⟨replied.waiting, fun other accepted live => ?_, replied.sent, replied.answered,
    fun other result executed ends => ?_, replied.tried⟩
  · have held := (replied.pending other accepted live).2
    rw [queue] at held
    simp only [State.inHand, idle, List.nil_append] at held
    exact ⟨by simp, held⟩
  · have out := replied.ended other result executed ends
    simp [State.Over, idle] at out

theorem Replied.reply (replied : Replied setting state) {call : Nat} (busy : state.phase = .busy call)
    (result : ρ) (device : σ) : Replied setting (Mailbox.reply setting state call result device) := by
  refine ⟨replied.waiting, fun other accepted live => ?_, fun other value sent => ?_,
    fun other value answered => List.mem_append_left _ (replied.answered other value answered),
    fun other value executed ends => ?_, replied.tried⟩
  · simp only [Mailbox.reply, Function.update_apply] at live
    split at live
    · cases live
    · rename_i different
      have held := (replied.pending other accepted live).2
      simp only [State.inHand, busy, List.singleton_append, List.mem_cons, different, false_or] at held
      constructor
      · simp only [Mailbox.reply]
        split <;> simp
      · exact List.mem_append_right _ held
  · change (other, some value) ∈ state.executed ++ [(call, some result)]
    rw [List.mem_append]
    simp only [Mailbox.reply, Function.update_apply] at sent
    split at sent
    · rename_i same
      cases sent
      exact .inr (by simp [same])
    · exact .inl (replied.sent other value sent)
  · rcases List.mem_append.mp executed with older | new
    · have out := replied.ended other value older ends
      simp [State.Over, busy] at out
    · cases List.mem_singleton.mp new
      simp [State.Over, Mailbox.reply, ends]

theorem Replied.release (replied : Replied setting state) {held : List Nat}
    (all : ∀ call ∈ state.inHand ++ state.queue, call ∈ held) {executed : List (Nat × Option ρ)}
    (more : state.executed ⊆ executed) (device : σ) :
    Replied setting { state.release held with device, executed } := by
  refine ⟨replied.waiting, fun call accepted live => ?_, fun call result sent => ?_,
    fun call result answered => more (replied.answered call result answered), fun _ _ _ _ => .inr rfl,
    replied.tried⟩
  · simp only [State.release] at live
    split at live
    · cases live
    · rename_i kept
      exact absurd (all call (replied.pending call accepted live).2) kept
  · simp only [State.release] at sent
    split at sent
    · cases sent
    · exact more (replied.sent call result sent)

theorem Replied.moves (replied : Replied setting state) (moves : Moves setting state after) :
    Replied setting after := by
  cases moves with
  | caller turns => exact replied.turns turns
  | enqueue queued room => exact replied.enqueue queued room
  | take idle queue => exact replied.take idle queue
  | reply busy done => exact replied.reply busy _ _
  | panicked busy done =>
      refine replied.release ?_ (List.subset_append_left _ _) _
      simp only [State.inHand, busy, List.singleton_append]
      exact fun call held => held
  | observe idle =>
      refine ⟨replied.waiting, fun call accepted live => ?_, replied.sent, replied.answered,
        fun _ _ _ _ => .inl rfl, replied.tried⟩
      have held := (replied.pending call accepted live).2
      simp only [State.inHand, idle] at held
      exact ⟨by simp, held⟩
  | drop leaving =>
      refine replied.release ?_ (List.Subset.refl _) state.device
      simp only [State.inHand, leaving, List.nil_append]
      exact fun call held => held
  | flags signalled registered =>
      exact ⟨replied.waiting, replied.pending, replied.sent, replied.answered, replied.ended,
        replied.tried⟩

end Replies

/-! ## Whole runs -/

section Runs
variable {κ σ ρ : Type} {setting : Setting κ σ ρ} {first : σ} {state after : State σ ρ}

/-- The commands one after the other on the device, with what each of them returned. -/
def replay (setting : Setting κ σ ρ) : List Nat → σ → List (Nat × Option ρ) × σ
  | [], device => ([], device)
  | call :: rest, device =>
      let done := setting.exec (setting.calls call).command device
      let others := replay setting rest done.2
      ((call, done.1) :: others.1, others.2)

theorem replay_concat (calls : List Nat) (call : Nat) (device : σ) :
    replay setting (calls ++ [call]) device =
      (let before := replay setting calls device
      let done := setting.exec (setting.calls call).command before.2
      (before.1 ++ [(call, done.1)], done.2)) := by
  induction calls generalizing device with
  | nil => rfl
  | cons earlier rest ih => simp only [List.cons_append, replay, ih]

def Replayed (setting : Setting κ σ ρ) (first : σ) (state : State σ ρ) : Prop :=
  replay setting (state.executed.map Prod.fst) first = (state.executed, state.device)

theorem Replayed.executed (replayed : Replayed setting first state) {call : Nat} {result : Option ρ} {device : σ}
    (done : setting.exec (setting.calls call).command state.device = (result, device)) :
    replay setting ((state.executed ++ [(call, result)]).map Prod.fst) first =
      (state.executed ++ [(call, result)], device) := by
  have before : replay setting (state.executed.map Prod.fst) first = (state.executed, state.device) := replayed
  rw [List.map_append, List.map_singleton, replay_concat, before]
  simp only [done]

theorem Replayed.moves (replayed : Replayed setting first state) (moves : Moves setting state after) :
    Replayed setting first after := by
  cases moves with
  | reply busy done => exact replayed.executed done
  | panicked busy done => exact replayed.executed done
  | _ => exact replayed

structure Inv (setting : Setting κ σ ρ) (first : σ) (state : State σ ρ) : Prop where
  lined : Lined state
  replied : Replied setting state
  replayed : Replayed setting first state

theorem inv_fresh (setting : Setting κ σ ρ) (first : σ) : Inv setting first { device := first } := by
  constructor
  · exact ⟨fun _ => rfl, List.prefix_refl _, List.nodup_nil, fun _ _ => List.not_mem_nil⟩
  · exact ⟨by simp, by simp, by simp, by simp, by simp, by simp⟩
  · rfl

theorem Inv.step (inv : Inv setting first state) {act : Act} (action : step setting state act = some after) :
    Inv setting first after := by
  have moves := moves_of_step action
  exact ⟨inv.lined.moves moves, inv.replied.moves moves, inv.replayed.moves moves⟩

def Reached (setting : Setting κ σ ρ) (first : σ) : State σ ρ → Prop :=
  Machine.Reachable (step setting) (fun start => start = { device := first }) Machine.free

theorem Reached.inv (reached : Reached setting first state) : Inv setting first state := by
  refine reached.invariant (Inv setting first) ?_ ?_
  · rintro start rfl
    exact inv_fresh setting first
  · exact fun before act after inv _ action => inv.step action

theorem Moves.tried (moves : Moves setting state after) {call : Nat} {accepted : Bool}
    (tried : state.callers call = .tried accepted) : after.callers call = .tried accepted := by
  cases moves with
  | @caller other new turns =>
      have apart : call ≠ other := by
        rintro rfl
        cases turns <;> simp_all
      exact (Function.update_of_ne apart _ _).trans tried
  | @enqueue other new queued room =>
      have apart : call ≠ other := by
        rintro rfl
        rcases queued with ⟨sending, -⟩ | ⟨ready, -⟩ <;> simp_all
      exact (Function.update_of_ne apart _ _).trans tried
  | _ => exact tried

theorem tried_run {call : Nat} {accepted : Bool} (tried : state.callers call = .tried accepted) {acts : List Act}
    (result : Machine.run (step setting) state acts = some after) : after.callers call = .tried accepted :=
  Machine.run_invariant (fun _ _ _ tried action => (moves_of_step action).tried tried) tried result

/-! ## After the end -/

theorem signal_idle (signalled : state.signalled = true) : step setting state .signal = some state := by
  simp only [step, Option.some.injEq]
  rw [← signalled]

theorem Moves.out (moves : Moves setting state after) (out : state.Over) :
    after.Over ∧ after.executed = state.executed ∧ after.device = state.device := by
  cases moves with
  | take idle queue => simp [State.Over, idle] at out
  | reply busy done => simp [State.Over, busy] at out
  | panicked busy done => simp [State.Over, busy] at out
  | observe idle => exact ⟨.inl rfl, rfl, rfl⟩
  | drop leaving => exact ⟨.inr rfl, rfl, rfl⟩
  | _ => exact ⟨out, rfl, rfl⟩

theorem State.Over.run (out : state.Over) {acts : List Act}
    (result : Machine.run (step setting) state acts = some after) :
    after.Over ∧ after.executed = state.executed ∧ after.device = state.device := by
  refine @Machine.run_invariant _ _ _
    (fun later => later.Over ∧ later.executed = state.executed ∧ later.device = state.device) ?_ state after acts
    ⟨out, rfl, rfl⟩ result
  rintro before act later ⟨out, executed, device⟩ action
  obtain ⟨out', executed', device'⟩ := (moves_of_step action).out out
  exact ⟨out', executed'.trans executed, device'.trans device⟩

/-- The caller is still there, and its command has not been executed. -/
structure Unserved (state : State σ ρ) (call : Nat) : Prop where
  there : state.callers call = .sending ∨ state.callers call = .waiting
  unexecuted : ∀ result, (call, result) ∉ state.executed

theorem Unserved.moves {call : Nat} (unserved : Unserved state call) (replied : Replied setting state)
    (out : state.Over) (moves : Moves setting state after) :
    Unserved after call ∧ (state.phase = .gone → after.callers call = state.callers call) ∨
      after.callers call = .returned .closed := by
  have there := unserved.there
  have unexecuted : ∀ result, (call, result) ∉ after.executed := by
    rw [(moves.out out).2.1]
    exact unserved.unexecuted
  have of_same (same : after.callers call = state.callers call) :
      Unserved after call ∧ (state.phase = .gone → after.callers call = state.callers call) :=
    ⟨⟨same ▸ there, unexecuted⟩, fun _ => same⟩
  cases moves with
  | @caller other new turns =>
      by_cases same : other = call
      · subst same
        have told : (state.setCaller other new).callers other = new := Function.update_self _ _ _
        rw [told]
        cases turns with
        | refused sending gone => exact .inr rfl
        | dropped waiting closed => exact .inr rfl
        | answered waiting sent => exact absurd (replied.sent _ _ sent) (unserved.unexecuted _)
        | sends ready => simp [ready] at there
        | misses ready => simp [ready] at there
        | fails ready polls => simp [ready] at there
      · exact .inl (of_same (Function.update_of_ne (Ne.symm same) _ _))
  | @enqueue other new queued room =>
      by_cases same : other = call
      · subst same
        have told : ((state.enqueue other).setCaller other new).callers other = new := Function.update_self _ _ _
        rcases queued with ⟨-, rfl⟩ | ⟨ready, -, -⟩
        · exact .inl ⟨⟨.inr told, unexecuted⟩, fun gone => absurd gone room⟩
        · simp [ready] at there
      · exact .inl (of_same (Function.update_of_ne (Ne.symm same) _ _))
  | _ => exact .inl (of_same rfl)

theorem Moves.gone (moves : Moves setting state after) (gone : state.phase = .gone) : after.phase = .gone := by
  cases moves with
  | take idle queue => simp [gone] at idle
  | reply busy done => simp [gone] at busy
  | panicked busy done => rfl
  | observe idle => simp [gone] at idle
  | drop leaving => rfl
  | _ => exact gone

theorem Replied.closed_of_gone (replied : Replied setting state) {call : Nat} (gone : state.phase = .gone)
    (waiting : state.callers call = .waiting) (unserved : Unserved state call) :
    state.channels call = .dropped := by
  cases channel : state.channels call with
  | live => exact absurd gone (replied.pending call (replied.waiting call waiting) channel).1
  | sent result => exact absurd (replied.sent call result channel) (unserved.unexecuted _)
  | dropped => rfl

/-- The worker gets on with leaving, and the caller with its own call. -/
structure Fair (setting : Setting κ σ ρ) (states : Nat → State σ ρ) (acts : Nat → Act) (call : Nat) : Prop where
  drop : Machine.WeaklyFair (step setting) states acts .drop
  refuse : Machine.WeaklyFair (step setting) states acts (.refuse call)
  receive : Machine.WeaklyFair (step setting) states acts (.receive call)

section Fair
variable {states : Nat → State σ ρ} {acts : Nat → Act} {call : Nat}

theorem over_stays (runs : Machine.Runs (step setting) states acts) {ended time : Nat}
    (out : (states ended).Over) (late : ended ≤ time) : (states time).Over := by
  induction late with
  | refl => exact out
  | step late ih => exact ((moves_of_step (runs _)).out ih).1

theorem leaving_leads_to (runs : Machine.Runs (step setting) states acts) (fair : Fair setting states acts call)
    {start : Nat} (inv : Inv setting first (states start)) (leaving : (states start).phase = .leaving)
    (unserved : Unserved (states start) call) :
    ∃ time, start ≤ time ∧ ((states time).callers call = .returned .closed ∨
      Inv setting first (states time) ∧ (states time).phase = .gone ∧ Unserved (states time) call) := by
  refine @Machine.Runs.leads_to _ _ _ _ _
    (fun state => Inv setting first state ∧ state.phase = .leaving ∧ Unserved state call)
    (fun state => state.callers call = .returned .closed ∨
      Inv setting first state ∧ state.phase = .gone ∧ Unserved state call)
    .drop runs fair.drop ?_ ?_ ?_ start ⟨inv, leaving, unserved⟩
  · rintro state ⟨-, leaving, -⟩
    simp [step, leaving]
  · rintro state after ⟨inv, leaving, unserved⟩ action
    have moves := moves_of_step action
    rcases unserved.moves inv.replied (.inl leaving) moves with ⟨still, -⟩ | closed
    · simp only [step, leaving, Option.some.injEq] at action
      exact .inr ⟨⟨inv.lined.moves moves, inv.replied.moves moves, inv.replayed.moves moves⟩,
        action ▸ rfl, still⟩
    · exact .inl closed
  · rintro state act after ⟨inv, leaving, unserved⟩ action
    have moves := moves_of_step action
    have later := inv.step action
    rcases unserved.moves inv.replied (.inl leaving) moves with ⟨still, -⟩ | closed
    · rcases (moves.out (.inl leaving)).1 with leaving' | gone
      · exact .inl ⟨later, leaving', still⟩
      · exact .inr (.inr ⟨later, gone, still⟩)
    · exact .inr (.inl closed)

theorem gone_leads_to (runs : Machine.Runs (step setting) states acts) (fair : Fair setting states acts call)
    {start : Nat} (inv : Inv setting first (states start)) (gone : (states start).phase = .gone)
    (unserved : Unserved (states start) call) :
    ∃ time, start ≤ time ∧ (states time).callers call = .returned .closed := by
  -- Whether the command was queued or not no longer changes, and decides which step closes the call.
  have stays : ∀ caller state act after,
      (Inv setting first state ∧ state.phase = .gone ∧ Unserved state call ∧ state.callers call = caller) →
      step setting state act = some after →
      (Inv setting first after ∧ after.phase = .gone ∧ Unserved after call ∧ after.callers call = caller) ∨
        after.callers call = .returned .closed := by
    rintro caller state act after ⟨inv, gone, unserved, same⟩ action
    have moves := moves_of_step action
    rcases unserved.moves inv.replied (.inr gone) moves with ⟨still, kept⟩ | closed
    · exact .inl ⟨inv.step action, moves.gone gone, still, (kept gone).trans same⟩
    · exact .inr closed
  rcases unserved.there with sending | waiting
  · refine @Machine.Runs.leads_to _ _ _ _ _ _ _ (.refuse call) runs fair.refuse ?_ ?_ (stays .sending) start
      ⟨inv, gone, unserved, sending⟩
    · rintro state ⟨-, gone, -, sending⟩
      simp [step, gone, sending]
    · rintro state after ⟨-, gone, -, sending⟩ action
      simp only [step, gone, sending, Option.some.injEq] at action
      rw [← action]
      exact Function.update_self _ _ _
  · refine @Machine.Runs.leads_to _ _ _ _ _ _ _ (.receive call) runs fair.receive ?_ ?_ (stays .waiting) start
      ⟨inv, gone, unserved, waiting⟩
    · rintro state ⟨inv, gone, unserved, waiting⟩
      simp [step, waiting, inv.replied.closed_of_gone gone waiting unserved]
    · rintro state after ⟨inv, gone, unserved, waiting⟩ action
      simp only [step, waiting, inv.replied.closed_of_gone gone waiting unserved, Option.some.injEq] at action
      rw [← action]
      exact Function.update_self _ _ _

theorem over_leads_to (runs : Machine.Runs (step setting) states acts) (fair : Fair setting states acts call)
    {start : Nat} (inv : Inv setting first (states start)) (out : (states start).Over)
    (unserved : Unserved (states start) call) :
    ∃ time, start ≤ time ∧ (states time).callers call = .returned .closed := by
  rcases out with leaving | gone
  · obtain ⟨time, late, closed | ⟨inv, gone, unserved⟩⟩ := leaving_leads_to runs fair inv leaving unserved
    · exact ⟨time, late, closed⟩
    · obtain ⟨last, later, closed⟩ := gone_leads_to runs fair inv gone unserved
      exact ⟨last, Nat.le_trans late later, closed⟩
  · exact gone_leads_to runs fair inv gone unserved

end Fair

end Runs

end Mailbox
