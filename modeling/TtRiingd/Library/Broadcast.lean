/-!
# A broadcast channel with a bounded memory

Every message goes to every receiver, and the channel retains the last `capacity` messages. A receiver
that has fallen further behind is told how many it missed, and goes on with the oldest message that is
left. `Reads` accounts for what one receiver got since it subscribed.
-/

namespace Broadcast

structure Channel (α : Type) where
  capacity : Nat
  sent : List α := []

inductive Received (α : Type) where
  | message (value : α)
  | lagged (missed : Nat)

variable {α : Type}

def Received.message? : Received α → Option α
  | .message value => some value
  | .lagged _ => none

def messages (history : List (Received α)) : List α := history.filterMap Received.message?

namespace Channel

def send (channel : Channel α) (values : List α) : Channel α :=
  { channel with sent := channel.sent ++ values }

def oldest (channel : Channel α) : Nat := channel.sent.length - channel.capacity

/-- What the receiver gets whose next message is the one at `position`, if there is one. -/
def recv (channel : Channel α) (position : Nat) : Option (Received α × Nat) :=
  if position < channel.oldest then some (.lagged (channel.oldest - position), channel.oldest)
  else channel.sent[position]?.map fun value => (.message value, position + 1)

def unread (channel : Channel α) (position : Nat) : List α := channel.sent.drop position

theorem unread_send (channel : Channel α) (values : List α) {position : Nat}
    (behind : position ≤ channel.sent.length) :
    (channel.send values).unread position = channel.unread position ++ values :=
  List.drop_append_of_le_length behind

end Channel

/-- The messages an answer stands for: the one it hands over, or those it skips. -/
inductive Received.Covers : Received α → List α → Prop
  | message (value : α) : Covers (.message value) [value]
  | lagged (missed : List α) : Covers (.lagged missed.length) missed

inductive Accounts : List (Received α) → List α → Prop
  | nil : Accounts [] []
  | snoc {history values received part} (earlier : Accounts history values) (covers : received.Covers part) :
      Accounts (history ++ [received]) (values ++ part)

theorem messages_snoc (history : List (Received α)) (received : Received α) :
    messages (history ++ [received]) = messages history ++ received.message?.toList := by
  rw [messages, List.filterMap_append]
  cases received <;> rfl

theorem Received.Covers.sublist {received : Received α} {part : List α} (covers : received.Covers part) :
    received.message?.toList.Sublist part := by
  cases covers with
  | message value => exact List.Sublist.refl _
  | lagged missed => exact List.nil_sublist _

theorem Accounts.sublist {history : List (Received α)} {values : List α} (accounts : Accounts history values) :
    (messages history).Sublist values := by
  induction accounts with
  | nil => exact List.Sublist.refl _
  | snoc earlier covers ih =>
      rw [messages_snoc]
      exact ih.append covers.sublist

theorem recv_covers {channel : Channel α} {position next : Nat} {received : Received α}
    (result : channel.recv position = some (received, next)) :
    next ≤ channel.sent.length ∧
      ∃ part, received.Covers part ∧ channel.unread position = part ++ channel.unread next := by
  unfold Channel.recv at result
  split at result
  · rename_i late
    simp only [Option.some.injEq, Prod.mk.injEq] at result
    obtain ⟨rfl, rfl⟩ := result
    have bound : channel.oldest ≤ channel.sent.length := Nat.sub_le _ _
    have length : (channel.unread position).length = channel.sent.length - position := List.length_drop
    refine ⟨bound, (channel.unread position).take (channel.oldest - position), ?_, ?_⟩
    · have counted : ((channel.unread position).take (channel.oldest - position)).length =
          channel.oldest - position := by
        rw [List.length_take, length]
        omega
      have covers := Received.Covers.lagged ((channel.unread position).take (channel.oldest - position))
      rwa [counted] at covers
    · have rest : (channel.unread position).drop (channel.oldest - position) = channel.unread channel.oldest := by
        rw [Channel.unread, List.drop_drop, Nat.add_sub_cancel' (Nat.le_of_lt late)]
        rfl
      rw [← rest, List.take_append_drop]
  · simp only [Option.map_eq_some_iff, Prod.mk.injEq] at result
    obtain ⟨value, listed, rfl, rfl⟩ := result
    obtain ⟨inside, here⟩ := List.getElem?_eq_some_iff.mp listed
    refine ⟨inside, [value], .message value, ?_⟩
    rw [Channel.unread, List.drop_eq_getElem_cons inside, here]
    rfl

theorem recv_of_keepsUp {channel : Channel α} {position next : Nat} {received : Received α}
    (keepsUp : (channel.unread position).length ≤ channel.capacity)
    (result : channel.recv position = some (received, next)) : ∃ value, received = .message value := by
  unfold Channel.recv at result
  rw [Channel.unread, List.length_drop] at keepsUp
  have recent : ¬ position < channel.oldest := by
    unfold Channel.oldest
    omega
  rw [if_neg recent, Option.map_eq_some_iff] at result
  obtain ⟨value, -, same⟩ := result
  cases same
  exact ⟨value, rfl⟩

/-- What a receiver got since it subscribed, when `first` messages had been sent. -/
structure Reads (channel : Channel α) (first position : Nat) (history : List (Received α)) : Prop where
  since : first ≤ channel.sent.length
  bound : position ≤ channel.sent.length
  accounts : ∃ values, Accounts history values ∧ channel.unread first = values ++ channel.unread position

theorem Reads.subscribe (channel : Channel α) : Reads channel channel.sent.length channel.sent.length [] :=
  ⟨Nat.le_refl _, Nat.le_refl _, [], .nil, rfl⟩

theorem Reads.send {channel : Channel α} {first position : Nat} {history : List (Received α)}
    (reads : Reads channel first position history) (values : List α) :
    Reads (channel.send values) first position history := by
  obtain ⟨read, accounts, split⟩ := reads.accounts
  have longer : channel.sent.length ≤ (channel.send values).sent.length := by
    rw [Channel.send, List.length_append]
    exact Nat.le_add_right _ _
  refine ⟨Nat.le_trans reads.since longer, Nat.le_trans reads.bound longer, read, accounts, ?_⟩
  rw [Channel.unread_send channel values reads.since, Channel.unread_send channel values reads.bound, split,
    List.append_assoc]

theorem Reads.recv {channel : Channel α} {first position next : Nat} {history : List (Received α)}
    {received : Received α} (reads : Reads channel first position history)
    (result : channel.recv position = some (received, next)) :
    Reads channel first next (history ++ [received]) := by
  obtain ⟨read, accounts, split⟩ := reads.accounts
  obtain ⟨bound, part, covers, rest⟩ := recv_covers result
  exact ⟨reads.since, bound, read ++ part, .snoc accounts covers, by rw [split, rest, List.append_assoc]⟩

end Broadcast
