import TtRiingd.Drivers.Controller

/-!
# Requests and answers on one controller

A read that times out leaves its answer behind, and no call reads more answers than it sends frames.
So one late answer shifts every later one: a call reads the answer to its own frame exactly when no
call before it left an answer unread.
-/

namespace TtRiingd.Drivers
open ProtocolConsts

inductive Call where
  | init
  | setSpeed (port speed : UInt8)
  | getData (port : UInt8)
  | setRgb (port mode : UInt8) (colors : List Rgb)
  | getFirmwareVersion

inductive Value where
  | done
  | data (speed : UInt8) (rpm : UInt16)
  | firmware (version : UInt8 × UInt8 × UInt8)
  deriving DecidableEq

def Call.command : Call → Command
  | .init => .init
  | .setSpeed port speed => .setSpeed port speed
  | .getData port => .getData port
  | .setRgb port mode colors => .setRgb port mode colors
  | .getFirmwareVersion => .getFirmwareVersion

def perform (call : Call) : EStateM Error HidDevice Value :=
  match call with
  | .init => do init; pure .done
  | .setSpeed port speed => do setSpeed port speed; pure .done
  | .getData port => do let data ← getData port; pure (.data data.1 data.2)
  | .setRgb port mode colors => do setRgb port mode colors; pure .done
  | .getFirmwareVersion => do let version ← getFirmwareVersion; pure (.firmware version)

def afterCalls : List Call → HidDevice → HidDevice
  | [], dev => dev
  | call :: rest, dev => afterCalls rest (perform call dev).state

/-! ## One exchange -/

def padded (answer : List UInt8) : List UInt8 :=
  answer.take RESPONSE_LEN ++ List.replicate (RESPONSE_LEN - (answer.take RESPONSE_LEN).length) 0

def Answered (dev : HidDevice) (cmd : Command) : Prop :=
  Sends dev cmd → dev.wire.arrival dev.reads = .ready

def HidDevice.exchanged (dev : HidDevice) (cmd : Command) (read : Nat) : HidDevice :=
  { dev with
    writes := dev.writes + 1, reads := dev.reads + 1
    received := dev.received ++ [cmd.toBytes], taken := dev.taken + read }

def unread (dev : HidDevice) : Nat := dev.received.length - dev.taken

theorem read_cases (dev : HidDevice) (pending : dev.taken < dev.received.length) :
    (dev.wire.arrival dev.reads ≠ .ready ∧ ∃ e,
      HidDevice.read (List.replicate RESPONSE_LEN 0) READ_TIMEOUT dev =
        .error e { dev with reads := dev.reads + 1 }) ∨
    (dev.wire.arrival dev.reads = .ready ∧
      ((∃ e, HidDevice.read (List.replicate RESPONSE_LEN 0) READ_TIMEOUT dev =
        .error e { dev with reads := dev.reads + 1, taken := dev.taken + 1 }) ∨
      HidDevice.read (List.replicate RESPONSE_LEN 0) READ_TIMEOUT dev =
        .ok (padded (dev.wire.answer dev.taken dev.received[dev.taken]))
          { dev with reads := dev.reads + 1, taken := dev.taken + 1 })) := by
  have oldest : dev.received[dev.taken]? = some dev.received[dev.taken] := List.getElem?_eq_getElem pending
  unfold HidDevice.read HidDevice.readTimeout
  cases arrival : dev.wire.arrival dev.reads with
  | ready =>
      refine .inr ⟨rfl, ?_⟩
      simp only [oldest, List.length_replicate]
      by_cases some_bytes :
          ((dev.wire.answer dev.taken dev.received[dev.taken]).take RESPONSE_LEN).length > 0
      · exact .inr (by simp only [some_bytes, if_true, padded, List.drop_replicate])
      · exact .inl ⟨anyhow "hidapi error: IncompleteRead", by simp only [some_bytes, if_false]⟩
  | timeout => exact .inl ⟨by simp, _, rfl⟩
  | failed message => exact .inl ⟨by simp, _, rfl⟩

theorem request_unsent {dev : HidDevice} {cmd : Command} (unsent : ¬ Sends dev cmd) :
    ∃ e writes, request cmd dev = .error e { dev with writes := writes } := by
  unfold request
  cases encoded : cmd.encode PacketBuffer.new with
  | error e pkt => exact ⟨_, dev.writes, rfl⟩
  | ok value pkt =>
      have encodes : cmd.encodes = true := encodes_iff.mpr ⟨pkt, encoded, encode_ok encoded⟩
      cases refused : dev.wire.writeError dev.writes with
      | none => exact absurd ⟨encodes, refused⟩ unsent
      | some message =>
          refine ⟨anyhow message, dev.writes + 1, ?_⟩
          simp only [DeviceIo.write, HidDevice.write, refused]

/-- A frame that reaches the device is followed by one read, which takes the oldest answer or none. -/
theorem request_sent {dev : HidDevice} {cmd : Command} (sends : Sends dev cmd)
    (behind : dev.taken ≤ dev.received.length) :
    (dev.wire.arrival dev.reads ≠ .ready ∧ ∃ e, request cmd dev = .error e (dev.exchanged cmd 0)) ∨
    (dev.wire.arrival dev.reads = .ready ∧
      ((∃ e, request cmd dev = .error e (dev.exchanged cmd 1)) ∨
        ∃ frame response, (dev.received ++ [cmd.toBytes])[dev.taken]? = some frame ∧
          Response.parse cmd (padded (dev.wire.answer dev.taken frame)) = .ok response ∧
          request cmd dev = .ok response (dev.exchanged cmd 1))) := by
  obtain ⟨pkt, encoded, bytes⟩ := encodes_iff.mp sends.1
  let sent : HidDevice :=
    { dev with writes := dev.writes + 1, received := dev.received ++ [cmd.toBytes] }
  have wrote : DeviceIo.write pkt.bytes dev = .ok pkt.bytes.length sent := by
    simp only [DeviceIo.write, HidDevice.write, sends.2, bytes, sent]
  have pending : sent.taken < sent.received.length := by
    simp only [sent, List.length_append, List.length_singleton]
    omega
  unfold request
  simp only [encoded, wrote]
  rcases read_cases sent pending with ⟨late, e, read⟩ | ⟨ready, ⟨e, read⟩ | read⟩
  · refine .inl ⟨late, anyhow e.display, ?_⟩
    simp only [DeviceIo.read, read]
    rfl
  · refine .inr ⟨ready, .inl ⟨anyhow e.display, ?_⟩⟩
    simp only [DeviceIo.read, read]
    rfl
  · refine .inr ⟨ready, ?_⟩
    simp only [DeviceIo.read, read]
    cases parsed : Response.parse cmd (padded (sent.wire.answer sent.taken sent.received[sent.taken])) with
    | error e => exact .inl ⟨e, rfl⟩
    | ok response =>
        exact .inr ⟨_, response, List.getElem?_eq_getElem pending, parsed, rfl⟩

/-! ## One call -/

def Call.value : Call → Response → Option Value
  | .getData _, .data speed rpm => some (.data speed rpm)
  | .getFirmwareVersion, .firmwareVersion major minor patch => some (.firmware (major, minor, patch))
  | .init, .status 0xFC | .setSpeed _ _, .status 0xFC | .setRgb _ _ _, .status 0xFC => some .done
  | _, _ => none

theorem perform_state (call : Call) (dev : HidDevice) :
    (perform call dev).state = (request call.command dev).state := by
  have mapped {α : Type} (x : EStateM Error HidDevice α) (f : α → Value) :=
    EStateM.bind_pure_state x f dev
  cases call with
  | init => exact (mapped _ _).trans (requestStatus_state _ _ _ dev)
  | setSpeed port speed => exact (mapped _ _).trans (requestStatus_state _ _ _ dev)
  | setRgb port mode colors => exact (mapped _ _).trans (requestStatus_state _ _ _ dev)
  | getData port => exact (mapped _ _).trans (getData_state port dev)
  | getFirmwareVersion => exact (mapped _ _).trans (getFirmwareVersion_state dev)

theorem perform_ok {call : Call} {dev after : HidDevice} {value : Value}
    (result : perform call dev = .ok value after) :
    ∃ response, request call.command dev = .ok response after ∧ call.value response = some value := by
  cases call with
  | init | setSpeed port speed | setRgb port mode colors =>
      obtain ⟨⟨⟩, middle, requested, done⟩ := EStateM.bind_eq_ok.mp result
      cases done
      exact ⟨_, requestStatus_ok requested, rfl⟩
  | getData port =>
      obtain ⟨data, middle, requested, done⟩ := EStateM.bind_eq_ok.mp result
      cases done
      unfold getData at requested
      split at requested <;> cases requested
      exact ⟨_, ‹_›, rfl⟩
  | getFirmwareVersion =>
      obtain ⟨version, middle, requested, done⟩ := EStateM.bind_eq_ok.mp result
      cases done
      unfold getFirmwareVersion at requested
      split at requested <;> cases requested
      exact ⟨_, ‹_›, rfl⟩

theorem perform_unread (call : Call) {dev : HidDevice} (behind : dev.taken ≤ dev.received.length) :
    (perform call dev).state.wire = dev.wire ∧
    (perform call dev).state.taken ≤ (perform call dev).state.received.length ∧
      (Answered dev call.command → unread (perform call dev).state = unread dev) ∧
      (¬ Answered dev call.command → unread (perform call dev).state = unread dev + 1) := by
  rw [perform_state]
  by_cases sends : Sends dev call.command
  · rcases request_sent sends behind with ⟨late, e, request⟩ | ⟨ready, ⟨e, request⟩ | ⟨_, _, _, _, request⟩⟩
    all_goals
      simp only [request, EStateM.Result.state, HidDevice.exchanged, unread, Answered,
        List.length_append, List.length_singleton]
    · exact ⟨trivial, by omega, fun answered => absurd (answered sends) late, fun _ => by omega⟩
    · exact ⟨trivial, by omega, fun _ => by omega, fun unanswered => absurd (fun _ => ready) unanswered⟩
    · exact ⟨trivial, by omega, fun _ => by omega, fun unanswered => absurd (fun _ => ready) unanswered⟩
  · obtain ⟨e, writes, request⟩ := request_unsent sends
    simp only [request, EStateM.Result.state, unread]
    have answered : Answered dev call.command := fun sends' => absurd sends' sends
    exact ⟨trivial, behind, fun _ => trivial, fun unanswered => absurd answered unanswered⟩

/-! ## Sequences of calls -/

def AllAnswered : List Call → HidDevice → Prop
  | [], _ => True
  | call :: rest, dev => Answered dev call.command ∧ AllAnswered rest (perform call dev).state

theorem afterCalls_behind (calls : List Call) {dev : HidDevice}
    (behind : dev.taken ≤ dev.received.length) :
    (afterCalls calls dev).taken ≤ (afterCalls calls dev).received.length := by
  induction calls generalizing dev with
  | nil => exact behind
  | cons call rest ih => exact ih (perform_unread call behind).2.1

theorem unread_le_afterCalls (calls : List Call) {dev : HidDevice}
    (behind : dev.taken ≤ dev.received.length) : unread dev ≤ unread (afterCalls calls dev) := by
  induction calls generalizing dev with
  | nil => exact Nat.le_refl _
  | cons call rest ih =>
      obtain ⟨-, behind', same, more⟩ := perform_unread call behind
      have later := ih behind'
      simp only [afterCalls]
      by_cases answered : Answered dev call.command
      · rw [same answered] at later
        exact later
      · rw [more answered] at later
        omega

theorem unread_afterCalls_iff (calls : List Call) {dev : HidDevice}
    (behind : dev.taken ≤ dev.received.length) :
    unread (afterCalls calls dev) = unread dev ↔ AllAnswered calls dev := by
  induction calls generalizing dev with
  | nil => simp [afterCalls, AllAnswered]
  | cons call rest ih =>
      obtain ⟨-, behind', same, more⟩ := perform_unread call behind
      simp only [afterCalls, AllAnswered]
      by_cases answered : Answered dev call.command
      · rw [← same answered, ih behind', and_iff_right answered]
      · have later := unread_le_afterCalls rest behind'
        rw [more answered] at later
        constructor
        · intro equal
          omega
        · exact fun all => absurd all.1 answered

structure OwnAnswer (dev : HidDevice) (call : Call) (value : Value) (after : HidDevice) : Prop where
  sent : after.received = dev.received ++ [call.command.toBytes]
  consumed : dev.taken = dev.received.length ∧ after.taken = dev.taken + 1
  decoded : ∃ response, Response.parse call.command
    (padded (dev.wire.answer dev.received.length call.command.toBytes)) = .ok response ∧
      call.value response = some value

theorem ownAnswer_iff_allAnswered {info : Except String DeviceInfo} {wire : Wire} {earlier : List Call}
    {call : Call} {value : Value} {after : HidDevice}
    (result : perform call (afterCalls earlier (HidDevice.opened info wire)) = .ok value after) :
    OwnAnswer (afterCalls earlier (HidDevice.opened info wire)) call value after ↔
      AllAnswered earlier (HidDevice.opened info wire) := by
  have level : (HidDevice.opened info wire).taken ≤ (HidDevice.opened info wire).received.length :=
    Nat.le_refl 0
  have behind := afterCalls_behind earlier level
  rw [← unread_afterCalls_iff earlier level]
  generalize afterCalls earlier (HidDevice.opened info wire) = dev at *
  have none_unread : unread (HidDevice.opened info wire) = 0 := rfl
  rw [none_unread]
  constructor
  · intro own
    simp [unread, own.consumed.1]
  · intro all_read
    have level : dev.taken = dev.received.length := by
      unfold unread at all_read
      omega
    obtain ⟨response, requested, returned⟩ := perform_ok result
    by_cases sends : Sends dev call.command
    · rcases request_sent sends behind with
        ⟨-, e, request⟩ | ⟨-, ⟨e, request⟩ | ⟨frame, answer, own, parsed, request⟩⟩
      · rw [request] at requested
        contradiction
      · rw [request] at requested
        contradiction
      · rw [request] at requested
        cases requested
        rw [level, List.getElem?_concat_length, Option.some.injEq] at own
        subst own
        rw [level] at parsed
        exact ⟨rfl, ⟨level, rfl⟩, response, parsed, returned⟩
    · obtain ⟨e, writes, request⟩ := request_unsent sends
      rw [request] at requested
      contradiction

def lateWire : Wire where
  writeError _ := none
  answer _ frame := [0, 0, frame.getD 3 0, 0, 0]
  arrival read := if read = 0 then .timeout else .ready

def lateDevice : HidDevice := .opened (.error "no info") lateWire

set_option maxRecDepth 4000 in
theorem getData_returns_answer_of_other_port :
    ∃ after, perform (.getData 2) (afterCalls [.getData 1] lateDevice) = .ok (.data 1 0) after ∧
      lateWire.answer 1 (Command.getData 2).toBytes = [0, 0, 2, 0, 0] ∧
      ¬ OwnAnswer (afterCalls [.getData 1] lateDevice) (.getData 2) (.data 1 0) after := by
  refine ⟨_, rfl, rfl, ?_⟩
  intro own
  exact absurd own.consumed.1 (by decide)

set_option maxRecDepth 4000 in
theorem ownAnswer_iff_allAnswered_late :
    ∃ after, perform (.getData 2) (afterCalls [.getData 1] lateDevice) = .ok (.data 1 0) after ∧
      (OwnAnswer (afterCalls [.getData 1] lateDevice) (.getData 2) (.data 1 0) after ↔
        AllAnswered [.getData 1] lateDevice) :=
  ⟨_, rfl, ownAnswer_iff_allAnswered rfl⟩

end TtRiingd.Drivers
