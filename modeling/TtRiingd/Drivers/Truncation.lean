import TtRiingd.Drivers.Pairing

/-!
# Short answers

`DeviceIO::read` fills the start of a zeroed packet and forgets how many bytes arrived, and
`Response::parse` is handed the whole packet. Its length checks never see a short answer, so only an
empty one is rejected.
-/

namespace TtRiingd.Drivers
open ProtocolConsts

/-- The offsets of the packet that the response to a command is decoded from. -/
def decodedFrom : Command → List Nat
  | .init | .setSpeed _ _ | .setRgb _ _ _ => [STATUS_OFFSET]
  | .getFirmwareVersion => [FW_MAJOR_OFFSET, FW_MINOR_OFFSET, FW_PATCH_OFFSET]
  | .getData _ => [DATA_SPEED_OFFSET, DATA_RPM_LOW_OFFSET, DATA_RPM_HIGH_OFFSET]

def minimumLen : Command → Nat
  | .getData _ => 5
  | _ => 3

theorem decodedFrom_lt_iff (cmd : Command) (length : Nat) :
    (∀ offset ∈ decodedFrom cmd, offset < length) ↔ minimumLen cmd ≤ length := by
  cases cmd <;>
    simp only [decodedFrom, minimumLen, STATUS_OFFSET, FW_MAJOR_OFFSET, FW_MINOR_OFFSET, FW_PATCH_OFFSET,
      DATA_SPEED_OFFSET, DATA_RPM_LOW_OFFSET, DATA_RPM_HIGH_OFFSET, List.forall_mem_cons, List.not_mem_nil] <;>
    grind

/-! ## What the parser reads -/

theorem checked_succeeds_iff {ε α : Type} {fault : ε} {value : α} (length minimum : Nat) :
    (∃ result, (if length < minimum then Except.error fault else .ok value) = .ok result) ↔ minimum ≤ length := by
  by_cases short : length < minimum
  · simp only [if_pos short]
    exact ⟨fun ⟨result, checked⟩ => by contradiction, fun enough => by omega⟩
  · simp only [if_neg short]
    exact ⟨fun _ => by omega, fun _ => ⟨_, rfl⟩⟩

theorem parse_succeeds_iff (cmd : Command) (buf : List UInt8) :
    (∃ response, Response.parse cmd buf = .ok response) ↔ minimumLen cmd ≤ buf.length := by
  cases cmd with
  | getData port => exact checked_succeeds_iff buf.length 5
  | getFirmwareVersion => exact checked_succeeds_iff buf.length 3
  | _ =>
      simp only [Response.parse, minimumLen]
      cases code : buf[STATUS_OFFSET]? with
      | none =>
          have short := List.getElem?_eq_none_iff.mp code
          simp only [STATUS_OFFSET] at short
          exact ⟨fun ⟨response, parsed⟩ => by contradiction, fun enough => by omega⟩
      | some code =>
          obtain ⟨long, -⟩ := List.getElem?_eq_some_iff.mp code
          exact ⟨fun _ => long, fun _ => ⟨_, rfl⟩⟩

theorem parse_congr {cmd : Command} {buf other : List UInt8}
    (enough : minimumLen cmd ≤ buf.length) (same_length : other.length = buf.length)
    (agree : ∀ offset ∈ decodedFrom cmd, other[offset]? = buf[offset]?) :
    Response.parse cmd other = Response.parse cmd buf := by
  cases cmd with
  | getData port =>
      simp only [decodedFrom, List.forall_mem_cons] at agree
      simp only [Response.parse, List.getD_eq_getElem?_getD, agree, same_length]
  | getFirmwareVersion =>
      simp only [decodedFrom, List.forall_mem_cons] at agree
      simp only [Response.parse, List.getD_eq_getElem?_getD, agree, same_length]
  | _ =>
      have code := agree STATUS_OFFSET (List.mem_singleton_self _)
      have present : buf[STATUS_OFFSET]? = some buf[STATUS_OFFSET] := List.getElem?_eq_getElem enough
      rw [present] at code
      simp only [Response.parse, code, present]

theorem padded_length (answer : List UInt8) : (padded answer).length = RESPONSE_LEN := by
  simp only [padded, List.length_append, List.length_replicate, List.length_take]
  omega

theorem parse_padded (cmd : Command) (answer : List UInt8) :
    ∃ response, Response.parse cmd (padded answer) = .ok response := by
  rw [parse_succeeds_iff, padded_length]
  cases cmd <;> simp only [minimumLen, RESPONSE_LEN] <;> omega

/-! ## What a request makes of an answer -/

theorem request_of_empty {dev : HidDevice} {cmd : Command} {frame : List UInt8} (sends : Sends dev cmd)
    (ready : dev.wire.arrival dev.reads = .ready)
    (oldest : (dev.received ++ [cmd.toBytes])[dev.taken]? = some frame)
    (empty : dev.wire.answer dev.taken frame = []) : ∃ e after, request cmd dev = .error e after := by
  obtain ⟨pkt, encoded, bytes⟩ := encodes_iff.mp sends.1
  unfold request
  simp only [encoded, DeviceIo.write, HidDevice.write, sends.2, bytes, DeviceIo.read, HidDevice.read,
    HidDevice.readTimeout, ready, oldest, empty, List.take_nil, List.length_nil, Nat.lt_irrefl, if_false]
  exact ⟨_, _, rfl⟩

/-- Any answer that is not empty is accepted, whatever its length. -/
theorem request_of_bytes {dev : HidDevice} {cmd : Command} {frame : List UInt8} (sends : Sends dev cmd)
    (ready : dev.wire.arrival dev.reads = .ready)
    (oldest : (dev.received ++ [cmd.toBytes])[dev.taken]? = some frame)
    (some_bytes : dev.wire.answer dev.taken frame ≠ []) :
    ∃ response, Response.parse cmd (padded (dev.wire.answer dev.taken frame)) = .ok response ∧
      request cmd dev = .ok response (dev.exchanged cmd 1) := by
  obtain ⟨pkt, encoded, bytes⟩ := encodes_iff.mp sends.1
  obtain ⟨response, parsed⟩ := parse_padded cmd (dev.wire.answer dev.taken frame)
  have arrived : 0 < ((dev.wire.answer dev.taken frame).take RESPONSE_LEN).length := by
    have positive := List.length_pos_iff.mpr some_bytes
    rw [List.length_take, RESPONSE_LEN]
    omega
  refine ⟨response, parsed, ?_⟩
  unfold padded at parsed
  unfold request
  simp only [encoded, DeviceIo.write, HidDevice.write, sends.2, bytes, DeviceIo.read, HidDevice.read,
    HidDevice.readTimeout, ready, oldest, List.length_replicate, List.drop_replicate, arrived, if_true, parsed]
  rfl

/-- What the length checks are for: a response is decoded from bytes that arrived. -/
structure RejectsTruncated (dev : HidDevice) (cmd : Command) (answer : List UInt8) : Prop where
  decoded : ∀ response after, request cmd dev = .ok response after →
    ∀ offset ∈ decodedFrom cmd, offset < answer.length
  short : answer.length < minimumLen cmd → ∃ e after, request cmd dev = .error e after

theorem request_unanswered {dev : HidDevice} {cmd : Command} (behind : dev.taken ≤ dev.received.length)
    (unanswered : ¬ (Sends dev cmd ∧ dev.wire.arrival dev.reads = .ready)) :
    ∃ e after, request cmd dev = .error e after := by
  by_cases sends : Sends dev cmd
  · rcases request_sent sends behind with ⟨-, e, failed⟩ | ⟨ready, -⟩
    · exact ⟨e, _, failed⟩
    · exact absurd ⟨sends, ready⟩ unanswered
  · obtain ⟨e, writes, failed⟩ := request_unsent sends
    exact ⟨e, _, failed⟩

theorem rejectsTruncated_of_error {dev : HidDevice} {cmd : Command} {answer : List UInt8}
    (failed : ∃ e after, request cmd dev = .error e after) : RejectsTruncated dev cmd answer := by
  refine ⟨?_, fun _ => failed⟩
  obtain ⟨e, after, failed⟩ := failed
  intro response later result
  rw [failed] at result
  contradiction

theorem rejectsTruncated_iff {dev : HidDevice} {cmd : Command} {frame : List UInt8}
    (oldest : (dev.received ++ [cmd.toBytes])[dev.taken]? = some frame) :
    RejectsTruncated dev cmd (dev.wire.answer dev.taken frame) ↔
      (Sends dev cmd → dev.wire.arrival dev.reads = .ready →
        (dev.wire.answer dev.taken frame).length = 0 ∨
          minimumLen cmd ≤ (dev.wire.answer dev.taken frame).length) := by
  have behind : dev.taken ≤ dev.received.length := by
    obtain ⟨inside, -⟩ := List.getElem?_eq_some_iff.mp oldest
    rw [List.length_append, List.length_singleton] at inside
    omega
  constructor
  · intro rejects sends ready
    by_cases empty : dev.wire.answer dev.taken frame = []
    · exact .inl (List.length_eq_zero_iff.mpr empty)
    · obtain ⟨response, -, accepted⟩ := request_of_bytes sends ready oldest empty
      exact .inr ((decodedFrom_lt_iff cmd _).mp (rejects.decoded response _ accepted))
  · intro enough
    by_cases answered : Sends dev cmd ∧ dev.wire.arrival dev.reads = .ready
    · rcases enough answered.1 answered.2 with empty | long
      · apply rejectsTruncated_of_error
        exact request_of_empty answered.1 answered.2 oldest (List.length_eq_zero_iff.mp empty)
      · exact ⟨fun _ _ _ => (decodedFrom_lt_iff cmd _).mpr long, fun short => by omega⟩
    · exact rejectsTruncated_of_error (request_unanswered behind answered)

def shortWire : Wire where
  writeError _ := none
  answer _ _ := [0, 0, 50]
  arrival _ := .ready

/-- Three bytes answer `GetData`: the speed arrived, the revolutions are the packet's own zeros. -/
theorem rejectsTruncated_iff_threeBytes :
    RejectsTruncated (.opened (.error "no info") shortWire) (.getData 1) [0, 0, 50] ↔
      (Sends (.opened (.error "no info") shortWire) (.getData 1) → Arrival.ready = .ready →
        3 = 0 ∨ minimumLen (.getData 1) ≤ 3) :=
  @rejectsTruncated_iff (.opened (.error "no info") shortWire) (.getData 1) (Command.getData 1).toBytes rfl

set_option maxRecDepth 4000 in
theorem getData_accepts_threeBytes :
    ∃ after, request (.getData 1) (HidDevice.opened (.error "no info") shortWire) = .ok (.data 50 0) after ∧
      shortWire.answer 0 (Command.getData 1).toBytes = [0, 0, 50] ∧
      ¬ RejectsTruncated (.opened (.error "no info") shortWire) (.getData 1) [0, 0, 50] := by
  refine ⟨_, rfl, rfl, ?_⟩
  intro rejects
  have inside := rejects.decoded (.data 50 0) _ rfl DATA_RPM_LOW_OFFSET (by simp [decodedFrom])
  exact absurd inside (by decide)

end TtRiingd.Drivers
