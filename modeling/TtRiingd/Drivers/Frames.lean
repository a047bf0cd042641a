import TtRiingd.Drivers.Protocol

/-!
# The two encoders and the frames they write

`Command::encode` fills a bounded buffer piece by piece, `Command::to_bytes` grows a vector. They write
the same frames up to the buffer's capacity, and a frame determines its command.
-/

namespace TtRiingd.Drivers
open ProtocolConsts

/-! ## When the bounded encoder succeeds -/

theorem push_succeeds_iff (data : List UInt8) (buf : PacketBuffer) :
    (∃ after, push data buf = .ok () after) ↔ buf.bytes.length + data.length ≤ RESPONSE_LEN := by
  rw [← List.length_append]
  constructor
  · intro ⟨after, pushed⟩
    rw [← push_ok pushed]
    exact after.fits
  · intro fits
    exact ⟨⟨buf.bytes ++ data, fits⟩, dif_pos fits⟩

theorem pushColors_succeeds_iff (colors : List Rgb) (buf : PacketBuffer) :
    (∃ after, (colors.forM fun color => push [color.green, color.red, color.blue]) buf = .ok () after) ↔
      buf.bytes.length + 3 * colors.length ≤ RESPONSE_LEN := by
  induction colors generalizing buf with
  | nil => exact ⟨fun _ => buf.fits, fun _ => ⟨buf, rfl⟩⟩
  | cons color rest ih =>
      have room := push_succeeds_iff [color.green, color.red, color.blue] buf
      rw [List.length_cons]
      constructor
      · intro ⟨after, result⟩
        obtain ⟨middle, first, others⟩ := EStateM.forM_cons_eq_ok.mp result
        have fits := (ih middle).mp ⟨after, others⟩
        rw [push_ok first, List.length_append] at fits
        simp only [List.length_cons, List.length_nil] at fits
        omega
      · intro fits
        obtain ⟨middle, first⟩ := room.mpr (by simp only [List.length_cons, List.length_nil]; omega)
        have later : middle.bytes.length + 3 * rest.length ≤ RESPONSE_LEN := by
          rw [push_ok first, List.length_append]
          simp only [List.length_cons, List.length_nil]
          omega
        obtain ⟨after, others⟩ := (ih middle).mpr later
        exact ⟨after, EStateM.forM_cons_eq_ok.mpr ⟨middle, first, others⟩⟩

theorem toBytes_setRgb_length (port mode : UInt8) (colors : List Rgb) :
    (Command.setRgb port mode colors).toBytes.length = 5 + 3 * colors.length := by
  have triples : (colors.flatMap fun color => [color.green, color.red, color.blue]).length =
      3 * colors.length := by
    induction colors with
    | nil => rfl
    | cons color rest ih =>
        rw [List.flatMap_cons, List.length_append, ih]
        simp only [List.length_cons, List.length_nil]
        omega
  simp only [Command.toBytes, List.length_append, List.length_cons, List.length_nil, triples]

theorem encode_setRgb_succeeds_iff (port mode : UInt8) (colors : List Rgb) (buf : PacketBuffer) :
    (∃ after, (Command.setRgb port mode colors).encode buf = .ok () after) ↔
      5 + 3 * colors.length ≤ RESPONSE_LEN := by
  unfold Command.encode
  rw [EStateM.set_bind]
  simp only [EStateM.get_bind, PacketBuffer.capacity, lt_self_iff_false, if_false]
  have room : PacketBuffer.new.bytes.length + [PREFIX_0, PREFIX_1_32, CMD_SET_RGB, port, mode].length ≤
      RESPONSE_LEN := by
    simp only [PacketBuffer.new, List.length_cons, List.length_nil, RESPONSE_LEN]
    omega
  obtain ⟨header, pushed⟩ := (push_succeeds_iff _ _).mpr room
  rw [EStateM.bind_of_ok pushed, pushColors_succeeds_iff, push_ok pushed]
  rfl

/-- The buffer's earlier content plays no part: it is cleared first. -/
theorem encode_succeeds_iff (cmd : Command) (buf : PacketBuffer) :
    (∃ after, cmd.encode buf = .ok () after) ↔ cmd.toBytes.length ≤ RESPONSE_LEN := by
  cases cmd with
  | setRgb port mode colors =>
      rw [encode_setRgb_succeeds_iff, toBytes_setRgb_length]
  | _ =>
      unfold Command.encode
      rw [EStateM.set_bind]
      exact push_succeeds_iff _ PacketBuffer.new

theorem encoders_agree (cmd : Command) (buf : PacketBuffer) :
    ((∃ after, cmd.encode buf = .ok () after) ↔ cmd.toBytes.length ≤ 193) ∧
    (∀ port mode colors, cmd = .setRgb port mode colors →
      (cmd.toBytes.length ≤ 193 ↔ colors.length ≤ 62)) ∧
    ∀ after, cmd.encode buf = .ok () after → after.bytes = cmd.toBytes := by
  refine ⟨encode_succeeds_iff cmd buf, ?_, fun after result => encode_ok result⟩
  intro port mode colors same
  rw [same, toBytes_setRgb_length]
  omega

/-- 62 colours fill the packet to 191 bytes, and a 63rd does not fit. -/
theorem encoders_agree_fullPacket :
    (∃ after, (Command.setRgb 1 0x24 (List.replicate 62 ⟨1, 2, 3⟩)).encode PacketBuffer.new = .ok () after) ∧
      ¬ ∃ after, (Command.setRgb 1 0x24 (List.replicate 63 ⟨1, 2, 3⟩)).encode PacketBuffer.new = .ok () after := by
  refine ⟨(encoders_agree _ _).1.mpr ?_, fun result => ?_⟩
  · exact ((encoders_agree _ PacketBuffer.new).2.1 1 0x24 _ rfl).mpr (by simp)
  · have fits := ((encoders_agree _ PacketBuffer.new).2.1 1 0x24 _ rfl).mp ((encoders_agree _ _).1.mp result)
    simp at fits

/-! ## Reading a frame back -/

def decodeColors : List UInt8 → Option (List Rgb)
  | [] => some []
  | green :: red :: blue :: rest => (decodeColors rest).map (⟨red, green, blue⟩ :: ·)
  | _ => none

def decodePayload (kind code : UInt8) (payload : List UInt8) : Option Command :=
  match payload with
  | [] =>
      if kind = PREFIX_1_FE ∧ code = CMD_INIT then some .init
      else if kind = PREFIX_1_33 ∧ code = CMD_GET_FW_VERSION then some .getFirmwareVersion
      else none
  | [port] => if kind = PREFIX_1_33 ∧ code = CMD_GET_DATA then some (.getData port) else none
  | port :: second :: rest =>
      if kind = PREFIX_1_32 ∧ code = CMD_SET_RGB then (decodeColors rest).map (.setRgb port second)
      else match rest with
        | [speed] =>
            if kind = PREFIX_1_32 ∧ code = CMD_SET_SPEED ∧ second = SPEED_FLAG then some (.setSpeed port speed)
            else none
        | _ => none

/-- The second byte of a frame separates `SetSpeed` from `GetData`, which have the same command byte;
the end of the colour list is the end of the frame. -/
def decode : List UInt8 → Option Command
  | first :: kind :: code :: payload => if first = PREFIX_0 then decodePayload kind code payload else none
  | _ => none

theorem decodeColors_flatMap (colors : List Rgb) :
    decodeColors (colors.flatMap fun color => [color.green, color.red, color.blue]) = some colors := by
  induction colors with
  | nil => rfl
  | cons color rest ih =>
      rw [List.flatMap_cons]
      simp only [List.cons_append, List.nil_append, decodeColors, ih, Option.map_some]

theorem decode_toBytes (cmd : Command) : decode cmd.toBytes = some cmd := by
  cases cmd with
  | setRgb port mode colors =>
      simp only [Command.toBytes, List.cons_append, List.nil_append, decode, decodePayload, and_self, if_true,
        decodeColors_flatMap, Option.map_some]
  | _ => rfl

theorem decodeColors_sound {payload : List UInt8} {colors : List Rgb}
    (decoded : decodeColors payload = some colors) :
    (colors.flatMap fun color => [color.green, color.red, color.blue]) = payload := by
  induction payload using decodeColors.induct generalizing colors with
  | case1 =>
      cases decoded
      rfl
  | case2 green red blue rest ih =>
      obtain ⟨others, readRest, rfl⟩ := Option.map_eq_some_iff.mp decoded
      rw [List.flatMap_cons, ih readRest]
      rfl
  | case3 payload notEmpty notTriple =>
      simp [decodeColors] at decoded

theorem decodePayload_sound {kind code : UInt8} {payload : List UInt8} {cmd : Command}
    (decoded : decodePayload kind code payload = some cmd) :
    cmd.toBytes = PREFIX_0 :: kind :: code :: payload := by
  unfold decodePayload at decoded
  split at decoded
  · split at decoded
    · rename_i isInit
      cases decoded
      rw [isInit.1, isInit.2, Command.toBytes]
    · split at decoded
      · rename_i isVersion
        cases decoded
        rw [isVersion.1, isVersion.2, Command.toBytes]
      · contradiction
  · split at decoded
    · rename_i isData
      cases decoded
      rw [isData.1, isData.2, Command.toBytes]
    · contradiction
  · split at decoded
    · rename_i isRgb
      obtain ⟨colors, readColors, rfl⟩ := Option.map_eq_some_iff.mp decoded
      rw [isRgb.1, isRgb.2, Command.toBytes, decodeColors_sound readColors]
      rfl
    · split at decoded
      · split at decoded
        · rename_i isSpeed
          cases decoded
          rw [isSpeed.1, isSpeed.2.1, isSpeed.2.2, Command.toBytes]
        · contradiction
      · contradiction

theorem decode_sound {frame : List UInt8} {cmd : Command} (decoded : decode frame = some cmd) :
    cmd.toBytes = frame := by
  unfold decode at decoded
  split at decoded
  · split at decoded
    · rename_i isFrame
      rw [isFrame]
      exact decodePayload_sound decoded
    · contradiction
  · contradiction

theorem decode_encode {cmd : Command} {buf after : PacketBuffer}
    (result : cmd.encode buf = .ok () after) : decode after.bytes = some cmd := by
  rw [encode_ok result, decode_toBytes]

theorem toBytes_injective : Function.Injective Command.toBytes := by
  intro cmd other same
  have read := decode_toBytes cmd
  rw [same, decode_toBytes other] at read
  exact (Option.some.inj read).symm

/-- `decode` reads exactly the frames, and reads each as the command it was encoded from. -/
theorem frames_are_decodable :
    (∀ cmd buf after, Command.encode cmd buf = .ok () after → decode after.bytes = some cmd) ∧
    (∀ frame cmd, decode frame = some cmd ↔ cmd.toBytes = frame) ∧
    ∀ cmd other buf otherBuf after otherAfter, Command.encode cmd buf = .ok () after →
      Command.encode other otherBuf = .ok () otherAfter → after.bytes = otherAfter.bytes → cmd = other := by
  refine ⟨fun cmd buf after result => decode_encode result, ?_, ?_⟩
  · intro frame cmd
    constructor
    · exact decode_sound
    · intro same
      rw [← same, decode_toBytes]
  · intro cmd other buf otherBuf after otherAfter result otherResult same
    rw [encode_ok result, encode_ok otherResult] at same
    exact toBytes_injective same

def reused : PacketBuffer := ⟨List.replicate RESPONSE_LEN 0xAA, List.length_replicate.le⟩

/-- Two colours, encoded into a buffer that a longer frame filled before. -/
theorem frames_are_decodable_twoColors :
    ∃ after, (Command.setRgb 1 0x24 [⟨1, 2, 3⟩, ⟨4, 5, 6⟩]).encode reused = .ok () after ∧
      decode after.bytes = some (.setRgb 1 0x24 [⟨1, 2, 3⟩, ⟨4, 5, 6⟩]) := by
  obtain ⟨after, result⟩ := (encode_succeeds_iff (.setRgb 1 0x24 [⟨1, 2, 3⟩, ⟨4, 5, 6⟩]) reused).mpr (by decide)
  exact ⟨after, result, frames_are_decodable.1 _ _ _ result⟩

end TtRiingd.Drivers
