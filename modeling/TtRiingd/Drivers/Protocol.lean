import TtRiingd.Config.Cfg
import TtRiingd.Library.Call

namespace TtRiingd.Drivers

namespace ProtocolConsts

def CMD_INIT : UInt8 := 0x33
def CMD_GET_FW_VERSION : UInt8 := 0x50
def CMD_GET_DATA : UInt8 := 0x51
def CMD_SET_SPEED : UInt8 := 0x51
def CMD_SET_RGB : UInt8 := 0x52
def PREFIX_0 : UInt8 := 0x00
def PREFIX_1_FE : UInt8 := 0xFE
def PREFIX_1_32 : UInt8 := 0x32
def PREFIX_1_33 : UInt8 := 0x33
def SPEED_FLAG : UInt8 := 0x01
def RESPONSE_LEN : Nat := 193
def STATUS_OFFSET : Nat := 2
def FW_MAJOR_OFFSET : Nat := 0
def FW_MINOR_OFFSET : Nat := 1
def FW_PATCH_OFFSET : Nat := 2
def DATA_SPEED_OFFSET : Nat := 2
def DATA_RPM_LOW_OFFSET : Nat := 3
def DATA_RPM_HIGH_OFFSET : Nat := 4

end ProtocolConsts

open ProtocolConsts

/-- `ArrayVec<u8, 193>`: bytes that never outgrow the capacity. -/
structure PacketBuffer where
  bytes : List UInt8
  fits : bytes.length ≤ RESPONSE_LEN

def PacketBuffer.new : PacketBuffer := ⟨[], Nat.zero_le _⟩

def PacketBuffer.capacity (_ : PacketBuffer) : Nat := RESPONSE_LEN

inductive Command where
  | init
  | getFirmwareVersion
  | getData (port : UInt8)
  | setSpeed (port speed : UInt8)
  | setRgb (port mode : UInt8) (colors : List Rgb)
  deriving DecidableEq

def push (data : List UInt8) : EStateM Error PacketBuffer Unit := fun buf =>
  if fits : (buf.bytes ++ data).length ≤ RESPONSE_LEN then .ok () ⟨buf.bytes ++ data, fits⟩
  else .error (anyhow "Failed to encode command") buf

def Command.encode (cmd : Command) : EStateM Error PacketBuffer Unit := do
  set PacketBuffer.new
  match cmd with
  | .init => push [PREFIX_0, PREFIX_1_FE, CMD_INIT]
  | .getFirmwareVersion => push [PREFIX_0, PREFIX_1_33, CMD_GET_FW_VERSION]
  | .getData port => push [PREFIX_0, PREFIX_1_33, CMD_GET_DATA, port]
  | .setSpeed port speed => push [PREFIX_0, PREFIX_1_32, CMD_SET_SPEED, port, SPEED_FLAG, speed]
  | .setRgb port mode colors =>
      let buf ← get
      if buf.capacity < RESPONSE_LEN then throw (anyhow "Buffer too small for SetRgb command")
      else
        push [PREFIX_0, PREFIX_1_32, CMD_SET_RGB, port, mode]
        colors.forM fun color => push [color.green, color.red, color.blue]

def Command.toBytes : Command → List UInt8
  | .init => [PREFIX_0, PREFIX_1_FE, CMD_INIT]
  | .getFirmwareVersion => [PREFIX_0, PREFIX_1_33, CMD_GET_FW_VERSION]
  | .getData port => [PREFIX_0, PREFIX_1_33, CMD_GET_DATA, port]
  | .setSpeed port speed => [PREFIX_0, PREFIX_1_32, CMD_SET_SPEED, port, SPEED_FLAG, speed]
  | .setRgb port mode colors =>
      [PREFIX_0, PREFIX_1_32, CMD_SET_RGB, port, mode] ++
        colors.flatMap fun color => [color.green, color.red, color.blue]

inductive Response where
  | status (code : UInt8)
  | firmwareVersion (major minor patch : UInt8)
  | data (speed : UInt8) (rpm : UInt16)
  deriving DecidableEq

def Response.parse (cmd : Command) (buf : List UInt8) : Except Error Response :=
  match cmd with
  | .init | .setSpeed _ _ | .setRgb _ _ _ =>
      match buf[STATUS_OFFSET]? with
      | some code => .ok (.status code)
      | none => .error (anyhow s!"Empty status. Buf: {buf}")
  | .getFirmwareVersion =>
      if buf.length < 3 then .error (anyhow "Buf too small for FW")
      else .ok (.firmwareVersion (buf.getD FW_MAJOR_OFFSET 0) (buf.getD FW_MINOR_OFFSET 0)
        (buf.getD FW_PATCH_OFFSET 0))
  | .getData _ =>
      if buf.length < 5 then .error (anyhow "Buf too small for Data")
      else .ok (.data (buf.getD DATA_SPEED_OFFSET 0)
        ((buf.getD DATA_RPM_HIGH_OFFSET 0).toUInt16 <<< 8 ||| (buf.getD DATA_RPM_LOW_OFFSET 0).toUInt16))

/-! ## What the encoder leaves in the buffer -/

theorem push_ok {data : List UInt8} {buf after : PacketBuffer} {value : Unit}
    (result : push data buf = .ok value after) : after.bytes = buf.bytes ++ data := by
  unfold push at result
  split at result
  · cases result
    rfl
  · contradiction

theorem pushColors_ok {colors : List Rgb} {buf after : PacketBuffer}
    (result : (colors.forM fun color => push [color.green, color.red, color.blue]) buf = .ok () after) :
    after.bytes = buf.bytes ++ colors.flatMap fun color => [color.green, color.red, color.blue] := by
  induction colors generalizing buf with
  | nil =>
      cases result
      simp
  | cons color rest ih =>
      obtain ⟨middle, pushed, others⟩ := EStateM.forM_cons_eq_ok.mp result
      rw [ih others, push_ok pushed]
      simp

theorem encode_ok {cmd : Command} {buf after : PacketBuffer}
    (result : cmd.encode buf = .ok () after) : after.bytes = cmd.toBytes := by
  unfold Command.encode at result
  rw [EStateM.set_bind] at result
  cases cmd with
  | setRgb port mode colors =>
      simp only [EStateM.get_bind, PacketBuffer.capacity, lt_self_iff_false, if_false] at result
      obtain ⟨⟨⟩, middle, pushed, others⟩ := EStateM.bind_eq_ok.mp result
      rw [pushColors_ok others, push_ok pushed]
      rfl
  | _ => exact push_ok result

end TtRiingd.Drivers
