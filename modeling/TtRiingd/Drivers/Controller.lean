import TtRiingd.Drivers.DeviceIo

namespace TtRiingd.Drivers
open ProtocolConsts

def READ_TIMEOUT : Int := 250

structure Fan where
  currentSpeed : UInt8
  currentRpm : UInt16
  deriving DecidableEq

def Fan.updateStats (_ : Fan) (speed : UInt8) (rpm : UInt16) : Fan := ⟨speed, rpm⟩

structure Controller (Io : Type) where
  name : String
  dev : Io
  fans : List Fan

section Requests
variable {Io : Type} [DeviceIo Io]

/-- One command on the link. The methods of a controller that only talk to its device are state
changes of that device. -/
def request (cmd : Command) : EStateM Error Io Response := fun dev =>
  match cmd.encode PacketBuffer.new with
  | .error e _ => .error (anyhow s!"Failed to encode command: {e.display}") dev
  | .ok _ pkt =>
      match DeviceIo.write pkt.bytes dev with
      | .error e dev => .error e dev
      | .ok _ dev =>
          match DeviceIo.read (List.replicate RESPONSE_LEN 0) READ_TIMEOUT dev with
          | .error e dev => .error (anyhow e.display) dev
          | .ok buf dev =>
              match Response.parse cmd buf with
              | .ok response => .ok response dev
              | .error e => .error e dev

/-- The commands that the device acknowledges with the status `0xFC`. -/
def requestStatus (cmd : Command) (unexpected failed : String) : EStateM Error Io Unit := fun dev =>
  match request cmd dev with
  | .ok (.status 0xFC) dev => .ok () dev
  | .ok _ dev => .error (anyhow unexpected) dev
  | .error e dev => .error (anyhow s!"{failed}: {e.display}") dev

def init : EStateM Error Io Unit :=
  requestStatus .init "Invalid init response: Expected status 0xFC" "Invalid init response"

def setSpeed (port speed : UInt8) : EStateM Error Io Unit :=
  requestStatus (.setSpeed port speed) "Invalid set speed response: Expected status 0xFC"
    "Invalid set speed responce"

def setRgb (port mode : UInt8) (colors : List Rgb) : EStateM Error Io Unit :=
  requestStatus (.setRgb port mode colors) "Invalid set rgb response: Expected status 0xFC"
    "Invalid set rgb responce"

def getFirmwareVersion : EStateM Error Io (UInt8 × UInt8 × UInt8) := fun dev =>
  match request .getFirmwareVersion dev with
  | .ok (.firmwareVersion major minor patch) dev => .ok (major, minor, patch) dev
  | .ok _ dev => .error (anyhow "Invalid firmware version responce") dev
  | .error e dev => .error e dev

def getData (port : UInt8) : EStateM Error Io (UInt8 × UInt16) := fun dev =>
  match request (.getData port) dev with
  | .ok (.data speed rpm) dev => .ok (speed, rpm) dev
  | .ok _ dev => .error (anyhow "Invalid get data response: Expected Data") dev
  | .error e dev => .error (anyhow s!"Invalid get speed responce: {e.display}") dev

theorem requestStatus_state (cmd : Command) (unexpected failed : String) (dev : Io) :
    (requestStatus cmd unexpected failed dev).state = (request cmd dev).state := by
  unfold requestStatus
  split <;> rename_i requested <;> simp [requested]

theorem requestStatus_ok {cmd : Command} {unexpected failed : String} {dev after : Io}
    (result : requestStatus cmd unexpected failed dev = .ok () after) :
    request cmd dev = .ok (.status 0xFC) after := by
  unfold requestStatus at result
  split at result <;> cases result
  assumption

theorem getData_state (port : UInt8) (dev : Io) :
    (getData port dev).state = (request (.getData port) dev).state := by
  unfold getData
  split <;> rename_i requested <;> simp [requested]

theorem getFirmwareVersion_state (dev : Io) :
    (getFirmwareVersion dev).state = (request .getFirmwareVersion dev).state := by
  unfold getFirmwareVersion
  split <;> rename_i requested <;> simp [requested]

end Requests

/-! ## What a request sends -/

def Command.encodes (cmd : Command) : Bool :=
  match cmd.encode PacketBuffer.new with
  | .ok _ _ => true
  | .error _ _ => false

def Sends (dev : HidDevice) (cmd : Command) : Prop :=
  cmd.encodes = true ∧ dev.wire.writeError dev.writes = none

instance (dev : HidDevice) (cmd : Command) : Decidable (Sends dev cmd) :=
  inferInstanceAs (Decidable (_ ∧ _))

theorem encodes_iff {cmd : Command} :
    cmd.encodes = true ↔ ∃ pkt, cmd.encode PacketBuffer.new = .ok () pkt ∧ pkt.bytes = cmd.toBytes := by
  unfold Command.encodes
  cases result : cmd.encode PacketBuffer.new with
  | ok value pkt => simpa using encode_ok result
  | error e pkt => simp

theorem read_received (buf : List UInt8) (timeout : Int) (dev : HidDevice) :
    (HidDevice.read buf timeout dev).state.received = dev.received := by
  unfold HidDevice.read HidDevice.readTimeout
  cases dev.wire.arrival dev.reads with
  | failed message => rfl
  | timeout => rfl
  | ready =>
      cases oldest : dev.received[dev.taken]? with
      | none => rfl
      | some frame =>
          simp only
          split <;> rfl

theorem request_received (cmd : Command) (dev : HidDevice) :
    (request cmd dev).state.received =
      if Sends dev cmd then dev.received ++ [cmd.toBytes] else dev.received := by
  unfold request
  cases encoded : cmd.encode PacketBuffer.new with
  | error e pkt => rw [if_neg (by simp [Sends, Command.encodes, encoded])]; rfl
  | ok value pkt =>
      simp only [DeviceIo.write, HidDevice.write]
      cases refused : dev.wire.writeError dev.writes with
      | some message => rw [if_neg (by simp [Sends, refused])]; rfl
      | none =>
          rw [if_pos ⟨encodes_iff.mpr ⟨pkt, encoded, encode_ok encoded⟩, refused⟩, encode_ok encoded]
          have sent := read_received (List.replicate RESPONSE_LEN 0) READ_TIMEOUT
            { dev with writes := dev.writes + 1, received := dev.received ++ [cmd.toBytes] }
          simp only [DeviceIo.read]
          cases answer : HidDevice.read (List.replicate RESPONSE_LEN 0) READ_TIMEOUT
            { dev with writes := dev.writes + 1, received := dev.received ++ [cmd.toBytes] } with
          | error e after =>
              rw [answer] at sent
              exact sent
          | ok buf after =>
              rw [answer] at sent
              simp only
              split <;> exact sent

end TtRiingd.Drivers
