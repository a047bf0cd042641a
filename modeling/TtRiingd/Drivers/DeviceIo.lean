import TtRiingd.Drivers.Protocol

/-!
# The HID link

`HidDevice` stands for an opened device behind hidapi. It answers every frame it receives exactly
once and in order; `Wire` holds everything the program does not decide: which writes fail, what
each answer contains, and what each read finds before its timeout.
-/

namespace TtRiingd.Drivers

class DeviceIo (Io : Type) where
  write : List UInt8 → EStateM Error Io Nat
  read : List UInt8 → Int → EStateM Error Io (List UInt8)

structure DeviceInfo where
  vendorId : UInt16
  productId : UInt16
  serialNumber : Option String
  deriving DecidableEq

inductive Arrival where
  | ready
  | timeout
  | failed (message : String)

structure Wire where
  writeError : Nat → Option String
  answer : Nat → List UInt8 → List UInt8
  arrival : Nat → Arrival

structure HidDevice where
  info : Except String DeviceInfo
  wire : Wire
  writes : Nat := 0
  reads : Nat := 0
  received : List (List UInt8) := []
  /-- How many of its answers have been read. -/
  taken : Nat := 0

namespace HidDevice

def opened (info : Except String DeviceInfo) (wire : Wire) : HidDevice := { info, wire }

def write (frame : List UInt8) : EStateM Error HidDevice Nat := fun dev =>
  match dev.wire.writeError dev.writes with
  | some message => .error (anyhow message) { dev with writes := dev.writes + 1 }
  | none => .ok frame.length { dev with writes := dev.writes + 1, received := dev.received ++ [frame] }

def readTimeout (length : Nat) : EStateM Error HidDevice (List UInt8) := fun dev =>
  match dev.wire.arrival dev.reads, dev.received[dev.taken]? with
  | .failed message, _ => .error (anyhow message) { dev with reads := dev.reads + 1 }
  | .ready, some frame =>
      .ok ((dev.wire.answer dev.taken frame).take length)
        { dev with reads := dev.reads + 1, taken := dev.taken + 1 }
  -- The timeout ends a read without bytes.
  | _, _ => .ok [] { dev with reads := dev.reads + 1 }

def read (buf : List UInt8) (_timeout : Int) : EStateM Error HidDevice (List UInt8) := fun dev =>
  match readTimeout buf.length dev with
  | .error e dev => .error e dev
  | .ok bytes dev =>
      if bytes.length > 0 then .ok (bytes ++ buf.drop bytes.length) dev
      else .error (anyhow "hidapi error: IncompleteRead") dev

end HidDevice

instance : DeviceIo HidDevice where
  write := HidDevice.write
  read := HidDevice.read

end TtRiingd.Drivers
