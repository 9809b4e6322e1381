import HarnessLink.Packet.Address
import HarnessLink.Text.Quoted

/-!
# Faults of the packet layer

Why a packet cannot be built or read. The first three are faults of the frame
around a packet.
-/
namespace HarnessLink

inductive PacketError where
  | truncatedHeader (length : Nat)
  | badDelimiter (first second : UInt8)
  | lengthMismatch (declared actual : Nat)
  /-- The packet is shorter than the id and the address of its direction. -/
  | format (direction : Direction) (length : Nat)
  /-- The body ended before a field: bytes that it needs, and bytes left. -/
  | truncated (body : String) (needed available : Nat)
  | invalidAddress (direction : Direction) (address : Address)
  /-- The packet is meant for another device. -/
  | addressMismatch (destination own : DeviceId)
  | unknownDirection (code : UInt8)
  | unknownMessage (direction : Direction) (id : UInt8)
  /-- A list, a blob or the packet does not fit its length field. -/
  | tooLong (what : String) (length limit : Nat)
  | invalidDeviceId (text : String)
  deriving DecidableEq

namespace PacketError

/-- The name of the cause. -/
def name : PacketError → String
  | truncatedHeader _ => "TruncatedHeader"
  | badDelimiter _ _ => "BadDelimiter"
  | lengthMismatch _ _ => "LengthMismatch"
  | format _ _ => "Format"
  | truncated _ _ _ => "Truncated"
  | invalidAddress _ _ => "InvalidAddress"
  | addressMismatch _ _ => "AddressMismatch"
  | unknownDirection _ => "UnknownDirection"
  | unknownMessage _ _ => "UnknownMessage"
  | tooLong _ _ _ => "TooLong"
  | invalidDeviceId _ => "InvalidDeviceId"

def hexByte (b : UInt8) : String := String.ofList (Text.Hex.byte b)

def message : PacketError → String
  | truncatedHeader length => s!"framing error: truncated header ({length} bytes)"
  | badDelimiter first second =>
    s!"framing error: bad delimiter [{hexByte first}, {hexByte second}]"
  | lengthMismatch declared actual =>
    s!"framing error: declared length {declared}, got {actual}"
  | format direction length =>
    s!"format error: {direction.name} packet needs {direction.minPacketLength} bytes, got {length}"
  | truncated body needed available =>
    s!"format error: {body} needs {needed} more bytes, {available} left"
  | invalidAddress direction address =>
    s!"address {address.text} is not valid for {direction.name}"
  | addressMismatch destination own =>
    s!"destination {destination.text} does not match local device {own.text}"
  | unknownDirection code => s!"unknown packet kind {Text.Hex.prefixed code}"
  | unknownMessage direction id =>
    s!"unknown message {Text.Hex.prefixed id} for {direction.name}"
  | tooLong what length limit => s!"{what} too long ({length}, max {limit})"
  | invalidDeviceId text => s!"invalid device id {Text.quoted text}"

/-- The frame around the packet is at fault. -/
def isFraming : PacketError → Bool
  | truncatedHeader _ | badDelimiter _ _ | lengthMismatch _ _ => true
  | _ => false

end PacketError

/-- The device id that a text spells. -/
def DeviceId.ofText (s : String) : Except PacketError DeviceId :=
  match ofText? s with
  | some id => .ok id
  | none => .error (.invalidDeviceId s)

end HarnessLink
