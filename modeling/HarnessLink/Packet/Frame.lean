import HarnessLink.Packet.Message

/-!
# Packets and their frames

A packet is a message id, an address and a body. On the way it stands in a
frame: seven bytes of header with the delimiter AB CD, the direction, an index
and a flag that are not used, and the length of the packet. `Message.frame`
writes a message as a whole frame and `Envelope.parse` reads one.
-/
namespace HarnessLink

structure PacketHeader where
  kind : UInt8
  index : UInt8
  more : Bool
  length : UInt16
  deriving DecidableEq

namespace PacketHeader

def size : Nat := 7

def wire (h : PacketHeader) : Bytes :=
  [0xAB, 0xCD, h.kind, h.index, if h.more then 1 else 0] ++ Word.le16 h.length

/-- The header at the front of a frame. -/
def read : Bytes → Except PacketError PacketHeader
  | a :: b :: kind :: index :: more :: l0 :: l1 :: _ =>
    if a = 0xAB ∧ b = 0xCD then .ok ⟨kind, index, more ≠ 0, Word.ofLe16 l0 l1⟩
    else .error (.badDelimiter a b)
  | short => .error (.truncatedHeader short.length)

end PacketHeader

structure Packet where
  direction : Direction
  messageId : UInt8
  address : Address
  payload : Bytes
  deriving DecidableEq

namespace Packet

/-- Length lies in two bytes. -/
def maxLength : Nat := 65535

def length (p : Packet) : Nat := p.direction.minPacketLength + p.payload.length

def wire (p : Packet) : Bytes :=
  p.messageId :: p.address.wire ++ p.payload

/-- Write the frame of a packet behind what a buffer holds. The length is checked
first, so that a packet that is too long leaves the buffer alone. -/
def writeFrame (direction : Direction) (packet buffer : Bytes) : Except PacketError Unit × Bytes :=
  if packet.length ≤ maxLength then
    let header := PacketHeader.wire ⟨direction.code, 0, false, UInt16.ofNat packet.length⟩
    (.ok (), (buffer ++ header) ++ packet)
  else (.error (.tooLong "packet" packet.length maxLength), buffer)

/-- Put the bytes of a packet into a frame. -/
def enframe (direction : Direction) (packet : Bytes) : Except PacketError Bytes :=
  let (result, frame) := writeFrame direction packet []
  result.map fun () => frame

/-- Split the bytes of a packet into id, address and body. -/
def ofWire (direction : Direction) (bytes : Bytes) : Except PacketError Packet :=
  match direction, bytes with
  | .backendToMaster, id :: body => .ok ⟨.backendToMaster, id, .none, body⟩
  | .masterToBackend, id :: body => .ok ⟨.masterToBackend, id, .none, body⟩
  | .masterToSlave, id :: a :: b :: c :: d :: body =>
    .ok ⟨.masterToSlave, id, .device (.ofWire a b c d), body⟩
  | .slaveToMaster, id :: a :: b :: c :: d :: body =>
    .ok ⟨.slaveToMaster, id, .device (.ofWire a b c d), body⟩
  | .slaveToBackend, id :: a :: b :: c :: d :: s0 :: s1 :: body =>
    .ok ⟨.slaveToBackend, id, .slave (.ofWire a b c d) ⟨Word.ofLe16 s0 s1⟩, body⟩
  | direction, short => .error (.format direction short.length)

end Packet

namespace Message

/-- The packet of a message. The address has to be of the form that the
direction carries. -/
def pack (m : Message) (address : Address) : Except PacketError Packet :=
  if address.fits m.direction then
    m.write.map fun payload => ⟨m.direction, m.id, address, payload⟩
  else .error (.invalidAddress m.direction address)

/-- Write a message as a whole frame behind what a buffer holds. -/
def writeFrame (m : Message) (address : Address) (buffer : Bytes) :
    Except PacketError Unit × Bytes :=
  match m.pack address with
  | .ok packet => Packet.writeFrame packet.direction packet.wire buffer
  | .error e => (.error e, buffer)

/-- A message as a whole frame. -/
def frame (m : Message) (address : Address) : Except PacketError Bytes :=
  let (result, frame) := m.writeFrame address []
  result.map fun () => frame

end Message

/-- A message with the address that it carried. -/
structure Envelope where
  address : Address
  message : Message
  deriving DecidableEq

namespace Envelope

def kind (e : Envelope) : MessageKind := e.message.kind

/-- The device that the envelope names. -/
def device? (e : Envelope) : Option DeviceId := e.address.id?

/-- The receiver `own` leaves this packet to another device. Without an id of
its own a receiver takes every packet, and everyone takes a broadcast. -/
def otherDestination? (own : Option DeviceId) (p : Packet) : Option PacketError :=
  match p.direction, own, p.address.id? with
  | .masterToSlave, some own, some destination =>
    if destination = own ∨ destination.isBroadcast then none
    else some (.addressMismatch destination own)
  | _, _, _ => none

/-- Read the packet in a frame whose header is `header`. -/
def ofPacket (own : Option DeviceId) (header : PacketHeader) (bytes : Bytes) :
    Except PacketError Envelope :=
  match Direction.ofCode? header.kind with
  | none => .error (.unknownDirection header.kind)
  | some direction => do
    let packet ← Packet.ofWire direction bytes
    match otherDestination? own packet with
    | some e => throw e
    | none => return ⟨packet.address, ← Message.read direction packet.messageId packet.payload⟩

/-- Read a whole frame, or tell why the receiver `own` does not take it. -/
def parse (own : Option DeviceId) (bytes : Bytes) : Except PacketError Envelope := do
  let header ← PacketHeader.read bytes
  let packet := bytes.drop PacketHeader.size
  if packet.length ≠ header.length.toNat then
    throw (.lengthMismatch header.length.toNat packet.length)
  ofPacket own header packet

/-- Read a whole frame if it can be. -/
def parse? (own : Option DeviceId) (bytes : Bytes) : Option Envelope :=
  (parse own bytes).toOption

end Envelope

def Address.json : Address → Json
  | .none => .object [("type", .string "none")]
  | .device id => .object [("type", .string "device"), ("id", .string id.text)]
  | .slave id status =>
    .object [("type", .string "slave"), ("id", .string id.text), ("status", .word status.bits)]

end HarnessLink
