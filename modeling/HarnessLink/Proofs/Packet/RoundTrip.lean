import HarnessLink.Packet.Frame
import HarnessLink.Proofs.Packet.Bodies

/-!
# Frames of messages are read back

A message is written as a frame exactly when its address has the form that the
direction carries, its list and its data fit their length fields, and the packet
fits the length field of the frame. The frame is appended as a whole or not at
all, and reading it gives the address and the message.
-/
namespace HarnessLink

/-! ## Headers and packets -/

theorem PacketHeader.read_wire (h : PacketHeader) (rest : Bytes) :
    PacketHeader.read (h.wire ++ rest) = .ok h := by
  obtain ⟨kind, index, more, length⟩ := h
  show Except.ok (PacketHeader.mk kind index _ (Word.ofLe16 _ _)) = _
  rw [Word.ofLe16_bytes]
  cases more <;> rfl

theorem DeviceId.ofWire_word (id : DeviceId) :
    ofWire (UInt8.ofNat id.word.toNat) (UInt8.ofNat (id.word.toNat / 256))
      (UInt8.ofNat (id.word.toNat / 65536)) (UInt8.ofNat (id.word.toNat / 16777216)) = id := by
  rw [ofWire, Word.ofLe32_bytes]

theorem DeviceId.wire_ofWire (a b c d : UInt8) : (ofWire a b c d).wire = [a, b, c, d] := by
  rw [ofWire, wire, Word.le32_ofLe32]

theorem Direction.code_of_ofCode? {code : UInt8} {direction : Direction}
    (h : ofCode? code = some direction) : direction.code = code := by
  have hfound := List.find?_some h
  simpa using hfound

namespace Packet

theorem length_wire {p : Packet} (h : p.address.fits p.direction = true) :
    p.wire.length = p.length := by
  have haddress := Address.length_wire h
  simp only [wire, length, Direction.minPacketLength, List.length_cons, List.length_append]
  omega

/-- A packet whose address has the form of its direction is taken apart again. -/
theorem ofWire_wire {p : Packet} (h : p.address.fits p.direction = true) :
    ofWire p.direction p.wire = .ok p := by
  obtain ⟨direction, messageId, address, payload⟩ := p
  cases address with
  | none => cases direction <;> first | rfl | exact absurd h Bool.false_ne_true
  | device id =>
    cases direction <;> first
      | exact absurd h Bool.false_ne_true
      | show Except.ok (Packet.mk _ messageId (.device (DeviceId.ofWire _ _ _ _)) payload) = _
        rw [DeviceId.ofWire_word]
  | slave id status =>
    cases direction <;> first
      | exact absurd h Bool.false_ne_true
      | show Except.ok (Packet.mk _ messageId (.slave (DeviceId.ofWire _ _ _ _)
          ⟨Word.ofLe16 _ _⟩) payload) = _
        rw [DeviceId.ofWire_word, Word.ofLe16_bytes]

/-- A packet has the direction that it is read in, and an address of the form of this direction. -/
theorem fits_of_ofWire {direction : Direction} {bytes : Bytes} {p : Packet}
    (h : ofWire direction bytes = .ok p) :
    p.direction = direction ∧ p.address.fits direction = true := by
  unfold ofWire at h
  split at h <;> cases h <;> exact ⟨rfl, rfl⟩

/-- A packet is written as the bytes that it was read from. -/
theorem wire_of_ofWire {direction : Direction} {bytes : Bytes} {p : Packet}
    (h : ofWire direction bytes = .ok p) : p.wire = bytes := by
  unfold ofWire at h
  split at h <;> cases h <;>
    simp [wire, Address.wire, DeviceId.wire_ofWire]

/-- The frame of a packet. -/
def framed (p : Packet) : Bytes :=
  PacketHeader.wire ⟨p.direction.code, 0, false, UInt16.ofNat p.length⟩ ++ p.wire

theorem length_framed {p : Packet} (h : p.address.fits p.direction = true) :
    p.framed.length = PacketHeader.size + p.length := by
  rw [framed, List.length_append, length_wire h]
  rfl

theorem writeFrame_of_le {p : Packet} (h : p.address.fits p.direction = true)
    (hlength : p.length ≤ maxLength) (buffer : Bytes) :
    writeFrame p.direction p.wire buffer = (.ok (), buffer ++ p.framed) := by
  rw [writeFrame, length_wire h, if_pos hlength, framed, ← List.append_assoc]

theorem writeFrame_of_lt {p : Packet} (h : p.address.fits p.direction = true)
    (hlength : maxLength < p.length) (buffer : Bytes) :
    writeFrame p.direction p.wire buffer =
      (.error (.tooLong "packet" p.length maxLength), buffer) := by
  rw [writeFrame, length_wire h, if_neg (by omega)]

end Packet

/-- A receiver without an id takes every packet. -/
theorem Envelope.otherDestination?_none (p : Packet) : otherDestination? none p = none := by
  cases h : p.direction <;> simp only [otherDestination?, h]

/-- What a receiver makes of the frame of a packet. -/
theorem Envelope.parse_framed {p : Packet} (h : p.address.fits p.direction = true)
    (hlength : p.length ≤ Packet.maxLength) (own : Option DeviceId) :
    parse own p.framed =
      match otherDestination? own p with
      | some e => .error e
      | none => (Message.read p.direction p.messageId p.payload).map fun m => ⟨p.address, m⟩ := by
  have hword : (UInt16.ofNat p.length).toNat = p.length := by
    rw [UInt16.toNat_ofNat', Nat.mod_eq_of_lt]
    simp only [Packet.maxLength] at hlength
    omega
  have hdrop : p.framed.drop PacketHeader.size = p.wire := rfl
  have hpacket : ofPacket own ⟨p.direction.code, 0, false, UInt16.ofNat p.length⟩ p.wire =
      match otherDestination? own p with
      | some e => .error e
      | none => (Message.read p.direction p.messageId p.payload).map fun m => ⟨p.address, m⟩ := by
    simp only [ofPacket, Direction.ofCode?_code, Packet.ofWire_wire h]
    show (match otherDestination? own p with | some e => _ | none => _) = _
    cases otherDestination? own p with
    | some e => rfl
    | none => cases Message.read p.direction p.messageId p.payload <;> rfl
  rw [← hpacket]
  show (PacketHeader.read p.framed >>= _) = _
  rw [Packet.framed, PacketHeader.read_wire, ← Packet.framed]
  show (if (p.framed.drop PacketHeader.size).length ≠ (UInt16.ofNat p.length).toNat
    then _ else _) = _
  rw [hdrop, hword, Packet.length_wire h, if_neg (by simp)]

/-- When a receiver reads a frame, and as what. -/
theorem Envelope.parse_eq_ok_iff {own : Option DeviceId} {frame : Bytes} {e : Envelope} :
    parse own frame = .ok e ↔ ∃ header direction p message,
      PacketHeader.read frame = .ok header ∧
      (frame.drop PacketHeader.size).length = header.length.toNat ∧
      Direction.ofCode? header.kind = some direction ∧
      Packet.ofWire direction (frame.drop PacketHeader.size) = .ok p ∧
      otherDestination? own p = none ∧
      Message.read direction p.messageId p.payload = .ok message ∧ ⟨p.address, message⟩ = e := by
  constructor
  · intro h
    obtain ⟨header, hheader, hpacket⟩ := ok_of_bind h
    dsimp only at hpacket
    split at hpacket
    · cases hpacket
    next hlength =>
    rw [ofPacket] at hpacket
    split at hpacket
    · cases hpacket
    next direction hdirection =>
    obtain ⟨p, hp, hpacket⟩ := ok_of_bind hpacket
    split at hpacket
    · cases hpacket
    next hown =>
    obtain ⟨message, hmessage, hpacket⟩ := ok_of_bind hpacket
    exact ⟨header, direction, p, message, hheader, Decidable.not_not.mp hlength, hdirection, hp,
      hown, hmessage, Except.ok.inj hpacket⟩
  · rintro ⟨header, direction, p, message, hheader, hlength, hdirection, hp, hown, hmessage, rfl⟩
    have hpacket : ofPacket own header (frame.drop PacketHeader.size) =
        .ok ⟨p.address, message⟩ := by
      rw [ofPacket, hdirection]
      show (do let p ← Packet.ofWire direction (frame.drop PacketHeader.size); _) = _
      rw [hp]
      show (match otherDestination? own p with | some e => _ | none => _) = _
      rw [hown]
      show (do let m ← Message.read direction p.messageId p.payload; _) = _
      rw [hmessage]
      rfl
    rw [parse, hheader]
    show ite _ _ _ = _
    rw [if_neg (Decidable.not_not.mpr hlength), hpacket]

namespace Message

/-- Bytes of the packet of a message. -/
def packetLength (m : Message) : Nat :=
  m.direction.minPacketLength + m.bodyLength

/-- What the packet of a message is made of. -/
theorem pack_of_fits {m : Message} {address : Address} (h : address.fits m.direction = true)
    (hm : m.entryCount ≤ 255 ∧ m.blobLength ≤ 65535) :
    ∃ payload, m.pack address = .ok ⟨m.direction, m.id, address, payload⟩ ∧
      payload.length = m.bodyLength ∧ read m.direction m.id payload = .ok m := by
  obtain ⟨payload, hwrite, hlength, hread⟩ := m.transfers.written hm
  refine ⟨payload, ?_, hlength, ?_⟩
  · rw [pack, if_pos h, hwrite]
    rfl
  · have hback := hread []
    rwa [List.append_nil] at hback

theorem pack_of_not_fits {m : Message} {address : Address}
    (h : ¬ (address.fits m.direction = true ∧ m.entryCount ≤ 255 ∧ m.blobLength ≤ 65535)) :
    ∃ e, m.pack address = .error e := by
  by_cases haddress : address.fits m.direction = true
  · obtain ⟨e, he⟩ := m.transfers.refused fun hm => h ⟨haddress, hm⟩
    refine ⟨e, ?_⟩
    rw [pack, if_pos haddress, he]
    rfl
  · exact ⟨_, if_neg haddress⟩

/-- A message that fits is appended as the frame of a packet, which every
receiver that it is meant for reads as the address and the message. -/
theorem writeFrame_of_fits {m : Message} {address : Address}
    (h : address.fits m.direction = true) (hm : m.entryCount ≤ 255 ∧ m.blobLength ≤ 65535)
    (hlength : m.packetLength ≤ 65535) :
    ∃ p : Packet, p.direction = m.direction ∧ p.address = address ∧
      p.framed.length = PacketHeader.size + m.packetLength ∧
      (∀ own, Envelope.parse own p.framed =
        match Envelope.otherDestination? own p with
        | some e => .error e
        | none => .ok ⟨address, m⟩) ∧
      ∀ buffer, m.writeFrame address buffer = (.ok (), buffer ++ p.framed) := by
  obtain ⟨payload, hpack, hpayload, hread⟩ := pack_of_fits h hm
  have hp : (Packet.mk m.direction m.id address payload).length = m.packetLength := by
    rw [Packet.length, hpayload, packetLength]
  have hmax : (Packet.mk m.direction m.id address payload).length ≤ Packet.maxLength := by
    rw [hp]
    exact hlength
  refine ⟨⟨m.direction, m.id, address, payload⟩, rfl, rfl, ?_, ?_, ?_⟩
  · rw [Packet.length_framed h, hp]
  · intro own
    rw [Envelope.parse_framed h hmax, hread]
    rfl
  · intro buffer
    rw [writeFrame, hpack]
    exact Packet.writeFrame_of_le h hmax buffer

/-- A message that does not fit leaves the buffer alone. -/
theorem writeFrame_of_not_fits {m : Message} {address : Address}
    (h : ¬ (address.fits m.direction = true ∧ m.entryCount ≤ 255 ∧ m.blobLength ≤ 65535 ∧
      m.packetLength ≤ 65535)) (buffer : Bytes) :
    ∃ e, m.writeFrame address buffer = (.error e, buffer) := by
  by_cases hpack : address.fits m.direction = true ∧ m.entryCount ≤ 255 ∧ m.blobLength ≤ 65535
  · obtain ⟨payload, hp, hpayload, -⟩ := pack_of_fits hpack.1 hpack.2
    have hlong : Packet.maxLength < (Packet.mk m.direction m.id address payload).length := by
      rw [Packet.length, hpayload]
      apply Nat.lt_of_not_le
      intro hlength
      exact h ⟨hpack.1, hpack.2.1, hpack.2.2, hlength⟩
    have hwrite := Packet.writeFrame_of_lt hpack.1 hlong buffer
    rw [writeFrame, hp]
    exact ⟨_, hwrite⟩
  · obtain ⟨e, he⟩ := pack_of_not_fits hpack
    exact ⟨e, by rw [writeFrame, he]⟩

/-- Writing a message as a frame succeeds exactly when the address has the form
of the direction and list, data and packet fit their length fields. What is then
appended is read as this address and this message; otherwise nothing is
appended. -/
theorem writeFrame_roundTrip (m : Message) (address : Address) (buffer : Bytes) :
    ((m.writeFrame address buffer).1.isOk = true ↔
      address.fits m.direction = true ∧ m.entryCount ≤ 255 ∧ m.blobLength ≤ 65535 ∧
        m.packetLength ≤ 65535) ∧
    (∀ after, m.writeFrame address buffer = (.ok (), after) →
      ∃ frame, after = buffer ++ frame ∧ frame.length = PacketHeader.size + m.packetLength ∧
        Envelope.parse none frame = .ok ⟨address, m⟩) ∧
    ∀ e after, m.writeFrame address buffer = (.error e, after) → after = buffer := by
  by_cases h : address.fits m.direction = true ∧ m.entryCount ≤ 255 ∧ m.blobLength ≤ 65535 ∧
      m.packetLength ≤ 65535
  · obtain ⟨p, -, -, hframe, hparse, hwrite⟩ := writeFrame_of_fits h.1 ⟨h.2.1, h.2.2.1⟩ h.2.2.2
    rw [hwrite]
    refine ⟨?_, ?_, ?_⟩
    · exact iff_of_true rfl h
    · intro after hafter
      refine ⟨p.framed, (Prod.mk.inj hafter).2.symm, hframe, ?_⟩
      rw [hparse, Envelope.otherDestination?_none]
    · intro e after hafter
      cases (Prod.mk.inj hafter).1
  · obtain ⟨e, he⟩ := writeFrame_of_not_fits h buffer
    rw [he]
    refine ⟨?_, ?_, ?_⟩
    · exact iff_of_false Bool.false_ne_true h
    · intro after hafter
      cases (Prod.mk.inj hafter).1
    · intro e' after hafter
      exact (Prod.mk.inj hafter).2.symm

/-- The frame of a message that fits. -/
theorem frame_of_fits {m : Message} {address : Address} (h : address.fits m.direction = true)
    (hm : m.entryCount ≤ 255 ∧ m.blobLength ≤ 65535) (hlength : m.packetLength ≤ 65535) :
    ∃ p : Packet, p.direction = m.direction ∧ p.address = address ∧
      p.framed.length = PacketHeader.size + m.packetLength ∧ m.frame address = .ok p.framed ∧
      ∀ own, Envelope.parse own p.framed =
        match Envelope.otherDestination? own p with
        | some e => .error e
        | none => .ok ⟨address, m⟩ := by
  obtain ⟨p, hdirection, haddress, hframe, hparse, hwrite⟩ := writeFrame_of_fits h hm hlength
  refine ⟨p, hdirection, haddress, hframe, ?_, hparse⟩
  rw [frame, hwrite]
  rfl

end Message

end HarnessLink
