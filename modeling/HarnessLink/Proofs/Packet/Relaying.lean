import HarnessLink.Proofs.Packet.Canonical
import HarnessLink.Proofs.Packet.Grammar

/-!
# Reports that are written again

A report of a slave that is read and written again loses what its reader does not look at: the
index and the flag of the header, and bytes behind the last field of the body, of which the
header then no longer tells. Nothing else changes, so a report without these comes out as it was.
-/
namespace HarnessLink

/-! ## Bodies -/

/-- A body of a report is written as the fields that were read. -/
theorem SlaveToBackend.write_of_read {id : UInt8} {body : Bytes} {m : SlaveToBackend}
    (h : read id body = .ok m) :
    m.id = id ∧ ∃ shape, Shape.of? .slaveToBackend id = some shape ∧
      m.write = .ok (body.take (shape.demand body)) := by
  obtain ⟨hid, -, hwrite⟩ := rewritten h
  rw [Layout.settle_plain] at hwrite
  suffices hshape : ∃ shape, Shape.of? .slaveToBackend id = some shape ∧
      shape.demand body = m.bodyLength by
    obtain ⟨shape, hof, hdemand⟩ := hshape
    exact ⟨hid, shape, hof, by rw [hwrite, hdemand]⟩
  unfold read at h
  split_ifs at h with h0 h1 h2
  all_goals
    try subst id
    obtain ⟨data, hdata, rfl⟩ := ok_of_map h
  · refine ⟨Shape.upload, rfl, ?_⟩
    exact ((Layout.blob_restores _).demand_eq (Layout.blob_takes _) hdata).trans
      List.length_replicate
  · refine ⟨Shape.upload, rfl, ?_⟩
    exact ((Layout.blob_restores _).demand_eq (Layout.blob_takes _) hdata).trans
      List.length_replicate
  · refine ⟨_, rfl, ?_⟩
    exact Layout.u16_restores.demand_eq Layout.u16_takes hdata

/-! ## Frames -/

namespace Report

open FrameCheck

/-- The bytes that the body of a report calls for. -/
def called (frame : Bytes) : Nat :=
  ((Shape.of? .slaveToBackend (idOf frame)).map fun shape =>
    shape.demand (bodyOf .slaveToBackend frame)).getD 0

/-- The packet of a report up to its last field. -/
def packet (frame : Bytes) : Bytes :=
  (packetOf frame).take (Direction.slaveToBackend.minPacketLength + called frame)

/-- A report as it is written again. -/
def relayed (frame : Bytes) : Bytes :=
  PacketHeader.wire ⟨Direction.slaveToBackend.code, 0, false,
    UInt16.ofNat (packet frame).length⟩ ++ packet frame

/-- A report that a receiver takes. -/
structure Read (frame : Bytes) (e : Envelope) : Prop where
  parse : Envelope.parse none frame = .ok e
  direction : e.message.direction = .slaveToBackend

section Read

variable {bytes : Bytes} {e : Envelope}

theorem Read.checks (h : Read bytes e) (check : FrameCheck) : check.Holds none bytes :=
  parse_ok_iff.mp ⟨e, h.parse⟩ check

/-- What a report is made of, and how its body is written. -/
theorem Read.parts (h : Read bytes e) :
    direction? bytes = some .slaveToBackend ∧ called bytes ≤ (bodyOf .slaveToBackend bytes).length ∧
      ∃ m, e = ⟨addressOf .slaveToBackend bytes, .slaveToBackend m⟩ ∧ m.id = idOf bytes ∧
        m.write = .ok ((bodyOf .slaveToBackend bytes).take (called bytes)) := by
  obtain ⟨header, direction, p, message, hheader, -, hcode, hp, -, hmessage, rfl⟩ :=
    Envelope.parse_eq_ok_iff.mp h.parse
  have hdelimiter : bytes.getD 0 0 = 0xAB ∧ bytes.getD 1 0 = 0xCD := h.checks .delimiter
  have hkind : header.kind = bytes.getD 2 0 := by
    rw [read_of_header (h.checks .header), if_pos hdelimiter] at hheader
    rw [← Except.ok.inj hheader]
  have hdirection : direction? bytes = some direction := by rw [direction?, ← hkind, hcode]
  have hpacket := ofWire_packetOf (h.checks .packet direction hdirection)
  obtain rfl := Except.ok.inj (hpacket.symm.trans hp)
  have hsame : message.direction = .slaveToBackend := h.direction
  unfold Message.read at hmessage
  split at hmessage <;> obtain ⟨m, hm, rfl⟩ := ok_of_map hmessage <;> cases hsame
  obtain ⟨hid, shape, hshape, hwrite⟩ := SlaveToBackend.write_of_read hm
  have hcalled : called bytes = shape.demand (bodyOf .slaveToBackend bytes) := by
    simp [called, hshape]
  rw [hcalled]
  exact ⟨hdirection, h.checks .body _ hdirection shape hshape, m, rfl, hid, hwrite⟩

/-- The packet of a report, taken apart. -/
theorem Read.packetOf_eq (h : Read bytes e) :
    packetOf bytes = idOf bytes :: (addressOf .slaveToBackend bytes).wire ++
      bodyOf .slaveToBackend bytes := by
  obtain ⟨hdirection, -⟩ := h.parts
  exact (Packet.wire_of_ofWire (ofWire_packetOf (h.checks .packet _ hdirection))).symm

/-- The packet that a report is written as. -/
theorem Read.pack (h : Read bytes e) :
    ∃ p : Packet, e.message.pack e.address = .ok p ∧ p.direction = .slaveToBackend ∧
      p.address.fits p.direction = true ∧ p.length ≤ Packet.maxLength ∧
      p.framed = relayed bytes := by
  obtain ⟨hdirection, hcalled, m, rfl, hid, hwrite⟩ := h.parts
  let p : Packet := ⟨.slaveToBackend, idOf bytes, addressOf .slaveToBackend bytes,
    (bodyOf .slaveToBackend bytes).take (called bytes)⟩
  have hfits : p.address.fits p.direction = true := rfl
  have hwire : p.wire = packet bytes := by
    have hfront : Direction.slaveToBackend.minPacketLength =
        (idOf bytes :: (addressOf .slaveToBackend bytes).wire).length := rfl
    rw [packet, h.packetOf_eq, hfront, List.take_length_add_append]
    rfl
  have hlength : p.length = (packet bytes).length := by rw [← Packet.length_wire hfits, hwire]
  refine ⟨p, ?_, rfl, hfits, ?_, ?_⟩
  · have hpack : (Message.slaveToBackend m).pack (addressOf .slaveToBackend bytes) =
        m.write.map fun payload => ⟨.slaveToBackend, m.id, addressOf .slaveToBackend bytes,
          payload⟩ := rfl
    rw [hpack, hwrite, hid]
    rfl
  · have htake : (packet bytes).length ≤ (packetOf bytes).length := List.length_take_le' ..
    have hframe : bytes.length = 7 + declared bytes := h.checks .length
    have hword : declared bytes ≤ 65535 := Nat.le_of_lt_succ (UInt16.toNat_lt _)
    have hpacket : (packetOf bytes).length = bytes.length - 7 := List.length_drop
    rw [hlength, Packet.maxLength]
    omega
  · rw [Packet.framed, hwire, hlength]
    rfl

/-- A report is written again without what its reader does not look at. -/
theorem Read.frame_eq (h : Read bytes e) : e.message.frame e.address = .ok (relayed bytes) := by
  obtain ⟨p, hpack, -, hfits, hlength, hframed⟩ := h.pack
  rw [Message.frame, Message.writeFrame, hpack]
  simp only [Packet.writeFrame_of_le hfits hlength, hframed]
  rfl

/-- What is written again is read as the same. -/
theorem Read.relayed (h : Read bytes e) : Read (relayed bytes) e := by
  obtain ⟨p, hpack, -, -, hlength, hframed⟩ := h.pack
  refine ⟨?_, h.direction⟩
  rw [← hframed]
  exact Message.parse_of_pack hpack hlength (Envelope.otherDestination?_none p)

/-- Nothing is lost of a report that has nothing that its reader does not look at. -/
theorem Read.relayed_eq_iff (h : Read bytes e) :
    Report.relayed bytes = bytes ↔ bytes.getD 3 0 = 0 ∧ bytes.getD 4 0 = 0 ∧
      (bodyOf .slaveToBackend bytes).length = called bytes := by
  have hheader : 7 ≤ bytes.length := h.checks .header
  have hdelimiter : bytes.getD 0 0 = 0xAB ∧ bytes.getD 1 0 = 0xCD := h.checks .delimiter
  have hframe : bytes.length = 7 + declared bytes := h.checks .length
  obtain ⟨hdirection, hcalled, -⟩ := h.parts
  have hminimum := h.checks .packet _ hdirection
  have hbody : (bodyOf .slaveToBackend bytes).length =
      (packetOf bytes).length - Direction.slaveToBackend.minPacketLength := List.length_drop
  match bytes with
  | a :: b :: kind :: index :: flag :: l0 :: l1 :: rest =>
    obtain ⟨rfl, rfl⟩ : a = 0xAB ∧ b = 0xCD := hdelimiter
    obtain rfl : Direction.slaveToBackend.code = kind := Direction.code_of_ofCode? hdirection
    have hlength : rest.length = (Word.ofLe16 l0 l1).toNat := by
      have h : rest.length + 7 = 7 + (Word.ofLe16 l0 l1).toNat := hframe
      omega
    constructor
    · intro heq
      have hindex : 0 = index := congrArg (fun bytes => bytes.getD 3 0) heq
      have hflag : 0 = flag := congrArg (fun bytes => bytes.getD 4 0) heq
      have hpacket : packet (0xAB :: 0xCD :: Direction.slaveToBackend.code :: index :: flag ::
          l0 :: l1 :: rest) = rest := congrArg (List.drop 7) heq
      have htake := congrArg List.length hpacket
      rw [packet, List.length_take] at htake
      have hrest : rest.length = (packetOf (0xAB :: 0xCD :: Direction.slaveToBackend.code ::
        index :: flag :: l0 :: l1 :: rest)).length := rfl
      exact ⟨hindex.symm, hflag.symm, by omega⟩
    · rintro ⟨hindex, hflag, hsame⟩
      obtain ⟨rfl, rfl⟩ : index = 0 ∧ flag = 0 := ⟨hindex, hflag⟩
      have hwhole : packet (0xAB :: 0xCD :: Direction.slaveToBackend.code :: 0 :: 0 :: l0 :: l1 ::
          rest) = rest := List.take_of_length_le (by omega)
      rw [Report.relayed, hwhole, hlength, UInt16.ofNat_toNat, PacketHeader.wire, Word.le16_ofLe16]
      rfl

end Read

end Report

end HarnessLink
