import HarnessLink.Proofs.Packet.Demands
import HarnessLink.Proofs.Packet.RoundTrip

/-!
# Which frames are read

A frame passes eight checks, from its header inwards to its body, or is refused for the first of
them that fails. Each check is said on the bytes of the frame alone. The two bytes of the header
that nobody uses and bytes behind what the body calls for take part in none of them, and a
receiver with an id of its own refuses no other frames than orders to another device.
-/
namespace HarnessLink

/-- The checks that a frame has to pass, in their order. -/
inductive FrameCheck where
  | header
  | delimiter
  | length
  | direction
  | packet
  | destination
  | message
  | body
  deriving DecidableEq

namespace FrameCheck

/-- The checks of the frame around the packet. -/
def framing : List FrameCheck := [header, delimiter, length]

/-- The checks before the destination. -/
def outer : List FrameCheck := framing ++ [direction, packet]

def all : List FrameCheck := outer ++ [destination, message, body]

/-! ## Where things stand in a frame -/

/-- The direction that the kind byte names. -/
def direction? (frame : Bytes) : Option Direction := Direction.ofCode? (frame.getD 2 0)

/-- The length that the header tells. -/
def declared (frame : Bytes) : Nat := (Word.ofLe16 (frame.getD 5 0) (frame.getD 6 0)).toNat

def packetOf (frame : Bytes) : Bytes := frame.drop 7

def idOf (frame : Bytes) : UInt8 := (packetOf frame).getD 0 0

/-- The device that the packet is for, behind the id. -/
def destinationOf (frame : Bytes) : DeviceId :=
  .ofWire ((packetOf frame).getD 1 0) ((packetOf frame).getD 2 0) ((packetOf frame).getD 3 0)
    ((packetOf frame).getD 4 0)

def bodyOf (direction : Direction) (frame : Bytes) : Bytes :=
  (packetOf frame).drop direction.minPacketLength

/-! ## Checks -/

/-- A frame passes a check. What stands in a packet is checked under the direction of the
frame. -/
def Holds (own : Option DeviceId) (frame : Bytes) : FrameCheck → Prop
  | header => 7 ≤ frame.length
  | delimiter => frame.getD 0 0 = 0xAB ∧ frame.getD 1 0 = 0xCD
  | length => frame.length = 7 + declared frame
  | direction => (direction? frame).isSome = true
  | packet => ∀ d ∈ direction? frame, d.minPacketLength ≤ (packetOf frame).length
  | destination => direction? frame = some .masterToSlave →
    ∀ id ∈ own, destinationOf frame = id ∨ (destinationOf frame).isBroadcast = true
  | message => ∀ d ∈ direction? frame, (Shape.of? d (idOf frame)).isSome = true
  | body => ∀ d ∈ direction? frame, ∀ shape ∈ Shape.of? d (idOf frame),
    shape.demand (bodyOf d frame) ≤ (bodyOf d frame).length

/-- What is said of a frame that fails a check. -/
def fault? (own : Option DeviceId) (frame : Bytes) : FrameCheck → Option PacketError
  | header => if 7 ≤ frame.length then none else some (.truncatedHeader frame.length)
  | delimiter =>
    if frame.getD 0 0 = 0xAB ∧ frame.getD 1 0 = 0xCD then none
    else some (.badDelimiter (frame.getD 0 0) (frame.getD 1 0))
  | length =>
    if frame.length = 7 + declared frame then none
    else some (.lengthMismatch (declared frame) (packetOf frame).length)
  | direction =>
    if (direction? frame).isSome then none else some (.unknownDirection (frame.getD 2 0))
  | packet => do
    let d ← direction? frame
    if d.minPacketLength ≤ (packetOf frame).length then none
    else some (.format d (packetOf frame).length)
  | destination => do
    let id ← own
    if direction? frame = some .masterToSlave then
      if destinationOf frame = id ∨ (destinationOf frame).isBroadcast = true then none
      else some (.addressMismatch (destinationOf frame) id)
    else none
  | message => do
    let d ← direction? frame
    if (Shape.of? d (idOf frame)).isSome then none else some (.unknownMessage d (idOf frame))
  | body => do
    let d ← direction? frame
    let shape ← Shape.of? d (idOf frame)
    let s ← shape.shortfall? (bodyOf d frame)
    some (.truncated shape.name s.needed s.available)

/-- The fault of the first check that fails. -/
def firstFault? (own : Option DeviceId) (frame : Bytes) : Option PacketError :=
  all.findSome? (fault? own frame)

/-- A check has a fault exactly for the frames that fail it. -/
theorem fault?_eq_none_iff {own : Option DeviceId} {frame : Bytes} {check : FrameCheck} :
    check.fault? own frame = none ↔ check.Holds own frame := by
  cases check with
  | header => simp [fault?, Holds]
  | delimiter => simp [fault?, Holds]
  | length => simp [fault?, Holds]
  | direction => cases hd : direction? frame <;> simp [fault?, Holds, hd]
  | packet => cases hd : direction? frame <;> simp [fault?, Holds, hd]
  | destination => cases own <;> simp [fault?, Holds, Decidable.or_iff_not_imp_left]
  | message =>
    cases hd : direction? frame <;> simp [fault?, Holds, hd, Option.isSome_iff_ne_none]
  | body =>
    cases hd : direction? frame with
    | none => simp [fault?, Holds, hd]
    | some d =>
      cases hs : Shape.of? d (idOf frame) with
      | none => simp [fault?, Holds, hd, hs]
      | some shape =>
        simp only [Holds, hd, hs, Option.mem_some_iff, forall_eq', ← Shape.shortfall?_eq_none_iff]
        cases hshort : shape.shortfall? (bodyOf d frame) <;> simp [fault?, hd, hs, hshort]

/-- No check finds a fault exactly when all of them hold. -/
theorem firstFault?_eq_none_iff {own : Option DeviceId} {frame : Bytes} :
    firstFault? own frame = none ↔ ∀ check : FrameCheck, check.Holds own frame := by
  simp only [firstFault?, List.findSome?_eq_none_iff, fault?_eq_none_iff]
  refine ⟨fun h check => h check ?_, fun h check _ => h check⟩
  cases check <;> decide

/-! ## What a receiver makes of a frame -/

/-- The address at the front of a packet, behind the id. -/
def addressOf (direction : Direction) (frame : Bytes) : Address :=
  match direction with
  | .backendToMaster | .masterToBackend => .none
  | .masterToSlave | .slaveToMaster => .device (destinationOf frame)
  | .slaveToBackend => .slave (destinationOf frame)
    ⟨Word.ofLe16 ((packetOf frame).getD 5 0) ((packetOf frame).getD 6 0)⟩

theorem ofWire_of_short {direction : Direction} {bytes : Bytes}
    (h : bytes.length < direction.minPacketLength) :
    Packet.ofWire direction bytes = .error (.format direction bytes.length) := by
  unfold Packet.ofWire
  split
  all_goals first
    | rfl
    | (simp [Direction.minPacketLength, Direction.addressLength] at h
       try omega)

theorem ofWire_packetOf {direction : Direction} {frame : Bytes}
    (h : direction.minPacketLength ≤ (packetOf frame).length) :
    Packet.ofWire direction (packetOf frame) =
      .ok ⟨direction, idOf frame, addressOf direction frame, bodyOf direction frame⟩ := by
  simp only [idOf, addressOf, destinationOf, bodyOf]
  generalize packetOf frame = bytes at h
  match direction, bytes with
  | .backendToMaster, _ :: _ | .masterToBackend, _ :: _ => rfl
  | .masterToSlave, _ :: _ :: _ :: _ :: _ :: _ | .slaveToMaster, _ :: _ :: _ :: _ :: _ :: _ => rfl
  | .slaveToBackend, _ :: _ :: _ :: _ :: _ :: _ :: _ :: _ => rfl

/-- The fault in what a receiver tells of a frame. -/
def told? : Except PacketError Envelope → Option PacketError
  | .ok _ => none
  | .error e => some e

theorem told?_eq_some_iff {r : Except PacketError Envelope} {e : PacketError} :
    told? r = some e ↔ r = .error e := by
  cases r <;> simp [told?]

theorem told?_eq_none_iff {r : Except PacketError Envelope} :
    told? r = none ↔ ∃ e, r = .ok e := by
  cases r <;> simp [told?]

/-- A receiver leaves a packet to another device exactly when the check of the destination
fails. -/
theorem otherDestination?_eq {own : Option DeviceId} {frame : Bytes} {direction : Direction}
    (hd : direction? frame = some direction) (body : Bytes) :
    Envelope.otherDestination? own ⟨direction, idOf frame, addressOf direction frame, body⟩ =
      destination.fault? own frame := by
  cases own <;> cases direction <;>
    simp [Envelope.otherDestination?, addressOf, Address.id?, fault?, hd]

/-- What is told of a body. -/
theorem told?_read (own : Option DeviceId) {frame : Bytes} {direction : Direction}
    (hd : direction? frame = some direction) (address : Address) :
    told? ((Message.read direction (idOf frame) (bodyOf direction frame)).map
        fun m => ⟨address, m⟩) =
      [message, body].findSome? (fault? own frame) := by
  have hrules := Message.rules direction (idOf frame)
  cases hs : Shape.of? direction (idOf frame) with
  | none =>
    have hmessage : message.fault? own frame = some (.unknownMessage direction (idOf frame)) := by
      simp [fault?, hd, hs]
    simp only [Shape.Rules, hs] at hrules
    rw [hrules, List.findSome?_cons, hmessage]
    rfl
  | some shape =>
    have hmessage : message.fault? own frame = none := by simp [fault?, hd, hs]
    simp only [Shape.Rules, hs] at hrules
    rw [List.findSome?_cons, hmessage]
    cases hshort : shape.shortfall? (bodyOf direction frame) with
    | some s =>
      rw [hrules.short hshort]
      simp [told?, Except.map, fault?, hd, hs, hshort]
    | none =>
      obtain ⟨m, hm⟩ := hrules.whole hshort
      have hread := hm []
      rw [List.append_nil] at hread
      rw [hread]
      simp [told?, Except.map, fault?, hd, hs, hshort]

/-- A packet to another device is refused, whatever its message. -/
theorem ofPacket_of_other {own : Option DeviceId} {header : PacketHeader} {bytes : Bytes}
    {direction : Direction} {p : Packet} {e : PacketError}
    (hd : Direction.ofCode? header.kind = some direction)
    (hp : Packet.ofWire direction bytes = .ok p)
    (h : Envelope.otherDestination? own p = some e) :
    Envelope.ofPacket own header bytes = .error e := by
  simp only [Envelope.ofPacket, hd, hp, bind, Except.bind, h]
  rfl

/-- A packet that is not to another device is read for its message. -/
theorem ofPacket_of_own {own : Option DeviceId} {header : PacketHeader} {bytes : Bytes}
    {direction : Direction} {p : Packet}
    (hd : Direction.ofCode? header.kind = some direction)
    (hp : Packet.ofWire direction bytes = .ok p)
    (h : Envelope.otherDestination? own p = none) :
    Envelope.ofPacket own header bytes =
      (Message.read direction p.messageId p.payload).map fun m => ⟨p.address, m⟩ := by
  simp only [Envelope.ofPacket, hd, hp, bind, Except.bind, h]
  cases Message.read direction p.messageId p.payload <;> rfl

/-- What is told of a packet. -/
theorem told?_ofPacket (own : Option DeviceId) {frame : Bytes} {header : PacketHeader}
    (hkind : header.kind = frame.getD 2 0) :
    told? (Envelope.ofPacket own header (packetOf frame)) =
      [direction, packet, destination, message, body].findSome? (fault? own frame) := by
  have hcode : Direction.ofCode? header.kind = direction? frame := by rw [hkind, direction?]
  cases hd : direction? frame with
  | none =>
    simp only [Envelope.ofPacket, hcode, hd]
    simp [told?, fault?, hd, hkind]
  | some d =>
    have hdirection : direction.fault? own frame = none := by simp [fault?, hd]
    rw [List.findSome?_cons, hdirection]
    by_cases hlength : d.minPacketLength ≤ (packetOf frame).length
    · have hpacket : packet.fault? own frame = none := by simp [fault?, hd, hlength]
      rw [List.findSome?_cons, hpacket, List.findSome?_cons,
        ← otherDestination?_eq hd (bodyOf d frame), ← told?_read own hd (addressOf d frame)]
      cases hother : Envelope.otherDestination? own
          ⟨d, idOf frame, addressOf d frame, bodyOf d frame⟩ with
      | some e =>
        rw [ofPacket_of_other (hcode.trans hd) (ofWire_packetOf hlength) hother]
        rfl
      | none => rw [ofPacket_of_own (hcode.trans hd) (ofWire_packetOf hlength) hother]
    · have hpacket : packet.fault? own frame = some (.format d (packetOf frame).length) := by
        simp [fault?, hd, hlength]
      simp only [Envelope.ofPacket, hcode, hd]
      rw [ofWire_of_short (Nat.lt_of_not_le hlength), List.findSome?_cons, hpacket]
      rfl

theorem read_of_short {frame : Bytes} (h : ¬ 7 ≤ frame.length) :
    PacketHeader.read frame = .error (.truncatedHeader frame.length) := by
  match frame with
  | [] | [_] | [_, _] | [_, _, _] | [_, _, _, _] | [_, _, _, _, _] | [_, _, _, _, _, _] => rfl
  | _ :: _ :: _ :: _ :: _ :: _ :: _ :: _ => simp at h

theorem read_of_header {frame : Bytes} (h : 7 ≤ frame.length) :
    PacketHeader.read frame =
      if frame.getD 0 0 = 0xAB ∧ frame.getD 1 0 = 0xCD then
        .ok ⟨frame.getD 2 0, frame.getD 3 0, frame.getD 4 0 ≠ 0,
          Word.ofLe16 (frame.getD 5 0) (frame.getD 6 0)⟩
      else .error (.badDelimiter (frame.getD 0 0) (frame.getD 1 0)) := by
  match frame with
  | _ :: _ :: _ :: _ :: _ :: _ :: _ :: _ => rfl

/-- What is told of a frame is the fault of the first check that fails. -/
theorem told?_parse (own : Option DeviceId) (frame : Bytes) :
    told? (Envelope.parse own frame) = firstFault? own frame := by
  show _ = List.findSome? _
    (header :: delimiter :: length :: [direction, packet, destination, message, body])
  rw [List.findSome?_cons]
  by_cases hheader : 7 ≤ frame.length
  · have hfault : header.fault? own frame = none := if_pos hheader
    rw [hfault, List.findSome?_cons, Envelope.parse, read_of_header hheader]
    by_cases hdelimiter : frame.getD 0 0 = 0xAB ∧ frame.getD 1 0 = 0xCD
    · have hfault : delimiter.fault? own frame = none := if_pos hdelimiter
      rw [if_pos hdelimiter, hfault, List.findSome?_cons]
      show told? (if (packetOf frame).length ≠ declared frame then _ else _) = _
      have hpacket : (packetOf frame).length = frame.length - 7 := List.length_drop
      by_cases hlength : frame.length = 7 + declared frame
      · have hfault : length.fault? own frame = none := if_pos hlength
        rw [if_neg (by omega), hfault]
        exact told?_ofPacket own rfl
      · have hfault : length.fault? own frame =
            some (.lengthMismatch (declared frame) (packetOf frame).length) := if_neg hlength
        rw [if_pos (by omega), hfault]
        rfl
    · have hfault : delimiter.fault? own frame =
          some (.badDelimiter (frame.getD 0 0) (frame.getD 1 0)) := if_neg hdelimiter
      rw [if_neg hdelimiter, hfault]
      rfl
  · have hfault : header.fault? own frame = some (.truncatedHeader frame.length) := if_neg hheader
    rw [hfault, Envelope.parse, read_of_short hheader]
    rfl

theorem parse_eq_error_iff {own : Option DeviceId} {frame : Bytes} {e : PacketError} :
    Envelope.parse own frame = .error e ↔ firstFault? own frame = some e := by
  rw [← told?_parse, told?_eq_some_iff]

theorem parse_ok_iff {own : Option DeviceId} {frame : Bytes} :
    (∃ e, Envelope.parse own frame = .ok e) ↔ ∀ check : FrameCheck, check.Holds own frame := by
  rw [← firstFault?_eq_none_iff, ← told?_parse, told?_eq_none_iff]

/-- Faults of the first three checks, and no others, are faults of the frame around the packet. -/
theorem isFraming_of_fault? {own : Option DeviceId} {frame : Bytes} {check : FrameCheck}
    {e : PacketError} (h : check.fault? own frame = some e) :
    e.isFraming = true ↔ check ∈ framing := by
  cases check with
  | header | delimiter | length | direction =>
    simp only [fault?, Option.ite_none_left_eq_some, Option.some.injEq] at h
    simp [← h.2, PacketError.isFraming, framing]
  | packet | message =>
    obtain ⟨d, -, h⟩ := Option.bind_eq_some_iff.mp h
    simp only [Option.ite_none_left_eq_some, Option.some.injEq] at h
    simp [← h.2, PacketError.isFraming, framing]
  | destination =>
    obtain ⟨id, -, h⟩ := Option.bind_eq_some_iff.mp h
    simp only [Option.ite_none_left_eq_some, Option.ite_none_right_eq_some,
      Option.some.injEq] at h
    simp [← h.2.2, PacketError.isFraming, framing]
  | body =>
    obtain ⟨d, -, h⟩ := Option.bind_eq_some_iff.mp h
    obtain ⟨shape, -, h⟩ := Option.bind_eq_some_iff.mp h
    obtain ⟨s, -, h⟩ := Option.bind_eq_some_iff.mp h
    simp [← Option.some.inj h, PacketError.isFraming, framing]

theorem isFraming_iff {own : Option DeviceId} {frame : Bytes} {e : PacketError}
    (h : firstFault? own frame = some e) :
    e.isFraming = true ↔ ∃ check ∈ framing, ¬ check.Holds own frame := by
  rw [firstFault?, all, outer, List.append_assoc, List.findSome?_append] at h
  cases hframing : framing.findSome? (fault? own frame) with
  | some e' =>
    obtain ⟨check, hcheck, hfault⟩ := List.exists_of_findSome?_eq_some hframing
    rw [hframing, Option.some_or, Option.some.injEq] at h
    subst h
    refine iff_of_true ((isFraming_of_fault? hfault).mpr hcheck) ⟨check, hcheck, ?_⟩
    rw [← fault?_eq_none_iff, hfault]
    exact Option.some_ne_none _
  | none =>
    rw [hframing, Option.none_or] at h
    obtain ⟨check, hcheck, hfault⟩ := List.exists_of_findSome?_eq_some h
    rw [isFraming_of_fault? hfault]
    refine iff_of_false ?_ ?_
    · clear hfault
      revert check
      decide
    · rintro ⟨check, hcheck, hfails⟩
      exact hfails (fault?_eq_none_iff.mp (List.findSome?_eq_none_iff.mp hframing check hcheck))

/-! ## What changes nothing -/

/-- The index and the flag of the header take part in nothing. -/
theorem parse_set (own : Option DeviceId) (frame : Bytes) (index flag : UInt8) :
    Envelope.parse own ((frame.set 3 index).set 4 flag) = Envelope.parse own frame := by
  by_cases hheader : 7 ≤ frame.length
  · match frame with
    | a :: b :: _ :: _ :: _ :: _ :: _ :: _ =>
      by_cases hdelimiter : a = 0xAB ∧ b = 0xCD
      · simp only [List.set_cons_succ, List.set_cons_zero, Envelope.parse, PacketHeader.read,
          hdelimiter, and_self, if_true]
        rfl
      · simp only [List.set_cons_succ, List.set_cons_zero, Envelope.parse, PacketHeader.read,
          hdelimiter, if_false]
        rfl
  · have hset : ¬ 7 ≤ ((frame.set 3 index).set 4 flag).length := by simpa using hheader
    simp only [Envelope.parse, read_of_short hheader, read_of_short hset, List.length_set]
    rfl

/-- The frame with more bytes at its end, of which the header tells. -/
def withSurplus (frame surplus : Bytes) : Bytes :=
  frame.take 5 ++ Word.le16 (UInt16.ofNat (declared frame + surplus.length)) ++ packetOf frame ++
    surplus

/-- Bytes behind what a body calls for are not read. -/
theorem read_append {direction : Direction} {id : UInt8} {body : Bytes}
    (h : ∀ shape ∈ Shape.of? direction id, shape.demand body ≤ body.length) (more : Bytes) :
    Message.read direction id (body ++ more) = Message.read direction id body := by
  have hrules := Message.rules direction id
  cases hs : Shape.of? direction id with
  | none =>
    simp only [Shape.Rules, hs] at hrules
    rw [hrules, hrules]
  | some shape =>
    simp only [Shape.Rules, hs] at hrules
    obtain ⟨m, hm⟩ := hrules.whole (Shape.shortfall?_eq_none_iff.mpr (h shape hs))
    have hread := hm []
    rw [List.append_nil] at hread
    rw [hm, hread]

theorem ofWire_append {direction : Direction} {bytes : Bytes}
    (h : direction.minPacketLength ≤ bytes.length) (more : Bytes) :
    Packet.ofWire direction (bytes ++ more) =
      (Packet.ofWire direction bytes).map fun p => { p with payload := p.payload ++ more } := by
  match direction, bytes with
  | .backendToMaster, _ :: _ | .masterToBackend, _ :: _ => rfl
  | .masterToSlave, _ :: _ :: _ :: _ :: _ :: _ | .slaveToMaster, _ :: _ :: _ :: _ :: _ :: _ => rfl
  | .slaveToBackend, _ :: _ :: _ :: _ :: _ :: _ :: _ :: _ => rfl

/-- More bytes behind the packet of a frame change nothing when its body is there. -/
theorem ofPacket_append (own : Option DeviceId) {frame : Bytes} {header header' : PacketHeader}
    (hkind : header.kind = frame.getD 2 0) (hkind' : header'.kind = header.kind)
    (hpacket : packet.Holds own frame) (hbody : body.Holds own frame) (more : Bytes) :
    Envelope.ofPacket own header' (packetOf frame ++ more) =
      Envelope.ofPacket own header (packetOf frame) := by
  have hcode : Direction.ofCode? header.kind = direction? frame := by rw [hkind, direction?]
  cases hd : direction? frame with
  | none => simp only [Envelope.ofPacket, hkind', hcode, hd]
  | some d =>
    have hread := ofWire_packetOf (hpacket d hd)
    have hmore : Packet.ofWire d (packetOf frame ++ more) =
        .ok ⟨d, idOf frame, addressOf d frame, bodyOf d frame ++ more⟩ := by
      rw [ofWire_append (hpacket d hd), hread]
      rfl
    have hkept : Direction.ofCode? header'.kind = some d := by rw [hkind', hcode, hd]
    -- The destination is not in the body.
    cases hother : Envelope.otherDestination? own
        ⟨d, idOf frame, addressOf d frame, bodyOf d frame⟩ with
    | some e =>
      rw [ofPacket_of_other hkept hmore hother, ofPacket_of_other (hcode.trans hd) hread hother]
    | none =>
      rw [ofPacket_of_own hkept hmore hother, ofPacket_of_own (hcode.trans hd) hread hother,
        read_append (hbody d hd) more]

/-- Bytes behind what the body calls for change nothing. -/
theorem parse_withSurplus (own : Option DeviceId) {frame surplus : Bytes}
    (hheader : header.Holds own frame) (hlength : length.Holds own frame)
    (hpacket : packet.Holds own frame) (hbody : body.Holds own frame)
    (hfits : declared frame + surplus.length ≤ 65535) :
    Envelope.parse own (withSurplus frame surplus) = Envelope.parse own frame := by
  match frame with
  | a :: b :: kind :: index :: more :: l0 :: l1 :: bytes =>
    obtain ⟨x, y, hbytes, hxy⟩ : ∃ x y, Word.le16 (UInt16.ofNat ((Word.ofLe16 l0 l1).toNat +
        surplus.length)) = [x, y] ∧ (Word.ofLe16 x y).toNat =
          (Word.ofLe16 l0 l1).toNat + surplus.length := by
      refine ⟨_, _, rfl, ?_⟩
      rw [Word.ofLe16_bytes, UInt16.toNat_ofNat']
      exact Nat.mod_eq_of_lt (Nat.lt_succ_of_le hfits)
    have hframe : withSurplus (a :: b :: kind :: index :: more :: l0 :: l1 :: bytes) surplus =
        a :: b :: kind :: index :: more :: x :: y :: (bytes ++ surplus) := by
      show a :: b :: kind :: index :: more :: (Word.le16 (UInt16.ofNat ((Word.ofLe16 l0 l1).toNat +
        surplus.length)) ++ bytes ++ surplus) = _
      rw [hbytes, List.append_assoc]
      rfl
    have hlength : bytes.length = (Word.ofLe16 l0 l1).toNat := by
      have h : 7 + bytes.length = 7 + (Word.ofLe16 l0 l1).toNat := (Nat.add_comm _ _).trans hlength
      omega
    rw [hframe]
    by_cases hdelimiter : a = 0xAB ∧ b = 0xCD
    · simp only [Envelope.parse, PacketHeader.read, hdelimiter, and_self, if_true]
      show ite ((bytes ++ surplus).length ≠ (Word.ofLe16 x y).toNat) _ _ =
        ite (bytes.length ≠ (Word.ofLe16 l0 l1).toNat) _ _
      rw [if_neg (by rw [List.length_append]; omega), if_neg (by omega)]
      exact ofPacket_append own rfl rfl hpacket hbody surplus
    · simp only [Envelope.parse, PacketHeader.read, hdelimiter, if_false]
      rfl

/-- The id of a receiver takes part in the check of the destination only. -/
theorem firstFault?_eq (own : Option DeviceId) (frame : Bytes) :
    firstFault? own frame = (outer.findSome? (fault? none frame)).or
      ((destination.fault? own frame).or ([message, body].findSome? (fault? none frame))) := by
  rw [firstFault?, all, List.findSome?_append, List.findSome?_cons]
  cases destination.fault? own frame <;> rfl

/-- A frame that a receiver takes is taken by receivers without an id as the same. -/
theorem parse_none_of_ok {own : Option DeviceId} {frame : Bytes} {e : Envelope}
    (h : Envelope.parse own frame = .ok e) : Envelope.parse none frame = .ok e := by
  obtain ⟨header, direction, p, message, hheader, hlength, hdirection, hp, -, hmessage, rfl⟩ :=
    Envelope.parse_eq_ok_iff.mp h
  exact Envelope.parse_eq_ok_iff.mpr ⟨header, direction, p, message, hheader, hlength, hdirection,
    hp, Envelope.otherDestination?_none p, hmessage, rfl⟩

theorem parse_none_of_firstFault? {own : Option DeviceId} {frame : Bytes}
    (h : firstFault? own frame = firstFault? none frame) :
    Envelope.parse own frame = Envelope.parse none frame := by
  cases hfault : firstFault? own frame with
  | none =>
    obtain ⟨e, he⟩ := parse_ok_iff.mpr (firstFault?_eq_none_iff.mp hfault)
    rw [he, parse_none_of_ok he]
  | some e =>
    rw [parse_eq_error_iff.mpr hfault, parse_eq_error_iff.mpr (h.symm.trans hfault)]

/-- No later check blames the destination. -/
theorem destination_fault?_ne {own : Option DeviceId} {frame : Bytes} {e : PacketError}
    (h : destination.fault? own frame = some e) :
    [message, body].findSome? (fault? none frame) ≠ some e := by
  obtain ⟨id, -, h⟩ := Option.bind_eq_some_iff.mp h
  simp only [Option.ite_none_left_eq_some, Option.ite_none_right_eq_some, Option.some.injEq] at h
  rw [← h.2.2]
  intro hinner
  obtain ⟨check, hcheck, hfault⟩ := List.exists_of_findSome?_eq_some hinner
  have hcheck : check = message ∨ check = body := by simpa using hcheck
  rcases hcheck with rfl | rfl
  · obtain ⟨d, -, hfault⟩ := Option.bind_eq_some_iff.mp hfault
    simp only [Option.ite_none_left_eq_some, Option.some.injEq] at hfault
    cases hfault.2
  · obtain ⟨d, -, hfault⟩ := Option.bind_eq_some_iff.mp hfault
    obtain ⟨shape, -, hfault⟩ := Option.bind_eq_some_iff.mp hfault
    obtain ⟨s, -, hfault⟩ := Option.bind_eq_some_iff.mp hfault
    cases hfault

/-- Receivers with and without an id differ in packets for another device only. -/
theorem parse_own (id : DeviceId) (frame : Bytes) :
    Envelope.parse (some id) frame ≠ Envelope.parse none frame ↔
      (∀ check ∈ outer, check.Holds none frame) ∧ ¬ destination.Holds (some id) frame := by
  have howned := firstFault?_eq (some id) frame
  have hplain : firstFault? none frame = (outer.findSome? (fault? none frame)).or
      ([message, body].findSome? (fault? none frame)) := firstFault?_eq none frame
  have houter : (∀ check ∈ outer, check.Holds none frame) ↔
      outer.findSome? (fault? none frame) = none := by
    simp only [List.findSome?_eq_none_iff, fault?_eq_none_iff]
  rw [houter, ← fault?_eq_none_iff]
  cases hfront : outer.findSome? (fault? none frame) with
  | some e =>
    rw [hfront, Option.some_or] at howned hplain
    exact iff_of_false (fun h => h (parse_none_of_firstFault? (howned.trans hplain.symm))) (by simp)
  | none =>
    rw [hfront, Option.none_or] at howned hplain
    cases hfault : destination.fault? (some id) frame with
    | none =>
      rw [hfault, Option.none_or] at howned
      exact iff_of_false (fun h => h (parse_none_of_firstFault? (howned.trans hplain.symm)))
        (by simp)
    | some e =>
      rw [hfault, Option.some_or] at howned
      refine iff_of_true (fun h => ?_) (by simp)
      rw [parse_eq_error_iff.mpr howned] at h
      rw [parse_eq_error_iff.mp h.symm] at hplain
      exact destination_fault?_ne hfault hplain.symm

end FrameCheck

/-- A receiver takes a frame exactly when the frame passes all checks, and otherwise tells the
fault of the first check that fails, which is a fault of framing exactly when one of the first
three fails. The index and the flag of the header, and bytes behind what the body calls for, never
change what it makes of a frame. With an id of its own it differs from a receiver without one
exactly on packets for another device. -/
theorem Envelope.parse_grammar (own : Option DeviceId) (frame : Bytes) :
    (∀ check : FrameCheck, check.fault? own frame = none ↔ check.Holds own frame) ∧
    ((∃ e, parse own frame = .ok e) ↔ ∀ check : FrameCheck, check.Holds own frame) ∧
    (∀ e, parse own frame = .error e ↔ FrameCheck.firstFault? own frame = some e) ∧
    (∀ e, parse own frame = .error e →
      (e.isFraming = true ↔ ∃ check ∈ FrameCheck.framing, ¬ check.Holds own frame)) ∧
    (∀ index flag, parse own ((frame.set 3 index).set 4 flag) = parse own frame) ∧
    (∀ surplus : Bytes,
      (∀ check ∈ [FrameCheck.header, .length, .packet, .body], check.Holds own frame) →
      FrameCheck.declared frame + surplus.length ≤ 65535 →
      parse own (FrameCheck.withSurplus frame surplus) = parse own frame) ∧
    ∀ id, parse (some id) frame ≠ parse none frame ↔
      (∀ check ∈ FrameCheck.outer, check.Holds none frame) ∧
        ¬ FrameCheck.destination.Holds (some id) frame := by
  refine ⟨fun check => FrameCheck.fault?_eq_none_iff, FrameCheck.parse_ok_iff,
    fun e => FrameCheck.parse_eq_error_iff, ?_, FrameCheck.parse_set own frame, ?_,
    fun id => FrameCheck.parse_own id frame⟩
  · intro e he
    exact FrameCheck.isFraming_iff (FrameCheck.parse_eq_error_iff.mp he)
  · intro surplus hchecks hfits
    exact FrameCheck.parse_withSurplus own (hchecks _ (by decide)) (hchecks _ (by decide))
      (hchecks _ (by decide)) (hchecks _ (by decide)) hfits

end HarnessLink
