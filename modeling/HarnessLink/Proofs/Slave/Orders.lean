import HarnessLink.Proofs.Frame.RoundTrip
import HarnessLink.Proofs.Packet.RoundTrip
import HarnessLink.Slave.Bus

/-!
# Orders to the slaves of a bus

Every slave of a bus hears an order. Only the slave that it names carries it out
and answers, or every slave carries out an order to everyone, which only a slave
of that very id answers. The others, and the framer of the bus, stay as they
were. So an order moves a bus to the same bus with the slaves changed that it
reaches, and brings one answer, or none when no slave has the id.
-/
namespace HarnessLink

/-! ## Frames of orders and answers -/

namespace Message

/-- The bytes of an order to a device: a short frame, which only the device reads,
unless the order is for everyone. -/
structure OrderFrame (order : MasterToSlave) (id : DeviceId) (frame : Bytes) : Prop where
  short : frame.length ≤ 20
  read : ∀ own, Envelope.parse? (some own) frame =
    if id = own ∨ id.isBroadcast = true then some ⟨.device id, masterToSlave order⟩ else none

theorem packetLength_order_le (order : MasterToSlave) :
    (masterToSlave order).packetLength ≤ 13 := by
  have hbody : order.bodyLength ≤ 8 := by cases order <;> simp [MasterToSlave.bodyLength]
  exact Nat.add_le_add_left hbody 5

theorem order_frame (order : MasterToSlave) (id : DeviceId) :
    ∃ frame, (masterToSlave order).frame (.device id) = .ok frame ∧
      OrderFrame order id frame := by
  have hlength := packetLength_order_le order
  have hfits : Address.fits (.device id) (masterToSlave order).direction = true := rfl
  obtain ⟨p, hdirection, haddress, hframed, hframe, hparse⟩ :=
    frame_of_fits hfits ⟨Nat.zero_le _, Nat.zero_le _⟩ (Nat.le_trans hlength (by decide))
  refine ⟨p.framed, hframe, ?_, ?_⟩
  · rw [hframed]
    exact Nat.add_le_add_left hlength 7
  · intro own
    rw [Envelope.parse?, hparse]
    simp only [Envelope.otherDestination?, hdirection, haddress, direction, Address.id?]
    by_cases h : id = own ∨ id.isBroadcast = true
    · rw [if_pos h, if_pos h]
      rfl
    · rw [if_neg h, if_neg h]
      rfl

/-- An answer without data has a short frame, which the master reads. -/
theorem answer_frame {reply : SlaveToMaster} (hblob : reply.blobLength = 0) (id : DeviceId) :
    ∃ frame, (slaveToMaster reply).frame (.device id) = .ok frame ∧ frame.length ≤ 21 ∧
      Envelope.parse? none frame = some ⟨.device id, slaveToMaster reply⟩ := by
  have hbody : reply.bodyLength ≤ 9 := by
    cases reply <;> simp only [SlaveToMaster.blobLength] at hblob <;>
      simp only [SlaveToMaster.bodyLength] <;> omega
  have hlength : (slaveToMaster reply).packetLength ≤ 14 := Nat.add_le_add_left hbody 5
  have hfits : Address.fits (.device id) (slaveToMaster reply).direction = true := rfl
  have hempty : (slaveToMaster reply).blobLength ≤ 65535 := by
    rw [blobLength, hblob]
    exact Nat.zero_le _
  obtain ⟨p, -, -, hframed, hframe, hparse⟩ :=
    frame_of_fits hfits ⟨Nat.zero_le _, hempty⟩ (Nat.le_trans hlength (by decide))
  refine ⟨p.framed, hframe, ?_, ?_⟩
  · rw [hframed]
    exact Nat.add_le_add_left hlength 7
  · rw [Envelope.parse?, hparse, Envelope.otherDestination?_none]
    rfl

end Message

/-! ## One slave -/

namespace SlaveNode

@[simp] theorem obey_id (n : SlaveNode) (order : MasterToSlave) : (n.obey order).1.id = n.id := by
  unfold obey
  split <;> (try split) <;> rfl

@[simp] theorem obey_status (n : SlaveNode) (order : MasterToSlave) :
    (n.obey order).1.status = n.status := by
  unfold obey
  split <;> (try split) <;> rfl

theorem answerAddress_obey (n : SlaveNode) (order : MasterToSlave) (m : Message) :
    (n.obey order).1.answerAddress m = n.answerAddress m := by
  unfold answerAddress
  rw [obey_id, obey_status]

/-- A window whose report fits the link is stored. -/
theorem obey_conduction {window : TestWindow} (h : window.conductionLength ≤ maxReportLength)
    (n : SlaveNode) :
    (n.obey (.configureConduction window)).1 = { n with conduction? := some window } := by
  rw [obey, if_pos h]

theorem obey_resistance {window : TestWindow} (h : window.resistanceLength ≤ maxReportLength)
    (n : SlaveNode) :
    (n.obey (.configureResistance window)).1 = { n with resistance? := some window } := by
  rw [obey, if_pos h]

theorem respond_of_parse_none {n : SlaveNode} {frame : Bytes}
    (h : Envelope.parse? (some n.id) frame = none) : n.respond frame = (n, .ok none) := by
  rw [respond, h]

/-- A slave carries out an order to itself and answers it. -/
theorem respond_order {n : SlaveNode} {frame : Bytes} {order : MasterToSlave}
    (h : Envelope.parse? (some n.id) frame = some ⟨.device n.id, .masterToSlave order⟩) :
    n.respond frame =
      ((n.obey order).1,
        match (n.obey order).2 with
        | none => .ok none
        | some m => (m.frame (n.answerAddress m)).map some) := by
  have hdevice : Envelope.device? ⟨.device n.id, .masterToSlave order⟩ = some n.id := rfl
  have haddress := n.answerAddress_obey order
  cases hobey : n.obey order with
  | mk n' answer? =>
    rw [hobey] at haddress
    rw [respond, h]
    simp only [process, hobey, hdevice, if_pos]
    cases answer? with
    | none => rfl
    | some m =>
      show (n', (m.frame (n'.answerAddress m)).map some) = _
      rw [haddress m]

/-- A slave carries out an order to everyone without an answer. -/
theorem respond_broadcast {n : SlaveNode} {frame : Bytes} {id : DeviceId} {order : MasterToSlave}
    (h : Envelope.parse? (some n.id) frame = some ⟨.device id, .masterToSlave order⟩)
    (hother : n.id ≠ id) : n.respond frame = ((n.obey order).1, .ok none) := by
  have hdevice : Envelope.device? ⟨.device id, .masterToSlave order⟩ ≠ some n.id :=
    fun hsame => hother (Option.some.inj hsame).symm
  rw [respond, h]
  simp only [process, if_neg hdevice]

/-- An order that is repeated is answered as before, and changes nothing more. -/
theorem obey_obey (n : SlaveNode) (order : MasterToSlave) :
    (n.obey order).1.obey order = n.obey order := by
  cases order with
  | configureConduction w => by_cases h : w.conductionLength ≤ maxReportLength <;> simp [obey, h]
  | configureResistance w => by_cases h : w.resistanceLength ≤ maxReportLength <;> simp [obey, h]
  | _ => rfl

end SlaveNode

/-! ## All slaves of a bus -/

/-- An order to `id` is meant for the slave `own`. -/
def DeviceId.Reaches (id own : DeviceId) : Prop := id = own ∨ id.isBroadcast = true

instance (id own : DeviceId) : Decidable (id.Reaches own) :=
  inferInstanceAs (Decidable (_ ∨ _))

theorem DeviceId.reaches_self (id : DeviceId) : id.Reaches id := Or.inl rfl

/-- What a slave makes of the frame of an order. -/
theorem SlaveNode.respond_orderFrame {order : MasterToSlave} {id : DeviceId} {frame : Bytes}
    (hframe : Message.OrderFrame order id frame) (n : SlaveNode) :
    (n.respond frame).1 = (if id.Reaches n.id then (n.obey order).1 else n) ∧
      (n.id ≠ id → (n.respond frame).2 = .ok none) := by
  have hread : Envelope.parse? (some n.id) frame =
      if id.Reaches n.id then some ⟨.device id, .masterToSlave order⟩ else none := hframe.read n.id
  by_cases h : id.Reaches n.id
  · rw [if_pos h] at hread ⊢
    by_cases hself : n.id = id
    · subst hself
      exact ⟨congrArg Prod.fst (respond_order hread), fun hne => absurd rfl hne⟩
    · rw [respond_broadcast hread hself]
      exact ⟨rfl, fun _ => rfl⟩
  · rw [if_neg h] at hread ⊢
    rw [respond_of_parse_none hread]
    exact ⟨rfl, fun _ => rfl⟩

namespace SlaveBus

/-- If no slave but `id` answers a frame, the answer of this slave is the only one. -/
theorem answers_of_silent {framer : Framer} {nodes : List SlaveNode} {frame : Bytes}
    {id : DeviceId} (hids : (nodes.map SlaveNode.id).Nodup)
    (hother : ∀ n ∈ nodes, n.id ≠ id → (n.respond frame).2 = .ok none) :
    (hear framer nodes frame).2 =
      ((nodes.find? fun n => n.id = id).bind fun n => wire? framer (n.respond frame).2).toList := by
  induction nodes with
  | nil => rfl
  | cons n rest ih =>
    rw [List.map_cons, List.nodup_cons] at hids
    obtain ⟨hn, hrest⟩ := hids
    have hanswers := ih hrest fun n' h' => hother n' (List.mem_cons_of_mem n h')
    simp only [hear] at hanswers ⊢
    rw [List.map_cons, List.filterMap_cons, hanswers]
    by_cases h : n.id = id
    -- Ids are distinct, so nobody behind this slave answers.
    · have habsent : rest.find? (fun n => n.id = id) = none := by
        rw [List.find?_eq_none]
        intro n' h'
        have hne : n'.id ≠ id := by
          rintro rfl
          rw [h] at hn
          exact hn (List.mem_map_of_mem h')
        simpa using hne
      have hfound : (n :: rest).find? (fun n => n.id = id) = some n :=
        List.find?_cons_of_pos (by simpa using h)
      rw [habsent, hfound, Option.bind_some]
      cases wire? framer (n.respond frame).2 <;> rfl
    · have hfound : (n :: rest).find? (fun n => n.id = id) = rest.find? (fun n => n.id = id) :=
        List.find?_cons_of_neg (by simpa using h)
      rw [hfound, hother n (List.mem_cons_self ..) h]
      rfl

/-- The bus after the slaves that an order reaches carried it out. -/
def deliver (id : DeviceId) (order : MasterToSlave) (b : SlaveBus) : SlaveBus :=
  { b with nodes := b.nodes.map fun n => if id.Reaches n.id then (n.obey order).1 else n }

/-- The ids of the slaves, in their order. -/
def ids (b : SlaveBus) : List DeviceId := b.nodes.map SlaveNode.id

@[simp] theorem ids_deliver (id : DeviceId) (order : MasterToSlave) (b : SlaveBus) :
    (b.deliver id order).ids = b.ids := by
  rw [ids, ids, deliver, List.map_map]
  apply List.map_congr_left
  intro n _
  by_cases h : id.Reaches n.id
  · simp only [Function.comp_apply, if_pos h, SlaveNode.obey_id]
  · simp only [Function.comp_apply, if_neg h]

/-- Of the slaves of a bus, an order changes those that it reaches. -/
theorem node?_deliver (id : DeviceId) (order : MasterToSlave) (b : SlaveBus) (k : DeviceId) :
    (b.deliver id order).node? k =
      if id.Reaches k then (b.node? k).map fun n => (n.obey order).1 else b.node? k := by
  have hsame : ((fun n : SlaveNode => decide (n.id = k)) ∘
      fun n => if id.Reaches n.id then (n.obey order).1 else n) = fun n => decide (n.id = k) := by
    funext n
    by_cases h : id.Reaches n.id
    · simp only [Function.comp_apply, if_pos h, SlaveNode.obey_id]
    · simp only [Function.comp_apply, if_neg h]
  rw [node?, deliver, List.find?_map, hsame]
  show Option.map _ (b.node? k) = _
  cases hk : b.node? k with
  | none => split <;> rfl
  | some n =>
    have hn : n.id = k := by simpa using List.find?_some hk
    rw [Option.map_some, Option.map_some, hn]
    split <;> rfl

theorem node?_eq_none {b : SlaveBus} {id : DeviceId} : b.node? id = none ↔ id ∉ b.ids := by
  simp [node?, ids]

/-- An order that is repeated changes nothing more. -/
theorem deliver_deliver (id : DeviceId) (order : MasterToSlave) (b : SlaveBus) :
    (b.deliver id order).deliver id order = b.deliver id order := by
  simp only [deliver, List.map_map]
  congr 1
  apply List.map_congr_left
  intro n _
  by_cases h : id.Reaches n.id
  · simp only [Function.comp_apply, if_pos h, SlaveNode.obey_id, SlaveNode.obey_obey]
  · simp only [Function.comp_apply, if_neg h]

theorem hearAll_singleton (framer : Framer) (nodes : List SlaveNode) (f : Frame) :
    hearAll framer nodes [f] = hear framer nodes f.payload := by
  simp only [hearAll, List.append_nil]

/-- A bus at rest takes the frame of an order as the order. -/
theorem receive_order {b : SlaveBus} (hframer : b.framer = {}) (hids : b.ids.Nodup) {id : DeviceId}
    {order : MasterToSlave} {frame : Bytes} (hframe : Message.OrderFrame order id frame)
    (slot kind : UInt8) :
    b.receive (Frame.wire {} ⟨slot, kind, frame⟩) =
      (((b.node? id).bind fun n => wire? {} (n.respond frame).2).toList, b.deliver id order) := by
  have hlength : frame.length ≤ 61952 := Nat.le_trans hframe.short (by decide)
  have hfeed : b.framer.feed (Frame.wire {} ⟨slot, kind, frame⟩) = ([⟨slot, kind, frame⟩], {}) := by
    rw [hframer]
    exact Framer.feed_default hlength
  have hnodes : (hear {} b.nodes frame).1 = (b.deliver id order).nodes := by
    simp only [hear, List.map_map, deliver]
    apply List.map_congr_left
    intro n _
    exact (n.respond_orderFrame hframe).1
  have hanswers : (hear {} b.nodes frame).2 =
      ((b.node? id).bind fun n => wire? {} (n.respond frame).2).toList :=
    answers_of_silent hids fun n _ => (n.respond_orderFrame hframe).2
  have hhear : hear {} b.nodes frame = ((b.deliver id order).nodes,
      ((b.node? id).bind fun n => wire? {} (n.respond frame).2).toList) :=
    Prod.ext hnodes hanswers
  rw [receive, hfeed]
  simp only [hearAll_singleton, hhear]
  rw [deliver, ← hframer]

/-- An order to a slave that is not there is not answered. -/
theorem receive_order_absent {b : SlaveBus} (hframer : b.framer = {}) (hids : b.ids.Nodup)
    {id : DeviceId} (habsent : id ∉ b.ids) {order : MasterToSlave} {frame : Bytes}
    (hframe : Message.OrderFrame order id frame) (slot kind : UInt8) :
    b.receive (Frame.wire {} ⟨slot, kind, frame⟩) = ([], b.deliver id order) := by
  rw [receive_order hframer hids hframe, node?_eq_none.mpr habsent]
  rfl

/-- An order to a slave of the bus is carried out, and the answer is one link
frame. -/
theorem receive_order_answered {b : SlaveBus} (hframer : b.framer = {}) (hids : b.ids.Nodup)
    {id : DeviceId} {n : SlaveNode} (hn : b.node? id = some n) {order : MasterToSlave}
    {reply : SlaveToMaster} (hreply : (n.obey order).2 = some (.slaveToMaster reply))
    (hblob : reply.blobLength = 0) {frame : Bytes} (hframe : Message.OrderFrame order id frame)
    (slot kind : UInt8) :
    ∃ answer : Frame, answer.Fits {} ∧
      Envelope.parse? none answer.payload = some ⟨.device id, .slaveToMaster reply⟩ ∧
      b.receive (Frame.wire {} ⟨slot, kind, frame⟩) = ([answer.wire {}], b.deliver id order) := by
  obtain ⟨payload, hpack, hpayload, hanswer⟩ := Message.answer_frame hblob id
  have hfits : (Frame.mk SlaveBus.slot FrameKind.reply payload).Fits {} :=
    Frame.fits_default (Nat.le_trans hpayload (by decide))
  refine ⟨⟨SlaveBus.slot, FrameKind.reply, payload⟩, hfits, hanswer, ?_⟩
  have hnid : n.id = id := by simpa using List.find?_some hn
  have hown : Envelope.parse? (some n.id) frame = some ⟨.device n.id, .masterToSlave order⟩ := by
    rw [hframe.read, if_pos (Or.inl hnid.symm), hnid]
  have hwire : wire? {} (n.respond frame).2 =
      some (Frame.wire {} ⟨SlaveBus.slot, FrameKind.reply, payload⟩) := by
    have hencode := Framer.encode_eq {} (by decide) (by decide) hfits
    rw [SlaveNode.respond_order hown, hreply]
    show wire? {} (((Message.slaveToMaster reply).frame (.device n.id)).map some) = _
    rw [hnid, hpack]
    simp only [wire?, Except.map, hencode]
  rw [receive_order hframer hids hframe, hn, Option.bind_some, hwire]
  rfl

end SlaveBus

end HarnessLink
