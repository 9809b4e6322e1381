import Mathlib.Data.List.Forall2
import HarnessLink.Proofs.Slave.Orders

/-!
# Every answer of a slave fits the link

A slave stores a window only if its report fits the link, so whatever happened to it the
reports of its windows do. A refused window changes nothing. From this every answer of a
slave has a frame, of at most the 256 chunks that one link frame counts, and a bus leaves
none of them out.
-/
namespace HarnessLink

namespace SlaveNode

/-- A slave that is new, or to which messages came, whole frames, and changes of its
peripherals. -/
inductive Reachable : SlaveNode → Prop
  | new (id : DeviceId) : Reachable { id }
  | process {n : SlaveNode} (h : Reachable n) (e : Envelope) : Reachable (n.process e).1
  | respond {n : SlaveNode} (h : Reachable n) (frame : Bytes) : Reachable (n.respond frame).1
  | setStatus {n : SlaveNode} (h : Reachable n) (status : DeviceStatus) :
      Reachable { n with status }

/-- The reports of the windows that a slave holds fit the link. -/
structure ReportsFit (n : SlaveNode) : Prop where
  conduction : ∀ w, n.conduction? = some w → w.conductionLength ≤ maxReportLength
  resistance : ∀ w, n.resistance? = some w → w.resistanceLength ≤ maxReportLength

/-! ## What a slave holds -/

/-- A message changes a slave as an order does, or not at all. -/
theorem process_fst (n : SlaveNode) (e : Envelope) :
    (n.process e).1 = n ∨ ∃ order, (n.process e).1 = (n.obey order).1 := by
  rw [process]
  split
  · next order _ =>
    refine Or.inr ⟨order, ?_⟩
    dsimp only
    split <;> rfl
  · exact Or.inl rfl

/-- A frame changes a slave as the message in it does, or not at all. -/
theorem respond_fst (n : SlaveNode) (frame : Bytes) :
    (n.respond frame).1 = n ∨ ∃ e, (n.respond frame).1 = (n.process e).1 := by
  rw [respond]
  split
  · exact Or.inl rfl
  · next e _ =>
    refine Or.inr ⟨e, ?_⟩
    split
    all_goals
      next heq => rw [heq]

theorem ReportsFit.obey {n : SlaveNode} (h : n.ReportsFit) (order : MasterToSlave) :
    (n.obey order).1.ReportsFit := by
  cases order with
  | configureConduction w =>
    by_cases hw : w.conductionLength ≤ maxReportLength
    · rw [obey_conduction hw]
      exact ⟨by simpa using hw, h.resistance⟩
    · rw [SlaveNode.obey, if_neg hw]
      exact h
  | configureResistance w =>
    by_cases hw : w.resistanceLength ≤ maxReportLength
    · rw [obey_resistance hw]
      exact ⟨h.conduction, by simpa using hw⟩
    · rw [SlaveNode.obey, if_neg hw]
      exact h
  | _ => exact ⟨h.conduction, h.resistance⟩

theorem ReportsFit.process {n : SlaveNode} (h : n.ReportsFit) (e : Envelope) :
    (n.process e).1.ReportsFit := by
  obtain hsame | ⟨order, horder⟩ := n.process_fst e
  · rwa [hsame]
  · rw [horder]
    exact h.obey order

/-- Whatever happened to a slave, the reports of its windows fit the link. -/
theorem Reachable.reportsFit {n : SlaveNode} (h : n.Reachable) : n.ReportsFit := by
  induction h with
  | new id => exact ⟨by simp, by simp⟩
  | process _ e ih => exact ih.process e
  | @respond n _ frame ih =>
    obtain hsame | ⟨e, he⟩ := n.respond_fst frame
    · rwa [hsame]
    · rw [he]
      exact ih.process e
  | setStatus _ status ih => exact ⟨ih.conduction, ih.resistance⟩

/-! ## What a slave answers -/

theorem length_bitmap_le (n : SlaveNode) : n.bitmap.length ≤ maxReportLength := by
  rw [bitmap_eq]
  split
  · exact Nat.zero_le _
  · split
    · rwa [TestWindow.length_bitmap]
    · exact Nat.zero_le _

theorem ReportsFit.length_readings_le {n : SlaveNode} (h : n.ReportsFit) :
    n.readings.length ≤ maxReportLength := by
  rw [readings]
  split
  · exact Nat.zero_le _
  · next w hw =>
    rw [TestWindow.length_readings]
    exact h.resistance w hw

/-- A message as a slave sends it: a short one to the master, or a report whose data fits
the link to the backend. -/
inductive IsAnswer : Message → Prop
  | toMaster {reply : SlaveToMaster} (h : reply.blobLength = 0) : IsAnswer (.slaveToMaster reply)
  | toBackend {report : SlaveToBackend} (h : report.blobLength ≤ maxReportLength) :
      IsAnswer (.slaveToBackend report)

theorem ReportsFit.isAnswer {n : SlaveNode} (h : n.ReportsFit) {order : MasterToSlave} {m : Message}
    (hm : (n.obey order).2 = some m) : IsAnswer m := by
  cases order with
  | sync v => cases hm
  | configureConduction w =>
    rw [SlaveNode.obey] at hm
    split at hm <;> cases hm <;> exact .toMaster rfl
  | configureResistance w =>
    rw [SlaveNode.obey] at hm
    split at hm <;> cases hm <;> exact .toMaster rfl
  | configureClip s => cases hm; exact .toMaster rfl
  | readConduction _ => cases hm; exact .toBackend n.length_bitmap_le
  | readResistance _ => cases hm; exact .toBackend h.length_readings_le
  | readClip _ => cases hm; exact .toBackend (Nat.zero_le _)
  | reset v => cases hm; exact .toMaster rfl
  | ping v => cases hm; exact .toMaster rfl

/-- A window whose report does not fit the link is refused. -/
theorem obey_conduction_refused {w : TestWindow} (h : maxReportLength < w.conductionLength)
    (n : SlaveNode) :
    n.obey (.configureConduction w) =
      (n, some (.slaveToMaster (.conductionInfo SlaveToMaster.refused w))) := by
  rw [obey, if_neg (Nat.not_le.mpr h)]

theorem obey_resistance_refused {w : TestWindow} (h : maxReportLength < w.resistanceLength)
    (n : SlaveNode) :
    n.obey (.configureResistance w) =
      (n, some (.slaveToMaster (.resistanceInfo SlaveToMaster.refused w))) := by
  rw [obey, if_neg (Nat.not_le.mpr h)]

/-- What an order to the slave itself, or to another address, does. -/
theorem process_order (n : SlaveNode) (address : Address) (order : MasterToSlave) :
    n.process ⟨address, .masterToSlave order⟩ =
      ((n.obey order).1,
        if address.id? = some n.id then
          (n.obey order).2.map fun m => ⟨n.answerAddress m, m⟩
        else none) := by
  have hanswers :
      ((n.obey order).2.map fun m => Envelope.mk ((n.obey order).1.answerAddress m) m) =
        (n.obey order).2.map fun m => ⟨n.answerAddress m, m⟩ := by
    simp only [answerAddress_obey]
  by_cases hself : address.id? = some n.id
  · simp only [process, Envelope.device?, if_pos hself, hanswers]
  · simp [process, Envelope.device?, hself]

/-- An answer carries the address of the slave. -/
theorem ReportsFit.answer {n : SlaveNode} (h : n.ReportsFit) {e answer : Envelope}
    (hanswer : (n.process e).2 = some answer) :
    IsAnswer answer.message ∧ answer.address = n.answerAddress answer.message := by
  obtain ⟨address, message⟩ := e
  cases message with
  | masterToSlave order =>
    rw [process_order] at hanswer
    split at hanswer
    · obtain ⟨m, hm, rfl⟩ := Option.map_eq_some_iff.mp hanswer
      exact ⟨h.isAnswer hm, rfl⟩
    · cases hanswer
  | _ => cases hanswer

end SlaveNode

/-! ## Frames of answers -/

/-- The bytes of an answer: a frame that its receiver reads as the answer, in no more
chunks than a link frame counts. -/
structure Envelope.Carried (answer : Envelope) (frame : Bytes) : Prop where
  read : Envelope.parse none frame = .ok answer
  length : frame.length = PacketHeader.size + answer.message.packetLength
  short : frame.length ≤ 242 * 256

/-- An answer has a frame. The longest report that fits the link leaves no byte over. -/
theorem SlaveNode.IsAnswer.frame {m : Message} (h : IsAnswer m) (n : SlaveNode) :
    ∃ frame, m.frame (n.answerAddress m) = .ok frame ∧
      Envelope.Carried ⟨n.answerAddress m, m⟩ frame := by
  have hfits : (n.answerAddress m).fits m.direction = true := by cases h <;> rfl
  have hentries : m.entryCount ≤ 255 := by cases h <;> exact Nat.zero_le _
  have hblob : m.blobLength ≤ maxReportLength := by
    cases h with
    | toMaster hreply => rw [Message.blobLength, hreply]; exact Nat.zero_le _
    | toBackend hreport => exact hreport
  have hpacket : m.packetLength + PacketHeader.size ≤ 242 * 256 := by
    cases h with
    | @toMaster reply hreply =>
      cases reply <;> simp only [SlaveToMaster.blobLength] at hreply <;>
        simp [Message.packetLength, Message.bodyLength, SlaveToMaster.bodyLength,
          Message.direction, Direction.minPacketLength, Direction.addressLength,
          PacketHeader.size, hreply]
    | @toBackend report hreport =>
      cases report <;> simp only [SlaveToBackend.blobLength, maxReportLength] at hreport <;>
        simp only [Message.packetLength, Message.bodyLength, SlaveToBackend.bodyLength,
          Message.direction, Direction.minPacketLength, Direction.addressLength,
          PacketHeader.size] <;> omega
  have hdata : m.blobLength ≤ 65535 := Nat.le_trans hblob (by decide)
  obtain ⟨p, -, -, hlength, hframe, hparse⟩ :=
    Message.frame_of_fits hfits ⟨hentries, hdata⟩ (by omega)
  refine ⟨p.framed, hframe, ?_, hlength, ?_⟩
  · rw [hparse, Envelope.otherDestination?_none]
  · rw [hlength]
    omega

/-- A slave answers a frame with the answer to the message in it, and never fails. -/
theorem SlaveNode.ReportsFit.respond {n : SlaveNode} (h : n.ReportsFit) (frame : Bytes) :
    match (Envelope.parse? (some n.id) frame).bind fun e => (n.process e).2 with
    | none => (n.respond frame).2 = .ok none
    | some answer => ∃ reply, (n.respond frame).2 = .ok (some reply) ∧ answer.Carried reply := by
  rw [SlaveNode.respond]
  cases Envelope.parse? (some n.id) frame with
  | none => rfl
  | some e =>
    rcases hprocess : n.process e with ⟨n', answer?⟩
    simp only [Option.bind_some, hprocess]
    cases answer? with
    | none => rfl
    | some answer =>
      obtain ⟨hanswer, haddress⟩ := h.answer (congrArg Prod.snd hprocess)
      obtain ⟨reply, hframe, hcarried⟩ := hanswer.frame n
      rw [← haddress] at hframe hcarried
      refine ⟨reply, ?_, hcarried⟩
      show (answer.message.frame answer.address).map some = _
      rw [hframe]
      rfl

theorem SlaveNode.ReportsFit.respond_ok {n : SlaveNode} (h : n.ReportsFit) (frame : Bytes) :
    ∃ reply?, (n.respond frame).2 = .ok reply? ∧
      ∀ reply, reply? = some reply → ∃ answer : Envelope, answer.Carried reply := by
  have hrespond := h.respond frame
  split at hrespond
  · exact ⟨none, hrespond, by simp⟩
  · next answer _ =>
    obtain ⟨reply, hreply, hcarried⟩ := hrespond
    refine ⟨some reply, hreply, ?_⟩
    rintro _ ⟨⟩
    exact ⟨answer, hcarried⟩

/-! ## Link frames of answers -/

/-- The usual framer encodes an answer, and a receiver like it gets the answer back. -/
theorem Envelope.Carried.encode {answer : Envelope} {frame : Bytes} (h : answer.Carried frame)
    (slot kind : UInt8) :
    ∃ encoding, Framer.encode {} slot kind frame = .ok encoding ∧
      Framer.feed {} encoding.wire = ([⟨slot, kind, frame⟩], {}) := by
  have hfits : (Frame.mk slot kind frame).Fits {} := Frame.fits_default h.short
  exact ⟨_, Framer.encode_eq {} (by decide) (by decide) hfits, Framer.feed_default h.short⟩

namespace SlaveBus

/-- The answers of slaves that hear frames in turn, before they are link frames. -/
def replies : List SlaveNode → List Frame → List Bytes
  | _, [] => []
  | nodes, f :: rest =>
    nodes.filterMap (fun n => (n.respond f.payload).2.toOption.join) ++
      replies (nodes.map fun n => (n.respond f.payload).1) rest

/-- The link bytes carry the answer, as the usual framer cuts them. -/
def Sends (reply wire : Bytes) : Prop :=
  (Framer.encode {} slot FrameKind.reply reply).map Fragment.Encoding.wire = .ok wire

/-- Every answer to one frame is sent. -/
theorem hear_sends {framer : Framer} (hconfig : framer.config = {}) {nodes : List SlaveNode}
    (h : ∀ n ∈ nodes, n.ReportsFit) (frame : Bytes) :
    List.Forall₂ Sends (nodes.filterMap fun n => (n.respond frame).2.toOption.join)
      (hear framer nodes frame).2 := by
  induction nodes with
  | nil => exact .nil
  | cons n rest ih =>
    have ih := ih fun n' hn' => h n' (List.mem_cons_of_mem n hn')
    simp only [hear, List.filterMap_map] at ih ⊢
    obtain ⟨reply?, hreply, hcarried⟩ := (h n (List.mem_cons_self ..)).respond_ok frame
    cases reply? with
    | none =>
      simpa only [List.filterMap_cons, Function.comp_apply, hreply, wire?, Except.toOption,
        Option.join_some] using ih
    | some reply =>
      obtain ⟨answer, hanswer⟩ := hcarried reply rfl
      obtain ⟨encoding, hencode, -⟩ := hanswer.encode slot FrameKind.reply
      have hsame : framer.encode slot FrameKind.reply reply = .ok encoding := by
        rw [Framer.encode, hconfig]
        exact hencode
      have hsends : Sends reply encoding.wire := by
        rw [Sends, hencode]
        rfl
      simpa only [List.filterMap_cons, Function.comp_apply, hreply, wire?, hsame, Except.toOption,
        Option.join_some] using List.Forall₂.cons hsends ih

/-- Every answer to frames in turn is sent. -/
theorem hearAll_sends {framer : Framer} (hconfig : framer.config = {}) (frames : List Frame)
    {nodes : List SlaveNode} (h : ∀ n ∈ nodes, n.Reachable) :
    List.Forall₂ Sends (replies nodes frames) (hearAll framer nodes frames).2 ∧
      ∀ n ∈ (hearAll framer nodes frames).1, n.Reachable := by
  induction frames generalizing nodes with
  | nil => exact ⟨.nil, h⟩
  | cons f rest ih =>
    have hnodes : (hear framer nodes f.payload).1 = nodes.map fun n => (n.respond f.payload).1 := by
      simp [hear]
    have hheard : ∀ n ∈ nodes.map fun n => (n.respond f.payload).1, n.Reachable := by
      intro n hn
      obtain ⟨n', hn', rfl⟩ := List.mem_map.mp hn
      exact (h n' hn').respond f.payload
    have hfirst := hear_sends hconfig (fun n hn => (h n hn).reportsFit) f.payload
    obtain ⟨hlater, hrest⟩ := ih hheard
    simp only [hearAll, hnodes, replies]
    exact ⟨List.rel_append hfirst hlater, hrest⟩

end SlaveBus

/-- The reports of the windows that a slave holds fit the link, whatever happened to the
slave. A window whose report does not is refused: the slave stays as it was, and tells so
if the order was its own. So a slave that has an answer to a frame gives it, as a frame
that the link carries to a receiver who reads exactly this answer, and a bus of slaves
sends every answer. -/
theorem reports_fit_link :
    (∀ n : SlaveNode, n.Reachable →
      (∀ w, n.conduction? = some w →
        w.count.toNat * ((w.total.toNat + 7) / 8) ≤ maxReportLength) ∧
      (∀ w, n.resistance? = some w → 2 * w.count.toNat ≤ maxReportLength) ∧
      (∀ address w, maxReportLength < w.count.toNat * ((w.total.toNat + 7) / 8) →
        n.process ⟨address, .masterToSlave (.configureConduction w)⟩ =
          (n, if address.id? = some n.id then
            some ⟨.device n.id, .slaveToMaster (.conductionInfo 1 w)⟩ else none)) ∧
      (∀ address w, maxReportLength < 2 * w.count.toNat →
        n.process ⟨address, .masterToSlave (.configureResistance w)⟩ =
          (n, if address.id? = some n.id then
            some ⟨.device n.id, .slaveToMaster (.resistanceInfo 1 w)⟩ else none)) ∧
      ∀ frame,
        match (Envelope.parse? (some n.id) frame).bind fun e => (n.process e).2 with
        | none => (n.respond frame).2 = .ok none
        | some answer => ∃ reply, (n.respond frame).2 = .ok (some reply) ∧
          reply.length = PacketHeader.size + answer.message.packetLength ∧
          Envelope.parse none reply = .ok answer ∧
          ∀ slot kind, ∃ encoding, Framer.encode {} slot kind reply = .ok encoding ∧
            Framer.feed {} encoding.wire = ([⟨slot, kind, reply⟩], {})) ∧
    ∀ b : SlaveBus, b.framer.config = {} → (∀ n ∈ b.nodes, n.Reachable) → ∀ bytes,
      List.Forall₂ SlaveBus.Sends (SlaveBus.replies b.nodes (b.framer.feed bytes).1)
        (b.receive bytes).1 ∧
      (b.receive bytes).2.framer.config = {} ∧ ∀ n ∈ (b.receive bytes).2.nodes, n.Reachable := by
  refine ⟨fun n hn => ⟨hn.reportsFit.conduction, hn.reportsFit.resistance, ?_, ?_, ?_⟩, ?_⟩
  · intro address w hw
    rw [SlaveNode.process_order, SlaveNode.obey_conduction_refused hw]
    rfl
  · intro address w hw
    rw [SlaveNode.process_order, SlaveNode.obey_resistance_refused hw]
    rfl
  · intro frame
    have hrespond := hn.reportsFit.respond frame
    split at hrespond
    · exact hrespond
    · obtain ⟨reply, hreply, hcarried⟩ := hrespond
      exact ⟨reply, hreply, hcarried.length, hcarried.read, hcarried.encode⟩
  · intro b hconfig hnodes bytes
    have hafter : (b.framer.feed bytes).2.config = {} := by rw [Framer.config_feed, hconfig]
    obtain ⟨hsends, hreachable⟩ := SlaveBus.hearAll_sends hafter (b.framer.feed bytes).1 hnodes
    exact ⟨hsends, hafter, hreachable⟩

/-- A slave whose report leaves no byte of the link frame over: 632 pins of a harness of
784 make 61936 bytes. -/
def SlaveNode.full : SlaveNode :=
  { id := ⟨1⟩, conduction? := some ⟨0, 10, 784, 0, 632⟩ }

theorem SlaveNode.reachable_full : full.Reachable :=
  (Reachable.new ⟨1⟩).process
    ⟨.device ⟨1⟩, .masterToSlave (.configureConduction ⟨0, 10, 784, 0, 632⟩)⟩

theorem SlaveNode.length_bitmap_full : full.bitmap.length = maxReportLength := by
  rw [bitmap_eq, full]
  simp [TestWindow.length_bitmap, TestWindow.conductionLength, TestWindow.rowWidth, maxReportLength]

theorem SlaveNode.process_full :
    (full.process ⟨.device ⟨1⟩, .masterToSlave (.readConduction 0)⟩).2 =
      some ⟨.slave ⟨1⟩ {}, .slaveToBackend (.conductionData full.bitmap)⟩ := by
  have haddress : (Address.device ⟨1⟩).id? = some full.id := rfl
  simp only [process_order, if_pos haddress]
  rfl

theorem reports_fit_link_to_the_byte :
    SlaveNode.full.Reachable ∧ SlaveNode.full.bitmap.length = maxReportLength ∧
      ∃ frame reply encoding, (SlaveNode.full.respond frame).2 = .ok (some reply) ∧
        Envelope.parse none reply =
          .ok ⟨.slave ⟨1⟩ {}, .slaveToBackend (.conductionData SlaveNode.full.bitmap)⟩ ∧
        Framer.encode {} 0 FrameKind.reply reply = .ok encoding ∧
        Framer.feed {} encoding.wire = ([⟨0, FrameKind.reply, reply⟩], {}) ∧
        (SlaveBus.receive ⟨[SlaveNode.full], {}⟩
          ((Frame.mk 0 FrameKind.command frame).wire {})).1 = [encoding.wire] := by
  obtain ⟨frame, -, hframe⟩ := Message.order_frame (.readConduction 0) ⟨1⟩
  have hparse := (hframe.read SlaveNode.full.id).trans (if_pos (Or.inl rfl))
  have hanswer := (reports_fit_link.1 SlaveNode.full SlaveNode.reachable_full).2.2.2.2 frame
  rw [hparse, Option.bind_some, SlaveNode.process_full] at hanswer
  obtain ⟨reply, hreply, -, hread, hencode⟩ := hanswer
  obtain ⟨encoding, hencoding, hfeed⟩ := hencode 0 FrameKind.reply
  refine ⟨SlaveNode.reachable_full, SlaveNode.length_bitmap_full, frame, reply, encoding, hreply,
    hread, hencoding, hfeed, ?_⟩
  have hheard : Framer.feed {} ((Frame.mk 0 FrameKind.command frame).wire {}) =
      ([⟨0, FrameKind.command, frame⟩], {}) :=
    Framer.feed_default (Nat.le_trans hframe.short (by decide))
  obtain ⟨hsends, -, -⟩ := reports_fit_link.2 ⟨[SlaveNode.full], {}⟩ rfl
    (by simpa using SlaveNode.reachable_full) ((Frame.mk 0 FrameKind.command frame).wire {})
  rw [hheard] at hsends
  simp only [SlaveBus.replies, List.filterMap_cons, hreply, Except.toOption, Option.join_some,
    List.filterMap_nil, List.append_nil] at hsends
  generalize (SlaveBus.receive ⟨[SlaveNode.full], {}⟩
    ((Frame.mk 0 FrameKind.command frame).wire {})).1 = sent at hsends
  cases hsends with
  | cons hsent hnone =>
    cases hnone
    rw [SlaveBus.Sends, SlaveBus.slot, hencoding] at hsent
    rw [← Except.ok.inj hsent]

end HarnessLink
