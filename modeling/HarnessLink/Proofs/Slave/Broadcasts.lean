import HarnessLink.Proofs.Slave.Isolation

/-!
# Orders to everyone

An order to everyone is carried out by each slave of a bus as if it had been sent to this slave.
No answer may follow, so that slaves on one link do not talk over each other, and none does as
long as no slave has the id for everyone as its own. A slave tells its own orders by comparing
ids, and to a slave of that id an order to everyone is one of its own: it answers.
-/
namespace HarnessLink

/-- An order to everyone is read by every slave. -/
theorem Envelope.parse?_everyone {frame : Bytes} {order : MasterToSlave}
    (h : parse? none frame = some ⟨.device .broadcast, .masterToSlave order⟩) (own : DeviceId) :
    parse? (some own) frame = some ⟨.device .broadcast, .masterToSlave order⟩ := by
  obtain ⟨header, direction, p, message, hheader, hlength, hkind, hp, -, hmessage, he⟩ :=
    parse_eq_ok_iff.mp (parse?_eq_some_iff.mp h)
  have hown : otherDestination? (some own) p = none := by
    obtain ⟨haddress, rfl⟩ := Envelope.mk.inj he
    obtain rfl := Message.direction_of_read hmessage
    obtain ⟨hdirection, -⟩ := Packet.fits_of_ofWire hp
    have hall : DeviceId.isBroadcast .broadcast = true := by decide
    simp [otherDestination?, hdirection, haddress, Address.id?, hall]
  exact parse?_eq_some_iff.mpr (parse_eq_ok_iff.mpr ⟨header, direction, p, message, hheader,
    hlength, hkind, hp, hown, hmessage, he⟩)

/-- A slave takes an order to everyone as one to itself, but answers only if everyone's id is
its own. -/
theorem SlaveNode.respond_everyone {frame : Bytes} {order : MasterToSlave}
    (h : Envelope.parse? none frame = some ⟨.device .broadcast, .masterToSlave order⟩)
    (n : SlaveNode) :
    ∃ own, (Message.masterToSlave order).frame (.device n.id) = .ok own ∧
      (n.respond frame).1 = (n.respond own).1 ∧
      (n.respond frame).2 = if n.id = .broadcast then (n.respond own).2 else .ok none := by
  have hread := Envelope.parse?_everyone h n.id
  obtain ⟨own, hframe, horder⟩ := Message.order_frame order n.id
  have hown : Envelope.parse? (some n.id) own = some ⟨.device n.id, .masterToSlave order⟩ := by
    rw [horder.read, if_pos (Or.inl rfl)]
  refine ⟨own, hframe, ?_⟩
  by_cases hself : n.id = .broadcast
  · have hsame : n.respond frame = n.respond own := by
      rw [← hself] at hread
      rw [respond_order hread, respond_order hown]
    simp [hsame, hself]
  · rw [respond_broadcast hread hself, respond_order hown, if_neg hself]
    exact ⟨rfl, rfl⟩

namespace SlaveBus

/-- The answers that slave `i` gives to the frame at place `j` are those that it gives to this
frame after all before it. -/
theorem mem_placedAnswers {framer : Framer} {k j i : Nat} {nodes : List SlaveNode}
    {frames : List Frame} {f : Frame} (hf : frames[j]? = some f) {wire : Bytes} :
    ⟨k + j, i, wire⟩ ∈ placedAnswers framer k nodes frames ↔
      ∃ n, (hearAll framer nodes (frames.take j)).1[i]? = some n ∧
        n.answer? framer f = some wire := by
  induction frames generalizing k j nodes with
  | nil => cases hf
  | cons first rest ih =>
    rw [placedAnswers, List.mem_append]
    cases j with
    | zero =>
      obtain rfl := Option.some.inj hf
      have hlater : ⟨k, i, wire⟩ ∉ placedAnswers framer (k + 1) (afterFrame nodes first) rest := by
        intro hmem
        exact Nat.not_succ_le_self k (le_frame_of_mem hmem)
      simp [mem_answersTo, hlater, hearAll]
    | succ j =>
      have hfirst : ⟨k + (j + 1), i, wire⟩ ∉ answersTo framer k nodes first := by
        intro hmem
        have hframe := (mem_answersTo.mp hmem).1
        dsimp only at hframe
        omega
      have hplace : k + (j + 1) = k + 1 + j := by omega
      rw [List.take_succ_cons, hearAll_cons, ← ih (k := k + 1) hf, ← hplace]
      simp [hfirst]

/-- The slaves after one more frame. -/
theorem hearAll_take_succ (framer : Framer) (nodes : List SlaveNode) {frames : List Frame}
    {k : Nat} {f : Frame} (hf : frames[k]? = some f) :
    (hearAll framer nodes (frames.take (k + 1))).1 =
      afterFrame (hearAll framer nodes (frames.take k)).1 f := by
  simp only [hearAll_nodes, List.take_add_one, hf, Option.toList_some, List.foldl_append,
    List.foldl_cons, List.foldl_nil]

/-- Whatever a bus received before, an order to everyone makes of each slave what the same order
to this slave makes of it. A slave answers only if everyone's id is its own, and then as it would
answer an order to itself. So if no slave has this id, nobody answers. -/
theorem broadcasts_carried_out (b : SlaveBus) (pieces : List Bytes) :
    let frames := (b.framer.runEach Framer.feed pieces).1
    let placed := placedAnswers b.framer 0 b.nodes frames
    let before := fun k => (hearAll b.framer b.nodes (frames.take k)).1
    (b.receiveEach pieces).1 = placed.map PlacedAnswer.wire ∧
    ∀ k f order, frames[k]? = some f →
      Envelope.parse? none f.payload = some ⟨.device .broadcast, .masterToSlave order⟩ →
      (∀ i n, (before k)[i]? = some n →
        ∃ own, (Message.masterToSlave order).frame (.device n.id) = .ok own ∧
          (before (k + 1))[i]? = some (n.respond own).1 ∧
          ∀ wire, ⟨k, i, wire⟩ ∈ placed ↔
            n.id = .broadcast ∧ wire? b.framer (n.respond own).2 = some wire) ∧
      (.broadcast ∉ b.ids → ∀ a ∈ placed, a.frame ≠ k) := by
  intro frames placed before
  refine ⟨?_, ?_⟩
  · rw [receiveEach_eq]
    exact (wires_placedAnswers b.framer 0 b.nodes frames).symm
  intro k f order hf horder
  have hplaced : ∀ i wire, ⟨k, i, wire⟩ ∈ placed ↔
      ∃ n, (before k)[i]? = some n ∧ n.answer? b.framer f = some wire := by
    intro i wire
    rw [← mem_placedAnswers (k := 0) hf, Nat.zero_add]
  refine ⟨?_, ?_⟩
  · intro i n hn
    obtain ⟨own, hown, hstate, hanswer⟩ := n.respond_everyone horder
    refine ⟨own, hown, ?_, ?_⟩
    · have hafter : before (k + 1) = afterFrame (before k) f := hearAll_take_succ _ _ hf
      rw [hafter, getElem?_afterFrame, hn, Option.map_some, hstate]
    · intro wire
      rw [hplaced, hn]
      by_cases hself : n.id = .broadcast <;> simp [SlaveNode.answer?, hanswer, hself, wire?]
  · intro hids a ha hk
    subst hk
    obtain ⟨n, hn, hanswer⟩ := (hplaced a.node a.wire).mp ha
    obtain ⟨own, -, -, hsilent⟩ := n.respond_everyone horder
    have hmem : n.id ∈ (before a.frame).map SlaveNode.id :=
      List.mem_map_of_mem (List.mem_of_getElem? hn)
    have hsame : (before a.frame).map SlaveNode.id = b.ids := by
      simp only [before, hearAll_nodes, ids_foldl_afterFrame]
      rfl
    have hother : n.id ≠ .broadcast := by
      intro hself
      rw [hsame, hself] at hmem
      exact hids hmem
    simp [SlaveNode.answer?, hsilent, hother, wire?] at hanswer

/-- Two slaves are locked by one order to everyone, and neither answers. -/
theorem broadcasts_carried_out_reset :
    let b : SlaveBus := { nodes := [{ id := ⟨6⟩ }, { id := ⟨7⟩ }] }
    let f : Frame := ⟨0, FrameKind.command,
      [0xAB, 0xCD, 0, 0, 0, 8, 0, 0x30, 0xFF, 0xFF, 0xFF, 0xFF, 1, 5, 0]⟩
    let frames := (b.framer.runEach Framer.feed [f.wire {}]).1
    let order := MasterToSlave.reset ⟨1, 5⟩
    frames[0]? = some f ∧
      Envelope.parse? none f.payload = some ⟨.device .broadcast, .masterToSlave order⟩ ∧
      .broadcast ∉ b.ids ∧
      (∀ a ∈ placedAnswers b.framer 0 b.nodes frames, a.frame ≠ 0) ∧
      (∃ own, (Message.masterToSlave order).frame (.device ⟨7⟩) = .ok own ∧
        (hearAll b.framer b.nodes (frames.take 1)).1[1]? =
          some (SlaveNode.respond { id := ⟨7⟩ } own).1) := by
  intro b f frames order
  have hframes : frames = [f] := by
    simp only [frames, Framer.runEach, b, Framer.feed_default (f := f) (by decide)]
    rfl
  have hf : frames[0]? = some f := by rw [hframes]; rfl
  have horder : Envelope.parse? none f.payload =
      some ⟨.device .broadcast, .masterToSlave order⟩ := by decide
  have hids : .broadcast ∉ b.ids := by decide
  obtain ⟨hnodes, hsilent⟩ :=
    (broadcasts_carried_out b [f.wire {}]).2 0 f order hf horder
  obtain ⟨own, hown, hafter, -⟩ := hnodes 1 { id := ⟨7⟩ } rfl
  exact ⟨hf, horder, hids, hsilent hids, own, hown, hafter⟩

/-- A slave may have the id for everyone, and it answers a ping to everyone. -/
theorem broadcast_answered :
    let b : SlaveBus := { nodes := [{ id := .broadcast }] }
    let f : Frame := ⟨0, FrameKind.command,
      [0xAB, 0xCD, 0, 0, 0, 11, 0, 0x40, 0xFF, 0xFF, 0xFF, 0xFF, 1, 0, 0, 0, 0, 0]⟩
    DeviceId.ofText? "FF-FF-FF-FF" = some .broadcast ∧
      Envelope.parse? none f.payload =
        some ⟨.device .broadcast, .masterToSlave (.ping ⟨1, 0⟩)⟩ ∧
      ∃ answer : Frame, Envelope.parse? none answer.payload =
          some ⟨.device .broadcast, .slaveToMaster (.pong ⟨1, 0⟩)⟩ ∧
        (b.receive (f.wire {})).1 = [answer.wire {}] := by
  intro b f
  have horder : Envelope.parse? none f.payload =
      some ⟨.device .broadcast, .masterToSlave (.ping ⟨1, 0⟩)⟩ := by decide
  have hframe : Message.OrderFrame (.ping ⟨1, 0⟩) .broadcast f.payload := by
    refine ⟨by decide, fun own => ?_⟩
    rw [Envelope.parse?_everyone horder, if_pos (Or.inr (by decide))]
  obtain ⟨answer, -, hanswer, hreceive⟩ :=
    receive_order_answered (b := b) rfl (by decide) rfl rfl rfl hframe 0
      FrameKind.command
  exact ⟨by decide, horder, answer, hanswer, congrArg Prod.fst hreceive⟩

end SlaveBus

end HarnessLink
