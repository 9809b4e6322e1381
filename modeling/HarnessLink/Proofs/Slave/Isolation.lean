import HarnessLink.Proofs.Frame.Chunking
import HarnessLink.Proofs.Slave.Reports

/-!
# Slaves on one link keep apart

The slaves of a bus share its framer and hear the same frames, and nothing else passes between
them: what a slave holds and answers is what it would hold and answer alone, also when the
answer of another cannot be sent. The answers of a bus stand in the order of the frames, and
those to one frame in the order of the slaves. A frame names one device. Only a slave of this id
answers it, and only this slave changes, unless the frame is for everyone.
-/
namespace HarnessLink

/-! ## The device that a frame names -/

/-- The device that a frame names, if the frame can be read. -/
def Frame.destination? (f : Frame) : Option DeviceId :=
  (Envelope.parse? none f.payload).bind Envelope.device?

/-- An order is read from a packet to a slave only. -/
theorem Message.direction_of_read {direction : Direction} {id : UInt8} {body : Bytes}
    {order : MasterToSlave} (h : read direction id body = .ok (.masterToSlave order)) :
    direction = .masterToSlave := by
  unfold read at h
  split at h <;> obtain ⟨_, _, hsame⟩ := ok_of_map h <;> cases hsame
  rfl

namespace Envelope

theorem parse?_eq_some_iff {own : Option DeviceId} {frame : Bytes} {e : Envelope} :
    parse? own frame = some e ↔ parse own frame = .ok e := by
  rw [parse?]
  cases parse own frame <;> simp [Except.toOption]

/-- A packet to a slave that is not left to another device is for everyone, or for this one. -/
theorem reaches_of_otherDestination? {own : DeviceId} {p : Packet}
    (h : otherDestination? (some own) p = none) (hdirection : p.direction = .masterToSlave)
    (hfits : p.address.fits .masterToSlave = true) :
    ∃ id, p.address.id? = some id ∧ id.Reaches own := by
  cases haddress : p.address with
  | device id =>
    refine ⟨id, rfl, ?_⟩
    simp only [otherDestination?, hdirection, haddress, Address.id?] at h
    by_cases hreaches : id = own ∨ id.isBroadcast = true
    · exact hreaches
    · rw [if_neg hreaches] at h
      cases h
  | _ => simp [haddress, Address.fits] at hfits

/-- What a slave reads from a frame everyone reads who has no id. -/
theorem parse?_of_own {own : DeviceId} {frame : Bytes} {e : Envelope}
    (h : parse? (some own) frame = some e) : parse? none frame = some e := by
  obtain ⟨header, direction, p, message, hheader, hlength, hdirection, hp, -, hmessage, he⟩ :=
    parse_eq_ok_iff.mp (parse?_eq_some_iff.mp h)
  exact parse?_eq_some_iff.mpr (parse_eq_ok_iff.mpr ⟨header, direction, p, message, hheader,
    hlength, hdirection, hp, otherDestination?_none p, hmessage, he⟩)

/-- An order that a slave reads is for the slave. -/
theorem reaches_of_parse? {own : DeviceId} {frame : Bytes} {address : Address}
    {order : MasterToSlave}
    (h : parse? (some own) frame = some ⟨address, .masterToSlave order⟩) :
    ∃ id, address.id? = some id ∧ id.Reaches own := by
  obtain ⟨header, direction, p, message, -, -, -, hp, hown, hmessage, he⟩ :=
    parse_eq_ok_iff.mp (parse?_eq_some_iff.mp h)
  obtain ⟨rfl, rfl⟩ := Envelope.mk.inj he
  obtain rfl := Message.direction_of_read hmessage
  obtain ⟨hdirection, hfits⟩ := Packet.fits_of_ofWire hp
  exact reaches_of_otherDestination? hown hdirection hfits

end Envelope

namespace SlaveNode

/-- Only the slave that a frame names answers it. -/
theorem destination?_of_answer {n : SlaveNode} {f : Frame}
    (h : (n.respond f.payload).2 ≠ .ok none) : f.destination? = some n.id := by
  rw [respond] at h
  split at h
  · exact absurd rfl h
  next e he =>
  rw [Frame.destination?, Envelope.parse?_of_own he, Option.bind_some]
  cases hmessage : e.message with
  | masterToSlave order =>
    by_cases hself : e.device? = some n.id
    · exact hself
    · simp only [process, hmessage, if_neg hself] at h
      exact absurd rfl h
  | _ =>
    simp only [process, hmessage] at h
    exact absurd rfl h

/-- A slave changes by a frame only if the frame names the slave, or everyone. -/
theorem destination?_of_change {n : SlaveNode} {f : Frame} (h : (n.respond f.payload).1 ≠ n) :
    ∃ id, f.destination? = some id ∧ id.Reaches n.id := by
  rw [respond] at h
  split at h
  · exact absurd rfl h
  next e he =>
  obtain ⟨address, message⟩ := e
  rw [Frame.destination?, Envelope.parse?_of_own he, Option.bind_some]
  cases message with
  | masterToSlave order => exact Envelope.reaches_of_parse? he
  | _ =>
    simp only [process] at h
    exact absurd rfl h

end SlaveNode
/-! ## Answers with their places -/

namespace SlaveNode

theorem respond_id (n : SlaveNode) (frame : Bytes) : (n.respond frame).1.id = n.id := by
  obtain hsame | ⟨e, he⟩ := n.respond_fst frame
  · rw [hsame]
  · obtain hsame | ⟨order, horder⟩ := n.process_fst e
    · rw [he, hsame]
    · rw [he, horder, obey_id]

/-- The answer of a slave to a frame, as a bus sends it. -/
def answer? (framer : Framer) (n : SlaveNode) (f : Frame) : Option Bytes :=
  SlaveBus.wire? framer (n.respond f.payload).2

theorem destination?_of_answer? {framer : Framer} {n : SlaveNode} {f : Frame} {wire : Bytes}
    (h : n.answer? framer f = some wire) : f.destination? = some n.id := by
  apply destination?_of_answer
  intro hsilent
  rw [answer?, hsilent] at h
  cases h

end SlaveNode

/-- An answer of a bus, with the place of its frame in the stream and of its slave on the bus. -/
structure PlacedAnswer where
  frame : Nat
  node : Nat
  wire : Bytes
  deriving DecidableEq

namespace SlaveBus

/-- The slaves after they heard a frame. -/
def afterFrame (nodes : List SlaveNode) (f : Frame) : List SlaveNode :=
  nodes.map fun n => (n.respond f.payload).1

/-- The answers to the frame at place `k`. -/
def answersTo (framer : Framer) (k : Nat) (nodes : List SlaveNode) (f : Frame) :
    List PlacedAnswer :=
  nodes.zipIdx.filterMap fun (n, i) => (n.answer? framer f).map fun wire => ⟨k, i, wire⟩

/-- The answers to frames in turn, the first of which is at place `k`. -/
def placedAnswers (framer : Framer) : Nat → List SlaveNode → List Frame → List PlacedAnswer
  | _, _, [] => []
  | k, nodes, f :: rest =>
    answersTo framer k nodes f ++ placedAnswers framer (k + 1) (afterFrame nodes f) rest

section Hearing

variable {framer : Framer} {nodes : List SlaveNode} {f : Frame} {frames : List Frame} {k : Nat}

theorem hear_eq (framer : Framer) (nodes : List SlaveNode) (f : Frame) :
    hear framer nodes f.payload =
      (afterFrame nodes f, nodes.filterMap fun n => n.answer? framer f) := by
  simp only [hear, afterFrame, List.map_map, List.filterMap_map]
  rfl

theorem hearAll_cons (framer : Framer) (nodes : List SlaveNode) (f : Frame) (rest : List Frame) :
    hearAll framer nodes (f :: rest) =
      ((hearAll framer (afterFrame nodes f) rest).1,
        (nodes.filterMap fun n => n.answer? framer f) ++
          (hearAll framer (afterFrame nodes f) rest).2) := by
  rw [hearAll, hear_eq]

/-- What the slaves are afterwards, frame by frame. -/
theorem hearAll_nodes (framer : Framer) (nodes : List SlaveNode) (frames : List Frame) :
    (hearAll framer nodes frames).1 = frames.foldl afterFrame nodes := by
  induction frames generalizing nodes with
  | nil => rfl
  | cons f rest ih => rw [hearAll_cons, ih, List.foldl_cons]

/-- Frames may be heard in two parts. -/
theorem hearAll_append (framer : Framer) (nodes : List SlaveNode) (frames more : List Frame) :
    hearAll framer nodes (frames ++ more) =
      ((hearAll framer (hearAll framer nodes frames).1 more).1,
        (hearAll framer nodes frames).2 ++
          (hearAll framer (hearAll framer nodes frames).1 more).2) := by
  induction frames generalizing nodes with
  | nil => rfl
  | cons f rest ih => simp only [List.cons_append, hearAll_cons, ih, List.append_assoc]

/-- Of its framer a bus uses the settings for its answers. -/
theorem hearAll_config {framer framer' : Framer} (h : framer.config = framer'.config)
    (nodes : List SlaveNode) (frames : List Frame) :
    hearAll framer nodes frames = hearAll framer' nodes frames := by
  have hwire : wire? framer = wire? framer' := by
    funext answer
    unfold wire? Framer.encode
    rw [h]
  induction frames generalizing nodes with
  | nil => rfl
  | cons f rest ih => simp only [hearAll_cons, ih, SlaveNode.answer?, hwire]

/-- Without their places the answers are those that the bus sends. -/
theorem wires_placedAnswers (framer : Framer) (k : Nat) (nodes : List SlaveNode)
    (frames : List Frame) :
    (placedAnswers framer k nodes frames).map PlacedAnswer.wire =
      (hearAll framer nodes frames).2 := by
  induction frames generalizing k nodes with
  | nil => rfl
  | cons f rest ih =>
    have hanswers : (answersTo framer k nodes f).map PlacedAnswer.wire =
        nodes.filterMap fun n => n.answer? framer f := by
      rw [answersTo, List.map_filterMap]
      conv_rhs => rw [← List.zipIdx_map_fst 0 nodes, List.filterMap_map]
      congr 1
      funext p
      simp [Function.comp_def]
    rw [placedAnswers, List.map_append, hanswers, ih, hearAll_cons]

/-! ## One slave of many -/

theorem mem_answersTo {a : PlacedAnswer} :
    a ∈ answersTo framer k nodes f ↔
      a.frame = k ∧ ∃ n, nodes[a.node]? = some n ∧ n.answer? framer f = some a.wire := by
  simp only [answersTo, List.mem_filterMap, List.mem_zipIdx_iff_getElem?, Option.map_eq_some_iff,
    Prod.exists]
  constructor
  · rintro ⟨n, i, hn, wire, hwire, rfl⟩
    exact ⟨rfl, n, hn, hwire⟩
  · rintro ⟨rfl, n, hn, hwire⟩
    exact ⟨n, a.node, hn, a.wire, hwire, rfl⟩

/-- Among the elements of a list with their places the place finds the element. -/
theorem filter_zipIdx {α : Type} {l : List α} {i : Nat} {a : α} (h : l[i]? = some a)
    (start : Nat) : (l.zipIdx start).filter (fun p => p.2 = start + i) = [(a, start + i)] := by
  induction l generalizing i start with
  | nil => cases h
  | cons x rest ih =>
    rw [List.zipIdx_cons]
    cases i with
    | zero =>
      obtain rfl := Option.some.inj h
      have hrest : (rest.zipIdx (start + 1)).filter (fun p => p.2 = start + 0) = [] := by
        rw [List.filter_eq_nil_iff]
        intro p hp
        have hlater := List.le_snd_of_mem_zipIdx hp
        simp only [decide_eq_true_eq]
        omega
      rw [List.filter_cons_of_pos (by simp), hrest]
      rfl
    | succ i =>
      have hplace : start + (i + 1) = start + 1 + i := by omega
      rw [List.filter_cons_of_neg (by simp), hplace]
      exact ih h (start + 1)

/-- Of the answers to a frame one slave gives its own. -/
theorem answersTo_of_node {i : Nat} {n : SlaveNode} (hn : nodes[i]? = some n) :
    ((answersTo framer k nodes f).filter fun a => a.node = i).map PlacedAnswer.wire =
      (n.answer? framer f).toList := by
  have hplace : nodes.zipIdx.filter (fun p => p.2 = i) = [(n, i)] := by
    simpa using filter_zipIdx hn 0
  have hown : (answersTo framer k nodes f).filter (fun a => a.node = i) =
      (nodes.zipIdx.filter fun p => p.2 = i).filterMap fun (n, i) =>
        (n.answer? framer f).map fun wire => ⟨k, i, wire⟩ := by
    rw [answersTo, List.filter_filterMap, List.filterMap_filter]
    congr 1
    funext p
    by_cases hi : p.2 = i <;> cases hanswer : p.1.answer? framer f <;> simp [hi, hanswer]
  rw [hown, hplace]
  cases hanswer : n.answer? framer f <;> simp [hanswer]

/-- The slaves are heard one by one. -/
theorem getElem?_afterFrame (nodes : List SlaveNode) (f : Frame) (i : Nat) :
    (afterFrame nodes f)[i]? = nodes[i]?.map fun n => (n.respond f.payload).1 :=
  List.getElem?_map

/-- A slave of a bus becomes what it becomes alone, and gives the answers that it gives alone. -/
theorem hearAll_alone (framer : Framer) {i : Nat} {n : SlaveNode} (hn : nodes[i]? = some n)
    (k : Nat) (frames : List Frame) :
    ∃ n', hearAll framer [n] frames = ([n'],
        ((placedAnswers framer k nodes frames).filter fun a => a.node = i).map
          PlacedAnswer.wire) ∧
      (hearAll framer nodes frames).1[i]? = some n' := by
  induction frames generalizing k nodes n with
  | nil => exact ⟨n, rfl, hn⟩
  | cons f rest ih =>
    have hafter : (afterFrame nodes f)[i]? = some (n.respond f.payload).1 := by
      rw [getElem?_afterFrame, hn, Option.map_some]
    obtain ⟨n', halone, hsame⟩ := ih hafter (k + 1)
    refine ⟨n', ?_, ?_⟩
    · have hone : afterFrame [n] f = [(n.respond f.payload).1] := rfl
      rw [hearAll_cons, hone, halone, placedAnswers, List.filter_append, List.map_append,
        answersTo_of_node hn]
      cases hanswer : n.answer? framer f <;> simp [hanswer]
    · rw [hearAll_cons]
      exact hsame

/-! ## The order of the answers -/

/-- The answers to one frame stand in the order of the slaves. -/
theorem answersTo_pairwise (framer : Framer) (k : Nat) (nodes : List SlaveNode) (f : Frame) :
    (answersTo framer k nodes f).Pairwise fun a later => a.node < later.node := by
  have hplaces : nodes.zipIdx.Pairwise fun p later => p.2 < later.2 := by
    rw [← List.pairwise_map, List.zipIdx_map_snd]
    exact List.pairwise_lt_range'
  apply hplaces.filterMap
  intro p later hlt a ha b hb
  obtain ⟨_, _, rfl⟩ := Option.map_eq_some_iff.mp ha
  obtain ⟨_, _, rfl⟩ := Option.map_eq_some_iff.mp hb
  exact hlt

theorem le_frame_of_mem {a : PlacedAnswer} (h : a ∈ placedAnswers framer k nodes frames) :
    k ≤ a.frame := by
  induction frames generalizing k nodes with
  | nil => cases h
  | cons f rest ih =>
    obtain hfirst | hlater := List.mem_append.mp h
    · exact Nat.le_of_eq (mem_answersTo.mp hfirst).1.symm
    · exact Nat.le_of_succ_le (ih hlater)

/-- Answers to earlier frames come first. Those to one frame stand as they do for all slaves
that have what every frame keeps. -/
theorem placedAnswers_pairwise {r : PlacedAnswer → PlacedAnswer → Prop}
    {p : List SlaveNode → Prop} (hearlier : ∀ a later, a.frame < later.frame → r a later)
    (hframe : ∀ k nodes f, p nodes → (answersTo framer k nodes f).Pairwise r)
    (hstep : ∀ nodes f, p nodes → p (afterFrame nodes f)) (hnodes : p nodes) (k : Nat)
    (frames : List Frame) : (placedAnswers framer k nodes frames).Pairwise r := by
  induction frames generalizing k nodes with
  | nil => exact .nil
  | cons f rest ih =>
    refine List.pairwise_append.mpr
      ⟨hframe k nodes f hnodes, ih (hstep nodes f hnodes) (k + 1), ?_⟩
    intro a ha later hlater
    apply hearlier
    rw [(mem_answersTo.mp ha).1]
    exact le_frame_of_mem hlater

/-- The answers of a bus stand in the order of the frames, then of the slaves. -/
theorem placedAnswers_ordered (framer : Framer) (k : Nat) (nodes : List SlaveNode)
    (frames : List Frame) :
    (placedAnswers framer k nodes frames).Pairwise fun a later =>
      a.frame < later.frame ∨ a.frame = later.frame ∧ a.node < later.node := by
  refine placedAnswers_pairwise (p := fun _ => True) (fun _ _ h => Or.inl h)
    (fun k nodes f _ => ?_) (fun _ _ h => h) trivial k frames
  apply (answersTo_pairwise framer k nodes f).imp_of_mem
  intro a later ha hlater hlt
  exact Or.inr ⟨(mem_answersTo.mp ha).1.trans (mem_answersTo.mp hlater).1.symm, hlt⟩

/-! ## Distinct ids -/

theorem ids_afterFrame (nodes : List SlaveNode) (f : Frame) :
    (afterFrame nodes f).map SlaveNode.id = nodes.map SlaveNode.id := by
  rw [afterFrame, List.map_map]
  apply List.map_congr_left
  intro n _
  exact n.respond_id f.payload

theorem ids_foldl_afterFrame (nodes : List SlaveNode) (frames : List Frame) :
    (frames.foldl afterFrame nodes).map SlaveNode.id = nodes.map SlaveNode.id := by
  induction frames generalizing nodes with
  | nil => rfl
  | cons f rest ih => rw [List.foldl_cons, ih, ids_afterFrame]

/-- An id finds one slave only. -/
theorem place_unique (hids : (nodes.map SlaveNode.id).Nodup) {i j : Nat} {n m : SlaveNode}
    (hi : nodes[i]? = some n) (hj : nodes[j]? = some m) (h : n.id = m.id) : i = j := by
  have hlt : i < (nodes.map SlaveNode.id).length := by
    rw [List.length_map]
    exact (List.getElem?_eq_some_iff.mp hi).1
  apply (List.getElem?_inj hlt hids).mp
  rw [List.getElem?_map, List.getElem?_map, hi, hj, Option.map_some, Option.map_some, h]

/-- One slave at most answers a frame. -/
theorem placedAnswers_distinct (framer : Framer) (k : Nat) (hids : (nodes.map SlaveNode.id).Nodup)
    (frames : List Frame) :
    (placedAnswers framer k nodes frames).Pairwise fun a later => a.frame < later.frame := by
  refine placedAnswers_pairwise (p := fun nodes => (nodes.map SlaveNode.id).Nodup)
    (fun _ _ h => h) (fun k nodes f hids => ?_) (fun nodes f h => by rwa [ids_afterFrame]) hids k
    frames
  apply (answersTo_pairwise framer k nodes f).imp_of_mem
  intro a later ha hlater hlt
  obtain ⟨-, n, hn, hanswer⟩ := mem_answersTo.mp ha
  obtain ⟨-, m, hm, hanswer'⟩ := mem_answersTo.mp hlater
  have hsame : some n.id = some m.id :=
    (SlaveNode.destination?_of_answer? hanswer).symm.trans
      (SlaveNode.destination?_of_answer? hanswer')
  exact absurd (place_unique hids hn hm (Option.some.inj hsame)) (Nat.ne_of_lt hlt)

/-- Of the slaves at most one changed, and it is one that the frame names. -/
def ChangesNamed (f : Frame) (before after : List SlaveNode) : Prop :=
  (∀ i : Nat, after[i]? ≠ before[i]? →
      ∃ n, before[i]? = some n ∧ f.destination? = some n.id) ∧
    ∀ i j : Nat, after[i]? ≠ before[i]? → after[j]? ≠ before[j]? → i = j

/-- A frame that is not for everyone changes the slave that it names. -/
theorem changesNamed_afterFrame (hids : (nodes.map SlaveNode.id).Nodup)
    (hone : f.destination? ≠ some .broadcast) : ChangesNamed f nodes (afterFrame nodes f) := by
  have hnamed : ∀ i : Nat, (afterFrame nodes f)[i]? ≠ nodes[i]? →
      ∃ n, nodes[i]? = some n ∧ f.destination? = some n.id := by
    intro i hi
    rw [getElem?_afterFrame] at hi
    cases hn : nodes[i]? with
    | none =>
      rw [hn] at hi
      exact absurd rfl hi
    | some n =>
      rw [hn, Option.map_some] at hi
      have hchange : (n.respond f.payload).1 ≠ n := fun h => hi (congrArg some h)
      obtain ⟨id, hid, rfl | hall⟩ := SlaveNode.destination?_of_change hchange
      · exact ⟨n, rfl, hid⟩
      · obtain rfl : id = .broadcast := of_decide_eq_true hall
        exact absurd hid hone
  refine ⟨hnamed, ?_⟩
  intro i j hi hj
  obtain ⟨n, hn, hid⟩ := hnamed i hi
  obtain ⟨m, hm, hid'⟩ := hnamed j hj
  exact place_unique hids hn hm (Option.some.inj (hid.symm.trans hid'))

end Hearing

/-! ## Pieces of a stream -/

/-- Take pieces of a stream one by one. -/
def receiveEach (b : SlaveBus) : List Bytes → List Bytes × SlaveBus
  | [] => ([], b)
  | piece :: rest =>
    let (answers, b) := b.receive piece
    let (later, b) := b.receiveEach rest
    (answers ++ later, b)

/-- The slaves hear the frames that the framer makes of the pieces. -/
theorem receiveEach_eq (b : SlaveBus) (pieces : List Bytes) :
    b.receiveEach pieces =
      let fed := b.framer.runEach Framer.feed pieces
      let heard := hearAll b.framer b.nodes fed.1
      (heard.2, ⟨heard.1, fed.2⟩) := by
  induction pieces generalizing b with
  | nil => rfl
  | cons piece rest ih =>
    have hconfig : (b.framer.feed piece).2.config = b.framer.config := rfl
    simp only [receiveEach, receive, ih, Framer.runEach, hearAll_append,
      hearAll_config hconfig]

/-- The slaves of a bus do not interfere, whatever comes in whatever pieces. Each ends as it ends
on a bus of its own with the same framer, and the answers of the bus with its place are those
that it gives there. The answers stand in the order of the frames, and those to one frame in the
order of the slaves. With distinct ids at most one answer is given to a frame, and a frame that
is not for everyone changes at most the one slave that it names. -/
theorem nodes_keep_apart (b : SlaveBus) (pieces : List Bytes) :
    let frames := (b.framer.runEach Framer.feed pieces).1
    let run := b.receiveEach pieces
    let placed := placedAnswers b.framer 0 b.nodes frames
    let before := fun k => (hearAll b.framer b.nodes (frames.take k)).1
    run.1 = placed.map PlacedAnswer.wire ∧ before frames.length = run.2.nodes ∧
    (∀ i n, b.nodes[i]? = some n →
      let alone := SlaveBus.receiveEach { b with nodes := [n] } pieces
      alone.1 = (placed.filter fun a => a.node = i).map PlacedAnswer.wire ∧
        ∃ n', alone.2 = { run.2 with nodes := [n'] } ∧ run.2.nodes[i]? = some n') ∧
    (placed.Pairwise fun a later =>
      a.frame < later.frame ∨ a.frame = later.frame ∧ a.node < later.node) ∧
    (b.ids.Nodup →
      (placed.Pairwise fun a later => a.frame < later.frame) ∧
      ∀ k f, frames[k]? = some f → f.destination? ≠ some .broadcast →
        ChangesNamed f (before k) (before (k + 1))) ∧
    ∀ pieces', pieces ≠ [] → pieces' ≠ [] → pieces'.flatten = pieces.flatten →
      b.receiveEach pieces' = run := by
  intro frames run placed before
  have hrun : run = _ := b.receiveEach_eq pieces
  refine ⟨?_, ?_, ?_, placedAnswers_ordered _ _ _ _, ?_, ?_⟩
  · rw [hrun]
    exact (wires_placedAnswers b.framer 0 b.nodes frames).symm
  · rw [hrun]
    simp only [before, List.take_length, frames]
  · intro i n hn alone
    have halone : alone = _ := receiveEach_eq { b with nodes := [n] } pieces
    obtain ⟨n', hheard, hsame⟩ := hearAll_alone b.framer hn 0 frames
    rw [halone, hrun]
    simp only [frames] at hheard
    simp only [hheard]
    exact ⟨rfl, n', rfl, hsame⟩
  · intro hids
    refine ⟨placedAnswers_distinct b.framer 0 hids frames, ?_⟩
    intro k f hf hone
    have hbefore : before (k + 1) = afterFrame (before k) f := by
      simp only [before, hearAll_nodes, List.take_add_one, hf, Option.toList_some,
        List.foldl_append, List.foldl_cons, List.foldl_nil]
    have hkept : ((before k).map SlaveNode.id).Nodup := by
      simp only [before, hearAll_nodes, ids_foldl_afterFrame]
      exact hids
    rw [hbefore]
    exact changesNamed_afterFrame hkept hone
  · intro pieces' hne hne' hflatten
    rw [hrun, receiveEach_eq]
    rw [Framer.runEach_feed hne, Framer.runEach_feed hne', hflatten]

end SlaveBus

end HarnessLink
