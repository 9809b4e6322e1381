import HarnessLink.Proofs.Frame.Whole
import HarnessLink.Proofs.Slave.Isolation
import Mathlib.Data.List.Nodup

/-!
# Frames that come again

A slave that gets a frame a second time answers as it did the first time, and nothing changes
any more: an order stores what it brings or reads what is stored, and which of the two a slave
refuses does not depend on what it holds. So a bus at rest that hears the same link bytes again
sends the same answers and stays as the first delivery left it.
-/
namespace HarnessLink

namespace SlaveNode

theorem process_again (n : SlaveNode) (e : Envelope) : (n.process e).1.process e = n.process e := by
  obtain ⟨address, message⟩ := e
  cases message with
  | masterToSlave order =>
    rw [process_order n address order]
    dsimp only
    rw [process_order, obey_obey, obey_id]
    simp only [answerAddress_obey]
  | _ => rfl

/-- A frame that is read is taken as its message. -/
theorem respond_of_parse {n : SlaveNode} {frame : Bytes} {e : Envelope}
    (h : Envelope.parse? (some n.id) frame = some e) :
    n.respond frame = ((n.process e).1,
      match (n.process e).2 with
      | none => .ok none
      | some answer => (answer.message.frame answer.address).map some) := by
  rcases hprocess : n.process e with ⟨n', _ | answer⟩ <;> simp only [respond, h, hprocess]

/-- A frame that comes again is answered as before, and changes nothing more. -/
theorem respond_again (n : SlaveNode) (frame : Bytes) :
    (n.respond frame).1.respond frame = n.respond frame := by
  cases hparse : Envelope.parse? (some n.id) frame with
  | none =>
    rw [respond_of_parse_none hparse]
    exact respond_of_parse_none hparse
  | some e =>
    have hagain : Envelope.parse? (some (n.respond frame).1.id) frame = some e := by
      rw [respond_id, hparse]
    have hfirst : (n.respond frame).1 = (n.process e).1 := by rw [respond_of_parse hparse]
    rw [respond_of_parse hagain, hfirst, process_again, respond_of_parse hparse]

end SlaveNode

namespace SlaveBus

/-- Slaves that hear a frame again stay as they are. -/
theorem afterFrame_again (nodes : List SlaveNode) (f : Frame) :
    afterFrame (afterFrame nodes f) f = afterFrame nodes f := by
  simp only [afterFrame, List.map_map]
  apply List.map_congr_left
  intro n _
  exact congrArg Prod.fst (n.respond_again f.payload)

/-- The answers of a bus at rest to a frame, as they are sent. -/
def answers (nodes : List SlaveNode) (f : Frame) : List Bytes :=
  nodes.filterMap fun n => n.answer? {} f

theorem answers_again (nodes : List SlaveNode) (f : Frame) :
    answers (afterFrame nodes f) f = answers nodes f := by
  rw [answers, afterFrame, List.filterMap_map]
  congr 1
  funext n
  exact congrArg (fun r => wire? {} r.2) (n.respond_again f.payload)

/-- A bus at rest that hears the link bytes of a frame. -/
theorem receive_encode {b : SlaveBus} (hframer : b.framer = {}) {f : Frame}
    {encoding : Fragment.Encoding}
    (h : Framer.encode {} f.slot f.kind f.payload = .ok encoding) :
    b.receive encoding.wire = (answers b.nodes f, ⟨afterFrame b.nodes f, {}⟩) := by
  rw [receive, hframer, Framer.feed_encode h]
  simp only [hearAll_singleton, hear_eq]
  rfl

/-- One slave gives this answer to a frame, and every other slave is silent. -/
def Answered (nodes : List SlaveNode) (frame answer : Bytes) : Prop :=
  ∃ n ∈ nodes, (n.respond frame).2 = .ok (some answer) ∧
    ∀ m ∈ nodes, m ≠ n → (m.respond frame).2 = .ok none

/-- No slave with one of the ids answers a frame, whatever it holds. -/
def Unanswered (ids : List DeviceId) (frame : Bytes) : Prop :=
  ∀ n : SlaveNode, n.id ∈ ids → (n.respond frame).2 = .ok none

theorem answers_unanswered {nodes : List SlaveNode} {f : Frame}
    (h : Unanswered (nodes.map SlaveNode.id) f.payload) : answers nodes f = [] := by
  rw [answers, List.filterMap_eq_nil_iff]
  intro n hn
  rw [SlaveNode.answer?, h n (List.mem_map_of_mem hn)]
  rfl

/-- What is sent is an answer, as a frame of its own. -/
theorem answer_of_wire? {result : Except PacketError (Option Bytes)} {wire : Bytes}
    (h : wire? {} result = some wire) :
    ∃ answer encoding, result = .ok (some answer) ∧
      Framer.encode {} slot FrameKind.reply answer = .ok encoding ∧ wire = encoding.wire := by
  unfold wire? at h
  split at h
  · next answer =>
    split at h
    · next encoding hencode => exact ⟨answer, encoding, rfl, hencode, (Option.some.inj h).symm⟩
    · cases h
  · cases h

/-- What the slaves send after a frame: nothing, or the answer of one of them. -/
inductive AnswerBytes (nodes : List SlaveNode) (frame : Bytes) : Bytes → Prop
  | silence : AnswerBytes nodes frame []
  | answer {answer : Bytes} {encoding : Fragment.Encoding} (hanswered : Answered nodes frame answer)
      (hencode : Framer.encode {} slot FrameKind.reply answer = .ok encoding) :
      AnswerBytes nodes frame encoding.wire

/-- After an answer as a whole a framer is at rest. -/
theorem AnswerBytes.framer {nodes : List SlaveNode} {frame bytes : Bytes}
    (h : AnswerBytes nodes frame bytes) : (Framer.feed {} bytes).2 = {} := by
  cases h with
  | silence => rw [Framer.feed_fresh_nil]
  | @answer answer encoding _ hencode =>
    rw [Framer.feed_encode (f := ⟨slot, FrameKind.reply, answer⟩) hencode]

/-- Of slaves with distinct ids nobody answers a frame, or one does. -/
theorem answerBytes_of_mem {nodes : List SlaveNode} (hids : (nodes.map SlaveNode.id).Nodup)
    {f : Frame} {wire : Bytes} (h : wire ∈ answers nodes f) :
    answers nodes f = [wire] ∧ AnswerBytes nodes f.payload wire := by
  obtain ⟨n, hn, hwire⟩ : ∃ n ∈ nodes, n.answer? {} f = some wire := by
    rwa [answers, List.mem_filterMap] at h
  obtain ⟨answer, encoding, hanswer, hencode, rfl⟩ := answer_of_wire? hwire
  have hsilent : ∀ m ∈ nodes, m.id ≠ n.id → (m.respond f.payload).2 = .ok none := by
    intro m _ hne
    by_contra hspeaks
    have hsame := (SlaveNode.destination?_of_answer hspeaks).symm.trans
      (SlaveNode.destination?_of_answer? hwire)
    exact hne (Option.some.inj hsame)
  have hone : answers nodes f =
      ((nodes.find? fun m => m.id = n.id).bind fun m => m.answer? {} f).toList :=
    (congrArg Prod.snd (hear_eq {} nodes f)).symm.trans (answers_of_silent hids hsilent)
  refine ⟨?_, .answer ⟨n, hn, hanswer, ?_⟩ hencode⟩
  · rw [hone, Option.mem_toList] at h
    rw [hone, h]
    rfl
  · intro m hm hne
    exact hsilent m hm fun hsame => hne (List.inj_on_of_nodup_map hids hm hn hsame)

/-- What is left when any answers to a frame are lost. -/
theorem answerBytes_of_sublist {nodes : List SlaveNode} (hids : (nodes.map SlaveNode.id).Nodup)
    {f : Frame} {kept : List Bytes} (h : kept.Sublist (answers nodes f)) :
    AnswerBytes nodes f.payload kept.flatten := by
  cases kept with
  | nil => exact .silence
  | cons wire rest =>
    obtain ⟨hone, hanswer⟩ := answerBytes_of_mem hids (h.subset (List.mem_cons_self ..))
    rw [hone, List.cons_sublist_cons, List.sublist_nil] at h
    rw [h, List.flatten_singleton]
    exact hanswer

end SlaveBus

end HarnessLink
