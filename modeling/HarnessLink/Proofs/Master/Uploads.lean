import HarnessLink.Link.Script
import HarnessLink.Proofs.Master.Collections
import HarnessLink.Proofs.Packet.Relaying
import HarnessLink.Proofs.Slave.Isolation

/-!
# What is relayed to the backend

A collection hands to the uplink, device by device, the report that the device was asked for, if
one arrived. It is not the frame that arrived but the frame of what was read of it. Both are the
same exactly when the frame holds nothing that is not read, and otherwise the rest of it never
reaches the backend.
-/
namespace HarnessLink

/-! ## The frame of a reply -/

namespace Expectation

/-- The frame of the reply in what happened on a link: the first that arrived since the
transmission and is waited for. -/
def heard? (expected : Expectation) (events : List LinkEvent) : Option Bytes :=
  ((Framer.runEach Framer.feed {} (LinkEvent.arrived (LinkEvent.sinceSending events))).1.find?
    fun f => (expected.find? f).isSome).map Frame.payload

/-- The frame that a reply was read of. -/
def ReadOf (expected : Expectation) : Option Bytes → Option Envelope → Prop
  | some frame, some reply => Envelope.parse none frame = .ok reply ∧ expected.admits reply = true
  | none, none => True
  | _, _ => False

/-- The reply is read of the frame that was heard. -/
theorem heard?_readOf (expected : Expectation) (events : List LinkEvent) :
    expected.ReadOf (expected.heard? events) (expected.answer? events) := by
  rw [heard?, answer?]
  generalize (Framer.runEach Framer.feed {} _).1 = frames
  induction frames with
  | nil => trivial
  | cons f rest ih =>
    rw [List.findSome?_cons, List.find?_cons]
    cases hfind : expected.find? f with
    | none => exact ih
    | some reply =>
      obtain ⟨hparse, hadmits⟩ := Option.filter_eq_some_iff.mp hfind
      exact ⟨Envelope.parse?_eq_some_iff.mp hparse, hadmits⟩

end Expectation

/-! ## Handing over -/

namespace Staged

variable {τ : Type} (behavior : Link τ)

/-- Hand a piece to the link by way of the buffer. -/
def handOne (s : Staged τ) (bytes : Bytes) : Staged τ :=
  { s with link := (behavior.transmit bytes s.link).2, buffer := bytes }

/-- Hand pieces to the link in turn, unless someone else has access. -/
def hand (pieces : List Bytes) (s : Staged τ) : Staged τ :=
  if s.isHeld then s else pieces.foldl (handOne behavior) s

theorem isHeld_foldl_handOne (pieces : List Bytes) (s : Staged τ) :
    (pieces.foldl (handOne behavior) s).isHeld = s.isHeld := by
  induction pieces generalizing s with
  | nil => rfl
  | cons bytes pieces ih => exact ih _

@[simp] theorem hand_nil (s : Staged τ) : s.hand behavior [] = s := by
  rw [hand, List.foldl_nil, ite_self]

@[simp] theorem hand_append (pieces more : List Bytes) (s : Staged τ) :
    s.hand behavior (pieces ++ more) = (s.hand behavior pieces).hand behavior more := by
  cases hheld : s.isHeld with
  | true => simp [hand, hheld]
  | false => simp [hand, hheld, isHeld_foldl_handOne]

/-- A send hands over just its bytes. It does nothing where the clock cannot tell how long access
is waited for. -/
theorem send?_cases (now timeout : Duration) (bytes : Bytes) (s : Staged τ) :
    s.send? behavior now timeout bytes = none ∨
      ∃ result, s.send? behavior now timeout bytes = some (result, s.hand behavior [bytes]) := by
  cases hdue : now.deadline? timeout with
  | none => exact Or.inl (sendWith?_of_endless behavior hdue _ s)
  | some due =>
    rcases s with ⟨link, _ | _, buffer⟩
    · exact Or.inr ⟨_, sendWith?_of_free behavior rfl hdue _⟩
    · exact Or.inr ⟨_, sendWith?_of_held behavior rfl hdue _⟩

end Staged

namespace Master

variable {σ τ : Type}

/-- The results of a device are waited for. -/
def resultOf (order : Order) (d : RegisteredDevice) : Expectation :=
  ⟨⟨.slaveToBackend, order.replyId⟩, some d.id⟩

/-- The frames of the results that arrived, from what happened on the link for each device. -/
def reports (order : Order) : List RegisteredDevice → List (List LinkEvent) → List Bytes
  | d :: devices, block :: blocks =>
    ((resultOf order d).heard? block).toList ++ reports order devices blocks
  | _, _ => []

@[simp] theorem reports_nil (order : Order) (devices : List RegisteredDevice) :
    reports order devices [] = [] := by
  cases devices <;> rfl

/-- A report is handed over as it is written again, unless the hand-over is broken off. -/
theorem upload_relays (w : Wiring σ τ) {frame : Bytes} {report : Envelope}
    (h : Report.Read frame report) (now : Duration) (uplink? : Option (Staged τ)) :
    ∃ relayed uplink'?, upload w now report uplink? = (relayed, uplink'?) ∧
      (NodeError.breaksOff relayed = true ∧ uplink'? = uplink? ∨
        NodeError.breaksOff relayed = false ∧
          uplink'? = uplink?.map fun uplink => uplink.hand w.uplink [Report.relayed frame]) := by
  cases uplink? with
  | none => exact ⟨_, _, rfl, Or.inr ⟨rfl, rfl⟩⟩
  | some uplink =>
    rw [upload, h.frame_eq]
    obtain hsend | ⟨result, hsend⟩ := Staged.send?_cases w.uplink now w.config.uploadTimeout
      (Report.relayed frame) uplink
    · exact ⟨.error .unmeasurable, some uplink, by simp only [hsend], Or.inl ⟨rfl, rfl⟩⟩
    · exact ⟨(result.map fun () => true).mapError .link,
        some (uplink.hand w.uplink [Report.relayed frame]), by simp only [hsend],
        Or.inr ⟨breaksOff_link _, rfl⟩⟩

/-- A result is read of its frame as a report. -/
theorem read_of_heard {order : Order} {d : RegisteredDevice} {frame : Bytes} {report : Envelope}
    (h : (resultOf order d).ReadOf (some frame) (some report)) : Report.Read frame report := by
  obtain ⟨hparse, hadmits⟩ := h
  have hkind : report.kind = ⟨.slaveToBackend, order.replyId⟩ :=
    (Expectation.admits_iff.mp hadmits).1
  exact ⟨hparse, congrArg MessageKind.direction hkind⟩

/-- The result of a request is what was read of the frame that was heard, and there is none
without such a frame. -/
theorem heard_of_answer {order : Order} {d : RegisteredDevice} {block : List LinkEvent}
    {result : Except NodeError Envelope}
    (hanswer : result.toOption = (resultOf order d).answer? block) :
    (∃ e, result = .error e) ∧ (resultOf order d).heard? block = none ∨
      ∃ report frame, result = .ok report ∧ (resultOf order d).heard? block = some frame ∧
        Report.Read frame report := by
  have hread := (resultOf order d).heard?_readOf block
  rw [← hanswer] at hread
  cases hheard : (resultOf order d).heard? block <;> rw [hheard] at hread <;> cases result
  · exact Or.inl ⟨⟨_, rfl⟩, rfl⟩
  · exact hread.elim
  · exact hread.elim
  · exact Or.inr ⟨_, _, rfl, rfl, read_of_heard hread⟩

/-! ## Collecting -/

/-- What a collection does that sends requests to devices in turn: the blocks are what happened
on the link for each, and of the reports that arrived some are handed over, as they are written
again. One whose hand-over is broken off is withheld. -/
structure Relays (w : Wiring σ τ) (order : Order) (devices : List RegisteredDevice)
    (c : Channel (Recorded σ)) (uplink? : Option (Staged τ))
    (run : Option Nat × Channel (Recorded σ) × Option (Staged τ))
    (blocks : List (List LinkEvent)) (handed withheld : List Bytes) : Prop where
  adds : c.Adds run.2.1 blocks.flatten
  exchanges : List.Forall₂ (fun d block => Exchange d.id order.message block)
    (devices.take blocks.length) blocks
  arrived : reports order devices blocks = handed ++ withheld
  uplink : run.2.2 =
    uplink?.map fun uplink => uplink.hand w.uplink (handed.map Report.relayed)
  atMostOne : withheld.length ≤ 1
  complete : run.1.isSome = true → blocks.length = devices.length ∧ withheld = []
  read : ∀ frame ∈ reports order devices blocks, ∃ report, Report.Read frame report

section Collecting

variable {w : Wiring σ τ} {order : Order} {d : RegisteredDevice} {rest : List RegisteredDevice}
  {c c₁ : Channel (Recorded σ)} {uplink? : Option (Staged τ)} {block : List LinkEvent}

theorem relays_nil (hconfig : c.framer.config = {}) :
    Relays w order [] c uplink? (some 0, c, uplink?) [] [] [] where
  adds := .refl hconfig
  exchanges := .nil
  arrived := rfl
  uplink := by simp
  atMostOne := Nat.zero_le 1
  complete _ := ⟨rfl, rfl⟩
  read := by simp

variable (hadds : c.Adds c₁ block) (hexchange : Exchange d.id order.message block)

include hadds hexchange

/-- A collection that is broken off at a device, whose report is withheld if it arrived. -/
theorem relays_broken
    (hread : ∀ frame ∈ ((resultOf order d).heard? block).toList,
      ∃ report, Report.Read frame report) :
    Relays w order (d :: rest) c uplink? (none, c₁, uplink?) [block] []
      ((resultOf order d).heard? block).toList where
  adds := by rwa [List.flatten_singleton]
  exchanges := .cons hexchange .nil
  arrived := by simp [reports]
  uplink := by simp
  atMostOne := Option.length_toList_le
  complete h := by cases h
  read := by simpa [reports] using hread

/-- The next device, whose report is handed over if it arrived. -/
theorem relays_cons
    (hread : ∀ frame ∈ ((resultOf order d).heard? block).toList,
      ∃ report, Report.Read frame report)
    {run : Option Nat × Channel (Recorded σ) × Option (Staged τ)}
    {count? : Option Nat} (hcount : count?.isSome = run.1.isSome)
    {blocks : List (List LinkEvent)} {handed withheld : List Bytes}
    (h : Relays w order rest c₁ (uplink?.map fun uplink => uplink.hand w.uplink
      (((resultOf order d).heard? block).toList.map Report.relayed)) run blocks handed withheld) :
    Relays w order (d :: rest) c uplink? (count?, run.2) (block :: blocks)
      (((resultOf order d).heard? block).toList ++ handed) withheld where
  adds := hadds.trans h.adds
  exchanges := .cons hexchange h.exchanges
  arrived := by rw [reports, h.arrived, List.append_assoc]
  uplink := by
    rw [h.uplink, Option.map_map]
    simp only [List.map_append, Staged.hand_append]
    rfl
  atMostOne := h.atMostOne
  complete hreturns := by
    rw [hcount] at hreturns
    exact ⟨congrArg (· + 1) (h.complete hreturns).1, (h.complete hreturns).2⟩
  read := by
    rw [reports]
    exact List.forall_mem_append.mpr ⟨hread, h.read⟩

end Collecting

/-- Collecting over a recorded link hands over the reports that arrived, as they are written
again. -/
theorem collectEach_relays (w : Wiring σ τ) (order : Order) (devices : List RegisteredDevice)
    {c : Channel (Recorded σ)} (hconfig : c.framer.config = {}) (uplink? : Option (Staged τ)) :
    ∃ blocks handed withheld, Relays w order devices c uplink?
      (collectEach w.recorded order devices c uplink?) blocks handed withheld := by
  induction devices generalizing c uplink? with
  | nil => exact ⟨[], [], [], relays_nil hconfig⟩
  | cons d rest ih =>
    obtain ⟨result, c₁, block, hrequest, hadds, hexchange, hanswer⟩ := Channel.request_history
      w.slaves w.channel hconfig order.message d.id (resultOf order d)
    rw [resultOf] at hrequest
    simp only [collectEach, Wiring.recorded_slaves, Wiring.recorded_channel, hrequest]
    obtain ⟨⟨e, rfl⟩, hheard⟩ | ⟨report, frame, rfl, hheard, hreport⟩ := heard_of_answer hanswer
    · have hread : ∀ frame ∈ ((resultOf order d).heard? block).toList,
          ∃ report, Report.Read frame report := by simp [hheard]
      split
      · exact ⟨_, _, _, relays_broken hadds hexchange hread⟩
      · obtain ⟨blocks, handed, withheld, h⟩ := ih hadds.config uplink?
        refine ⟨block :: blocks, _ ++ handed, withheld,
          relays_cons hadds hexchange hread rfl ?_⟩
        simpa [hheard] using h
    · have hread : ∀ frame ∈ ((resultOf order d).heard? block).toList,
          ∃ report, Report.Read frame report := by
        simpa [hheard] using ⟨report, hreport⟩
      obtain ⟨relayed, uplink'?, hupload, ⟨hbroken, rfl⟩ | ⟨hgoesOn, rfl⟩⟩ :=
        upload_relays w.recorded hreport (w.slaves.recorded.clock c₁.link) uplink?
      · simp only [hupload, hbroken]
        exact ⟨_, _, _, relays_broken hadds hexchange hread⟩
      · obtain ⟨blocks, handed, withheld, h⟩ := ih hadds.config
          (uplink?.map fun uplink => uplink.hand w.uplink [Report.relayed frame])
        simp only [hupload, hgoesOn]
        refine ⟨block :: blocks, _ ++ handed, withheld,
          relays_cons hadds hexchange hread (Option.isSome_map ..) ?_⟩
        simpa [hheard] using h

/-! ## Every call -/

/-- Commands do not touch the uplink. -/
theorem uplink_handle (w : Wiring σ τ) (command : DeviceCommand) (m : Master σ τ) :
    (m.handle w command).2.uplink? = m.uplink? := by
  cases command with
  | configure devices =>
    rw [handle]
    obtain hsame | ⟨-, batch, result, c', -, -, hconfigured⟩ := configure_cases w devices m
    · rw [hsame]
    · obtain ⟨-, hconfigured⟩ | ⟨failed, registry, -, hconfigured⟩ := hconfigured
      all_goals rw [hconfigured]
  | selectMode mode =>
    obtain ⟨-, hsame⟩ | ⟨-, hselected⟩ := selectMode_cases mode m
    · rw [handle, hsame]
    · rw [handle, hselected]
  | control state =>
    cases state with
    | disabled => rfl
    | enabled =>
      rw [handle]
      obtain ⟨-, hsame⟩ | ⟨-, hsame⟩ | ⟨-, -, due?, -, hstarted⟩ := enable_cases w m
      · rw [hsame]
      · rw [hsame, broadcastSync_snd]
      · rw [hstarted, broadcastSync_snd]
  | reset devices => rfl
  | query target => rfl

/-- The step of a cycle that is due touches it only to collect. -/
theorem uplink_pollCycle (w : Wiring σ τ) {now : Duration} {m : Master σ τ}
    (h : m.isDue now = true) : (m.pollCycle w now).2.uplink? = (m.collect w).2.uplink? := by
  obtain ⟨-, hbroken⟩ | ⟨count, -, ⟨e, -, hfailed⟩ | ⟨-, due?, -, hnext⟩⟩ := pollCycle_due w h
  · rw [hbroken]
  · rw [hfailed, broadcastSync_snd]
  · rw [hnext, broadcastSync_snd]

theorem uplink_call (w : Wiring σ τ) {m : Master σ τ} {call : MasterCall}
    (h : ¬ m.Collects call) : (m.call w call).uplink? = m.uplink? := by
  cases call with
  | rest span => rfl
  | handle command => exact uplink_handle w command m
  | poll now =>
    cases hdue : m.isDue now with
    | false => exact congrArg (fun run => run.2.uplink?) (pollCycle_early w hdue)
    | true =>
      have hnothing : m.syncOutstanding = false := by
        rw [← Bool.not_eq_true]
        exact fun houtstanding => h ⟨now, rfl, hdue, houtstanding⟩
      exact (uplink_pollCycle w hdue).trans
        (congrArg (fun run => run.2.uplink?) (collect_nothing w hnothing))

/-- What a collection hands to the uplink are the reports that arrived, each as the frame of what
was read of it. In every run of calls on a new master, whatever the links do, a collection sends a
request to each registered device in order. The first frame that arrives since then and is the
result of this device is its report; a device without one has none. The uplink gets the
reports in this order and nothing else, unless someone else has access to it, and outside of
collections nothing at all. A collection is broken off only where the clock cannot tell the end of
a wait; then at most the last report that arrived is withheld. A report that is written again is
read as the same, and it is the frame that arrived exactly when index and flag of its header are
zero and its body ends with its last field. -/
theorem results_relayed (w : Wiring σ τ) (s : σ) (uplink? : Option (Staged τ))
    (epoch : Duration) (calls : List MasterCall) (call : MasterCall) :
    let start : Master (Recorded σ) τ := { channel := { link := ⟨s, []⟩ }, uplink?, epoch }
    let m := start.calls w.recorded calls
    m.plain = ({ channel := { link := s }, uplink?, epoch } : Master σ τ).calls w calls ∧
    (¬ m.Collects call → (m.call w.recorded call).uplink? = m.uplink?) ∧
    (m.Collects call → ∃ (blocks : List (List LinkEvent)) (sync : List LinkEvent)
        (handed withheld : List Bytes),
      (m.call w.recorded call).history = m.history ++ blocks.flatten ++ sync ∧
      List.Forall₂ (fun d block => Exchange d.id (readOrder m.mode).message block)
        (m.registry.take blocks.length) blocks ∧
      reports (readOrder m.mode) m.registry blocks = handed ++ withheld ∧
      (m.call w.recorded call).uplink? = m.uplink?.map (fun uplink => uplink.hand w.uplink
        (handed.map Report.relayed)) ∧
      withheld.length ≤ 1 ∧
      (m.plain.returns w call = true ∨ Timely w m.plain.channel →
        blocks.length = m.registry.length ∧ withheld = []) ∧
      ∀ frame ∈ reports (readOrder m.mode) m.registry blocks, ∃ report,
        Report.Read frame report ∧ Report.Read (Report.relayed frame) report ∧
        (Report.relayed frame = frame ↔ frame.getD 3 0 = 0 ∧ frame.getD 4 0 = 0 ∧
          (FrameCheck.bodyOf .slaveToBackend frame).length = Report.called frame)) := by
  intro start m
  have hkept := calls_config (w := w) (consistent_new _ uplink? epoch : start.Consistent) rfl calls
  refine ⟨calls_plain w calls start, uplink_call w.recorded, ?_⟩
  rintro ⟨now, rfl, hdue, houtstanding⟩
  obtain ⟨blocks, handed, withheld, hrelays⟩ :=
    collectEach_relays w (readOrder m.mode) m.registry hkept m.uplink?
  have hcollect : m.collect w.recorded = _ := if_pos houtstanding
  obtain ⟨sync, hsync, -⟩ := history_pollCycle w hkept hdue
  refine ⟨blocks, sync, handed, withheld, ?_, hrelays.exchanges, hrelays.arrived, ?_,
    hrelays.atMostOne, ?_, ?_⟩
  · have hcollected : (m.collect w.recorded).2.history = m.history ++ blocks.flatten := by
      rw [hcollect]
      exact hrelays.adds.history
    exact hsync.trans (congrArg (fun events => events ++ sync) hcollected)
  · rw [hcollect] at hsync
    exact ((uplink_pollCycle w.recorded hdue).trans
      (congrArg (fun run => run.2.uplink?) hcollect)).trans hrelays.uplink
  · intro hends
    have hreturns := collect_returns w hkept hdue hends
    rw [hcollect] at hreturns
    exact hrelays.complete hreturns
  · intro frame hframe
    obtain ⟨report, hreport⟩ := hrelays.read frame hframe
    exact ⟨report, hreport, hreport.relayed, hreport.relayed_eq_iff⟩

/-! ## A report with a byte too many -/

/-- A report of device 1 on the pins that it tests, with one byte behind them. -/
def longReport : Bytes :=
  [0xAB, 0xCD, 4, 0, 0, 13, 0, 0x20, 1, 0, 0, 0, 0, 0, 3, 0, 1, 2, 4, 0xFF]

/-- Device 1 accepts its configuration, and answers with this report when results are read. -/
def reporting : ScriptedLink :=
  { script := [[.piece (Frame.wire {} ⟨0, FrameKind.reply,
        [0xAB, 0xCD, 1, 0, 0, 14, 0, 0x10, 1, 0, 0, 0, 0, 0, 10, 3, 0, 0, 0, 3, 0]⟩)],
      [], [.piece (Frame.wire {} ⟨0, FrameKind.reply, longReport⟩)]] }

def scripts : Wiring ScriptedLink ScriptedLink :=
  { slaves := ScriptedLink.link, uplink := ScriptedLink.link }

/-- The master that has configured this device and started cycles. -/
def cycling : Master ScriptedLink ScriptedLink :=
  calls scripts { channel := { link := reporting }, uplink? := some { link := {} } }
    [.handle (.configure [⟨⟨1⟩, 3, 0, none⟩]), .handle (.control .enabled)]

/-- The report is accepted, and relayed without its last byte. -/
theorem results_relayed_cut :
    cycling.Collects (.poll (.ofMillis 7200000)) ∧
      Report.Read longReport ⟨.slave ⟨1⟩ ⟨0⟩, .slaveToBackend (.conductionData [1, 2, 4])⟩ ∧
      ((cycling.call scripts (.poll (.ofMillis 7200000))).uplink?.map fun uplink =>
        uplink.link.sent) =
          some [[0xAB, 0xCD, 4, 0, 0, 12, 0, 0x20, 1, 0, 0, 0, 0, 0, 3, 0, 1, 2, 4]] ∧
      [longReport] ≠ [[0xAB, 0xCD, 4, 0, 0, 12, 0, 0x20, 1, 0, 0, 0, 0, 0, 3, 0, 1, 2, 4]] := by
  refine ⟨⟨_, rfl, ?_, ?_⟩, ⟨rfl, rfl⟩, ?_, by decide⟩
  · decide +kernel
  · decide +kernel
  · decide +kernel

end Master

end HarnessLink
