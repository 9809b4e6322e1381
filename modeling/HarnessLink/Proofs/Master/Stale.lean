import HarnessLink.Link.Script
import HarnessLink.Proofs.Master.Attempts

/-!
# Stale replies

What was there before a command does not answer it: the channel empties its framer and
drops the pieces that wait, and only what is received from the first transmission on is
searched for the reply. The pieces that are dropped are counted, though, so that behind
enough of them an old reply is still found.
-/
namespace HarnessLink
namespace ScriptedLink

/-- No time passes on a scripted link. -/
theorem deadline?_eq (span : Duration) (s : ScriptedLink) :
    link.deadline? span s = Duration.zero.deadline? span := rfl

theorem remaining_eq (due : Duration) (s : ScriptedLink) : link.remaining due s = due := rfl

theorem remaining_ne_zero (s : Recorded ScriptedLink) :
    link.recorded.remaining (.ofMillis 500) s ≠ .zero := by
  show Duration.ofMillis 500 ≠ .zero
  decide

/-- The piece at the front of the queue is received. -/
theorem receive_piece (timeout : Duration) {s : ScriptedLink} {piece : Bytes}
    {rest : List ScriptItem} (h : s.queue = .piece piece :: rest) :
    ∃ s', link.receive timeout s = (.ok (some piece), s') ∧
      s'.queue = rest ∧ s'.script = s.script := by
  refine ⟨{ note .receive { s with waits := s.waits + if timeout = .zero then 0 else 1 }
    with queue := rest }, ?_, rfl, rfl⟩
  simp [link, receive, note, arrival, h]

theorem receive_nothing (timeout : Duration) {s : ScriptedLink} (h : s.queue = []) :
    ∃ s', link.receive timeout s = (.ok none, s') := by
  refine ⟨note .receive { s with waits := s.waits + if timeout = .zero then 0 else 1 }, ?_⟩
  simp [link, receive, note, h]

/-- Pieces at the front of the queue wait. -/
theorem waiting_pieces (pieces : List Bytes) {s : ScriptedLink} {rest : List ScriptItem}
    (h : s.queue = pieces.map .piece ++ rest) :
    ∃ s', link.Waiting s pieces s' ∧ s'.queue = rest ∧ s'.script = s.script := by
  induction pieces generalizing s with
  | nil => exact ⟨s, .nil s, h, rfl⟩
  | cons piece pieces ih =>
    obtain ⟨s₁, hreceive, hqueue, hfirst⟩ := receive_piece .zero h
    obtain ⟨s', hwaiting, hrest, hscript⟩ := ih hqueue
    exact ⟨s', .cons hreceive hwaiting, hrest, hscript.trans hfirst⟩

/-- A transmission that nothing answers. -/
theorem transmit_unanswered (bytes : Bytes) {s : ScriptedLink} (h : s.script = []) :
    ∃ s', link.transmit bytes s = (.ok (), s') ∧ s'.queue = s.queue := by
  refine ⟨_, Prod.ext ?_ rfl, ?_⟩ <;> simp [link, transmit, note, h]

end ScriptedLink

namespace Channel

variable {σ : Type} {behavior : Link σ} {config : ChannelConfig}

/-- Attempts that heard no reply were used up, or the link failed. -/
theorem Ending.of_quiet {expected : Expectation} {left count : Nat}
    {result : Except NodeError (Option Envelope)} {phase : Phase}
    (h : Ending config expected left result phase count) (hquiet : replyOf result = none) :
    (∃ e, result = .error e) ∧ (NodeError.breaksOff result = false →
      result = .error (Channel.exhausted config expected) ∨
        ∃ fault, result = .error (.link fault)) := by
  cases h with
  | answered reply _ => cases hquiet
  | exhausted => exact ⟨⟨_, rfl⟩, fun _ => Or.inl rfl⟩
  | linkFailed e _ => exact ⟨⟨_, rfl⟩, fun _ => Or.inr ⟨e, rfl⟩⟩
  | endless _ => exact ⟨⟨_, rfl⟩, fun hreturns => by cases hreturns⟩

/-! ## Scripted links that bring nothing new -/

/-- A command with one attempt over a link that brings nothing new: as many pieces as the
channel drops are gone, and the reply is waited for in the rest. -/
theorem send_scripted {c : Channel ScriptedLink} {message : Message} {address : Address}
    {bytes : Bytes} (hwire : c.wire { retries := 0 } message address = .ok bytes)
    (expected : Expectation) {pieces : List Bytes} {rest : List ScriptItem} (hlength : pieces.length = maxStalePieces)
    (hqueue : c.link.queue = pieces.map .piece ++ rest) (hscript : c.link.script = []) :
    ∃ (d : Channel ScriptedLink) (events : List LinkEvent), d.link.queue = rest ∧
      d.framer = c.framer.reset ∧ LinkEvent.arrived events = pieces ∧
      ∀ result (d' : Channel ScriptedLink) more,
        (d.recorded events).await ScriptedLink.link.recorded expected (.ofMillis 500) =
          (result, d'.recorded more) →
        (c.send ScriptedLink.link { retries := 0 } message address (some expected)).1 =
          (match result with
            | .ok none => .error (exhausted { retries := 0 } expected)
            | _ => result) ∧
        c.events ScriptedLink.link { retries := 0 } message address (some expected) = more := by
  obtain ⟨s, hwaiting, hrest, hs⟩ := ScriptedLink.waiting_pieces pieces hqueue
  obtain ⟨stale, harrived, hdrop⟩ := dropPieces_waiting hwaiting (Nat.le_of_eq hlength) []
  let c₁ : Channel ScriptedLink := { c with link := s, framer := c.framer.reset }
  have hdiscard : (c.recorded []).discardStale ScriptedLink.link.recorded =
      (.ok (), c₁.recorded stale) := by
    simp [c₁, discardStale, recorded, hdrop, hlength, dropPieces]
  obtain ⟨s', htransmit, hqueue'⟩ := ScriptedLink.transmit_unanswered bytes
    (s := (c₁.enter ScriptedLink.link .sending).link) (hs.trans hscript)
  refine ⟨(c₁.handedOver ScriptedLink.link s').enter ScriptedLink.link .awaiting,
    stale ++ [.transmitted bytes (.ok ())], hqueue'.trans hrest, rfl, by simp [harrived], ?_⟩
  intro result d' more hawait
  have hone : ({ retries := 0 } : ChannelConfig).attempts = 0 + 1 := rfl
  have hsend : (c.recorded []).send ScriptedLink.link.recorded { retries := 0 } message address
      (some expected) = _ := send_of_discardStale hwire hdiscard
  have hdue : ScriptedLink.link.recorded.deadline? (.ofMillis 500)
      (ScriptedLink.link.recorded.watch .awaiting
        ⟨s', stale ++ [.transmitted bytes (.ok ())]⟩) = some (.ofMillis 500) :=
    (ScriptedLink.deadline?_eq _ s').trans (by decide)
  have hwait : (((c₁.recorded stale).handedOver ScriptedLink.link.recorded
      ⟨s', stale ++ [.transmitted bytes (.ok ())]⟩).enter ScriptedLink.link.recorded
        .awaiting).await ScriptedLink.link.recorded expected _ = _ := hawait
  simp only [deliver, hone] at hsend
  rw [attempt_awaiting (Link.recorded_transmit htransmit stale) hdue, hwait, send_recorded] at hsend
  rcases result with e | (_ | reply) <;> obtain ⟨hresult, hlink⟩ := Prod.mk.inj hsend <;>
    exact ⟨hresult, congrArg (fun d => d.link.events) hlink⟩

/-! ## What was there before a command -/

/-- The reply of device 6 to a ping, as it stands in a link frame. -/
def oldReply : Frame :=
  ⟨0, FrameKind.reply, [0xAB, 0xCD, 1, 0, 0, 11, 0, 0x40, 6, 0, 0, 0, 1, 0, 0, 0, 0, 0]⟩

/-- So many copies of it wait, and nothing else ever arrives. -/
def behindReplies (count : Nat) : Channel ScriptedLink :=
  { link := { queue := (List.replicate count (oldReply.wire {})).map .piece } }

/-- Another ping to the device. -/
def newPing : Message := .masterToSlave (.ping ⟨2, 0⟩)

/-- The reply to a ping of the device is waited for. -/
def anyPong : Expectation := ⟨⟨.slaveToMaster, 0x40⟩, some ⟨6⟩⟩

theorem wire_newPing (count : Nat) :
    ∃ bytes, (behindReplies count).wire { retries := 0 } newPing (.device ⟨6⟩) = .ok bytes := by
  obtain ⟨frame, hpack, hframe⟩ := Message.order_frame (.ping ⟨2, 0⟩) ⟨6⟩
  exact ⟨_, wire_order rfl hpack hframe⟩

/-- The replies are dropped, and nothing else arrives. -/
theorem events_behindReplies :
    LinkEvent.arrived ((behindReplies maxStalePieces).events ScriptedLink.link { retries := 0 }
      newPing (.device ⟨6⟩) (some anyPong)) = List.replicate maxStalePieces (oldReply.wire {}) := by
  obtain ⟨bytes, hwire⟩ := wire_newPing maxStalePieces
  have hqueue : (behindReplies maxStalePieces).link.queue =
      (List.replicate maxStalePieces (oldReply.wire {})).map .piece ++ [] := (List.append_nil _).symm
  obtain ⟨d, events, hrest, -, harrived, hsend⟩ :=
    send_scripted hwire anyPong List.length_replicate hqueue rfl
  obtain ⟨s, hreceive⟩ := ScriptedLink.receive_nothing (.ofMillis 500) hrest
  have hawait : (d.recorded events).await ScriptedLink.link.recorded anyPong (.ofMillis 500) =
      (.ok none, ({ d with link := s } : Channel ScriptedLink).recorded
        (events ++ [.received (.ofMillis 500) (.ok none)])) := by
    rw [await_eq anyPong (d.recorded events) (ScriptedLink.remaining_ne_zero _)]
    simp [recorded, ScriptedLink.remaining_eq, Link.recorded_receive hreceive]
  rw [(hsend _ _ _ hawait).2]
  simp [harrived]

/-- No byte of the old input is part of a reply: it is found in what arrived from the
first transmission on, taken in by a framer that held nothing, and the first of the pieces
that waited arrived before that. If these were few enough and nothing else arrives, there
is no reply. -/
theorem send_ignores_stale (behavior : Link σ) (config : ChannelConfig) (message : Message)
    (address : Address) (expected : Expectation) (c : Channel σ) :
    let run := c.send behavior config message address (some expected)
    let events := c.events behavior config message address (some expected)
    (∀ reply, run.1 = .ok (some reply) →
      (Framer.runEach Framer.feed { config := c.framer.config }
        (LinkEvent.arrived (LinkEvent.sinceSending events))).1.findSome? expected.find? =
          some reply) ∧
    ∀ pieces s, behavior.Waiting c.link pieces s →
      (LinkEvent.sent events ≠ [] →
        pieces.take maxStalePieces <+: LinkEvent.arrived (LinkEvent.beforeSending events)) ∧
      (pieces.length ≤ maxStalePieces → LinkEvent.arrived events <+: pieces →
        (∃ e, run.1 = .error e) ∧
        (behavior.Measures config.responseTimeout c.link →
          (∃ bytes, c.wire config message address = .ok bytes) →
            run.1 = .error (exhausted config expected) ∨
              ∃ fault, run.1 = .error (.link fault))) := by
  intro run events
  by_cases h : c.Withholds behavior config message address
  · obtain ⟨e, c', withheld, hsend, hrecorded, -, hsent, -, -, hlink⟩ :=
      send_withheld h (some expected) []
    have hrun : run.1 = .error e := congrArg Prod.fst hsend
    have hevents : LinkEvent.sent events = [] := by simp [events, events_eq hrecorded, hsent]
    refine ⟨by simp [hrun],
      fun pieces s _ => ⟨fun hne => absurd hevents hne, fun _ _ => ⟨⟨e, hrun⟩, ?_⟩⟩⟩
    intro _ hwire
    obtain ⟨fault, rfl⟩ := hlink hwire
    exact Or.inr ⟨fault, hrun⟩
  · obtain ⟨bytes, stale, later, -, hrecorded, hsent, hpieces, heffort⟩ :=
      send_expecting h expected []
    have hevents : events = stale ++ later := events_eq hrecorded
    obtain ⟨left, hleft⟩ := attempts_eq config
    obtain ⟨result, rest, hlater⟩ := heffort.begins (by omega)
    have hsince : LinkEvent.sinceSending events = later := by
      rw [hevents, LinkEvent.sinceSending_append hsent, hlater]
      simp [LinkEvent.sinceSending, LinkEvent.sent?]
    refine ⟨?_, fun pieces s hwaiting => ⟨fun _ => ?_, fun hfew harrived => ?_⟩⟩
    · intro reply hresult
      have hreply := heffort.heard.reply_eq
      rw [hsince]
      simpa [run, hresult, replyOf, Framer.reset] using hreply
    · rw [hevents, hlater, LinkEvent.beforeSending_append hsent]
      obtain ⟨s₁, hfirst⟩ := hwaiting.take maxStalePieces
      exact hpieces _ s₁ hfirst (List.length_take_le _ _)
    · have hnothing : LinkEvent.arrived later = [] := by
        have hall := (hpieces pieces s hwaiting hfew).length_le
        have hlength := harrived.length_le
        rw [hevents, LinkEvent.arrived_append, List.length_append] at hlength
        exact List.length_eq_zero_iff.mp (by omega)
      have hquiet := heffort.heard.reply_eq
      simp [hnothing, Framer.runEach] at hquiet
      obtain ⟨count, -, hending⟩ := heffort.sent
      obtain ⟨herror, hexhausted⟩ := hending.of_quiet hquiet.symm
      exact ⟨herror, fun hclock _ => hexhausted (send_measured hclock message address _)⟩

/-- As many old replies as the channel drops do not answer a ping, and none other comes. -/
theorem send_ignores_old_replies :
    let c := behindReplies maxStalePieces
    let pieces := List.replicate maxStalePieces (oldReply.wire {})
    let run := c.send ScriptedLink.link { retries := 0 } newPing (.device ⟨6⟩) (some anyPong)
    (∃ s, ScriptedLink.link.Waiting c.link pieces s) ∧ pieces.length ≤ maxStalePieces ∧
      anyPong.find? oldReply = some ⟨.device ⟨6⟩, .slaveToMaster (.pong ⟨1, 0⟩)⟩ ∧
      (run.1 = .error (exhausted { retries := 0 } anyPong) ∨
        ∃ fault, run.1 = .error (.link fault)) := by
  intro c pieces run
  obtain ⟨s, hwaiting, -⟩ :=
    ScriptedLink.waiting_pieces pieces (s := c.link) (List.append_nil _).symm
  have hfew : pieces.length ≤ maxStalePieces := Nat.le_of_eq List.length_replicate
  have hstale := (send_ignores_stale ScriptedLink.link { retries := 0 } newPing (.device ⟨6⟩)
    anyPong c).2 pieces s hwaiting
  have hnothing : LinkEvent.arrived (c.events ScriptedLink.link { retries := 0 } newPing
      (.device ⟨6⟩) (some anyPong)) <+: pieces :=
    ⟨[], (List.append_nil _).trans events_behindReplies⟩
  exact ⟨⟨s, hwaiting⟩, hfew, by decide,
    (hstale.2 hfew hnothing).2 (fun s _ => by rw [ScriptedLink.deadline?_eq]; decide)
      (wire_newPing _)⟩

/-- One old reply more is taken for the answer to the ping, though nothing else came. -/
theorem send_answered_by_old_reply :
    let c := behindReplies (maxStalePieces + 1)
    let pieces := List.replicate (maxStalePieces + 1) (oldReply.wire {})
    (∃ s, ScriptedLink.link.Waiting c.link pieces s) ∧
      LinkEvent.arrived (c.events ScriptedLink.link { retries := 0 } newPing (.device ⟨6⟩)
        (some anyPong)) <+: pieces ∧
      (c.send ScriptedLink.link { retries := 0 } newPing (.device ⟨6⟩) (some anyPong)).1 =
        .ok (some ⟨.device ⟨6⟩, .slaveToMaster (.pong ⟨1, 0⟩)⟩) := by
  intro c pieces
  obtain ⟨s, hwaiting, -⟩ :=
    ScriptedLink.waiting_pieces pieces (s := c.link) (List.append_nil _).symm
  obtain ⟨bytes, hwire⟩ := wire_newPing (maxStalePieces + 1)
  have hqueue : c.link.queue =
      (List.replicate maxStalePieces (oldReply.wire {})).map .piece ++
        [.piece (oldReply.wire {})] := by
    simp [c, behindReplies, List.replicate_succ']
  obtain ⟨d, events, hrest, hframer, harrived, hsend⟩ :=
    send_scripted hwire anyPong List.length_replicate hqueue rfl
  obtain ⟨s', hreceive, -⟩ := ScriptedLink.receive_piece (.ofMillis 500) hrest
  have hfeed : d.framer.feed (oldReply.wire {}) = ([oldReply], {}) := by
    rw [hframer]
    exact Framer.feed_wire rfl (by decide) (by decide) (Or.inl rfl) (Frame.fits_default (by decide))
  have hfind : anyPong.find? oldReply = some ⟨.device ⟨6⟩, .slaveToMaster (.pong ⟨1, 0⟩)⟩ := by
    decide
  have hawait : (d.recorded events).await ScriptedLink.link.recorded anyPong (.ofMillis 500) =
      (.ok (some ⟨.device ⟨6⟩, .slaveToMaster (.pong ⟨1, 0⟩)⟩),
        ({ d with link := s', framer := {} } : Channel ScriptedLink).recorded
          (events ++ [.received (.ofMillis 500) (.ok (some (oldReply.wire {})))])) := by
    rw [await_eq anyPong (d.recorded events) (ScriptedLink.remaining_ne_zero _)]
    simp [recorded, ScriptedLink.remaining_eq, Link.recorded_receive hreceive, hfeed, hfind]
  obtain ⟨hresult, hevents⟩ := hsend _ _ _ hawait
  refine ⟨⟨s, hwaiting⟩, ?_, hresult⟩
  rw [hevents]
  simp [harrived, pieces, List.replicate_succ']

end Channel
end HarnessLink
