import HarnessLink.Master.Channel
import HarnessLink.Proofs.Link.Lossless
import HarnessLink.Proofs.Slave.Orders

/-!
# Requests over a lossless link

A channel at rest has nothing under way: no answer waits, and the framers at both
ends hold nothing that the next frame could join. Over a lossless link an order to
a slave of the bus brings its answer on the first attempt, an order to another
device uses up its attempts, and either way the slaves that it reaches have carried
it out and the channel is at rest again.
-/
namespace HarnessLink.Channel

variable {σ : Type} {behavior : Link σ} {holds : σ → SlaveBus → List Bytes → Prop}
variable {config : ChannelConfig}

/-! ## What requests keep of a link -/

section Keeps

variable {p : σ → Prop} (hlink : behavior.Keeps p)

include hlink

theorem keeps_dropPieces (limit : Nat) {s : σ} (h : p s) :
    p (dropPieces behavior limit s).2 := by
  induction limit generalizing s with
  | zero => exact h
  | succ limit ih =>
    rw [dropPieces]
    split
    · next heq => exact hlink.receive h heq
    · next heq => exact hlink.receive h heq
    · next heq => exact ih (hlink.receive h heq)

theorem keeps_await (expected : Expectation) (due : Duration) {c : Channel σ}
    (h : p c.link) : p (c.await behavior expected due).2.link := by
  fun_induction Channel.await behavior expected due c with
  | case1 => exact h
  | case2 c _ e link heq => exact hlink.receive h heq
  | case3 c _ link heq => exact hlink.receive h heq
  | case4 c _ piece link heq => exact hlink.receive h heq
  | case5 c _ piece link heq _ _ _ _ ih => exact ih (hlink.receive h heq)

theorem keeps_attempt (bytes : Bytes) (expected : Expectation) (left : Nat) {c : Channel σ}
    (h : p c.link) : p (c.attempt behavior config bytes expected left).2.link := by
  induction left generalizing c with
  | zero => exact hlink.watch h .failed
  | succ left ih =>
    rw [Channel.attempt]
    split
    · next heq => exact hlink.watch (hlink.transmit (hlink.watch h .sending) heq) .failed
    · next link heq =>
      have hawaiting := hlink.watch (hlink.transmit (hlink.watch h .sending) heq) .awaiting
      dsimp only
      split
      · exact hawaiting
      · next due hdue =>
        have hawait : p (Channel.await behavior expected due
            (({ c.enter behavior .sending with link } : Channel σ).enter behavior
              .awaiting)).2.link := keeps_await hlink expected due hawaiting
        split
        · next heq =>
          rw [heq] at hawait
          exact hlink.watch hawait .failed
        · next heq =>
          rw [heq] at hawait
          exact hlink.watch hawait .success
        · next heq =>
          rw [heq] at hawait
          apply ih
          split
          · exact hawait
          · exact hlink.watch hawait .retry

/-- Sending keeps what the link keeps. -/
theorem keeps_send (message : Message) (address : Address) (expected? : Option Expectation)
    {c : Channel σ} (h : p c.link) :
    p (c.send behavior config message address expected?).2.link := by
  have hdrop := keeps_dropPieces hlink maxStalePieces h
  rw [send]
  split
  · exact h
  · rw [discardStale]
    rcases hresult : dropPieces behavior maxStalePieces c.link with ⟨e | ⟨⟩, link⟩
    all_goals rw [hresult] at hdrop
    · exact hdrop
    · cases expected? with
      | none =>
        simp only [transmitOnce]
        split
        all_goals
          next heq =>
            exact hlink.watch (hlink.transmit (hlink.watch hdrop .sending) heq) .idle
      | some expected => exact keeps_attempt hlink _ expected _ hdrop

end Keeps

/-! ## Steps of a command -/

/-- One step of a wait. -/
theorem await_eq (expected : Expectation) {due : Duration} (c : Channel σ)
    (hpos : behavior.remaining due c.link ≠ .zero) :
    c.await behavior expected due =
      match behavior.receive (behavior.remaining due c.link) c.link with
      | (.error e, link) => (.error (.link e), { c with link })
      | (.ok none, link) => (.ok none, { c with link })
      | (.ok (some bytes), link) =>
        match (c.framer.feed bytes).1.findSome? expected.find? with
        | some e => (.ok (some e), { c with link, framer := (c.framer.feed bytes).2 })
        | none =>
          await behavior expected due { c with link, framer := (c.framer.feed bytes).2 } := by
  rw [await, if_neg hpos]
  split
  · next e link h => rw [h]
  · next link h => rw [h]
  · next bytes link h =>
    cases hfind : (c.framer.feed bytes).1.findSome? expected.find? <;> simp only [h, hfind]

/-- A wait fails with the link only. -/
theorem await_error {expected : Expectation} {due : Duration} {c c' : Channel σ} {e : NodeError}
    (h : c.await behavior expected due = (.error e, c')) : ∃ fault, e = .link fault := by
  fun_induction Channel.await behavior expected due c with
  | case1 => cases h
  | case2 _ _ fault => cases h; exact ⟨fault, rfl⟩
  | case3 => cases h
  | case4 => cases h
  | case5 _ _ _ _ _ _ _ _ _ ih => exact ih h

/-- The channel that has just handed the bytes of a command to the link. -/
def handedOver (behavior : Link σ) (c : Channel σ) (link : σ) : Channel σ :=
  { c.enter behavior .sending with link }

section Attempt

variable {bytes : Bytes} {expected : Expectation} {left : Nat} {c : Channel σ} {link : σ}

/-- The link does not take the bytes. -/
theorem attempt_refused {e : LinkError}
    (h : behavior.transmit bytes (c.enter behavior .sending).link = (.error e, link)) :
    c.attempt behavior config bytes expected (left + 1) =
      (.error (.link e), (c.handedOver behavior link).enter behavior .failed) := by
  simp only [attempt, h]
  rfl

variable (h : behavior.transmit bytes (c.enter behavior .sending).link = (.ok (), link))

include h

/-- The end of the wait cannot be told. -/
theorem attempt_endless
    (hdue : behavior.deadline? config.responseTimeout (behavior.watch .awaiting link) = none) :
    c.attempt behavior config bytes expected (left + 1) =
      (.error .unmeasurable, (c.handedOver behavior link).enter behavior .awaiting) := by
  have hdue' : behavior.deadline? config.responseTimeout
      ((c.handedOver behavior link).enter behavior .awaiting).link = none := hdue
  simp only [handedOver] at hdue'
  simp only [attempt, h, hdue']
  rfl

/-- The reply is waited for. -/
theorem attempt_awaiting {due : Duration}
    (hdue : behavior.deadline? config.responseTimeout (behavior.watch .awaiting link) =
      some due) :
    c.attempt behavior config bytes expected (left + 1) =
      match ((c.handedOver behavior link).enter behavior .awaiting).await behavior expected due with
      | (.error e, c) => (.error e, c.enter behavior .failed)
      | (.ok (some reply), c) => (.ok (some reply), c.enter behavior .success)
      | (.ok none, c) =>
        attempt behavior config bytes expected left
          (if left = 0 then c else c.enter behavior .retry) := by
  have hdue' : behavior.deadline? config.responseTimeout
      ((c.handedOver behavior link).enter behavior .awaiting).link = some due := hdue
  simp only [handedOver] at hdue'
  simp only [attempt, h, hdue']
  rfl

end Attempt

/-- A message without link bytes is the fault of its own data. -/
theorem wire_error {c : Channel σ} {message : Message} {address : Address} {e : NodeError}
    (h : c.wire config message address = .error e) :
    (∃ fault, e = .packet fault) ∨ ∃ fault, e = .frame fault := by
  rw [wire] at h
  split at h
  · next fault _ =>
    cases h
    exact Or.inl ⟨fault, rfl⟩
  · split at h
    · next fault _ =>
      cases h
      exact Or.inr ⟨fault, rfl⟩
    · cases h

/-! ## Waits that can be counted -/

section Measures

variable {c : Channel σ}

theorem leads_await (behavior : Link σ) (expected : Expectation) (due : Duration) (c : Channel σ) :
    behavior.Leads c.link (c.await behavior expected due).2.link :=
  keeps_await (behavior.keeps_leads c.link) expected due .refl

theorem attempt_measured (h : behavior.Measures config.responseTimeout c.link) (bytes : Bytes)
    (expected : Expectation) (left : Nat) :
    NodeError.breaksOff (c.attempt behavior config bytes expected left).1 = false := by
  induction left generalizing c with
  | zero => rfl
  | succ left ih =>
    rcases htransmit : behavior.transmit bytes (c.enter behavior .sending).link with ⟨e | ⟨⟩, link⟩
    · rw [attempt_refused htransmit]
      rfl
    · have hawaiting : behavior.Leads c.link (behavior.watch .awaiting link) :=
        .watch (.transmit (.watch .refl .sending) htransmit) .awaiting
      obtain ⟨due, hdue⟩ := (h.after hawaiting).now
      rw [attempt_awaiting htransmit hdue]
      have hleads := leads_await behavior expected due
        ((c.handedOver behavior link).enter behavior .awaiting)
      rcases hawait : ((c.handedOver behavior link).enter behavior .awaiting).await behavior
        expected due with ⟨e | _ | reply, c'⟩
      · obtain ⟨fault, rfl⟩ := await_error hawait
        rfl
      · rw [hawait] at hleads
        refine ih ((h.after hawaiting).after ?_)
        split
        · exact hleads
        · exact hleads.watch .retry
      · rfl

/-- A command is not broken off while the clock can tell the end of every wait. -/
theorem send_measured (h : behavior.Measures config.responseTimeout c.link) (message : Message)
    (address : Address) (expected? : Option Expectation) :
    NodeError.breaksOff (c.send behavior config message address expected?).1 = false := by
  rw [send]
  split
  · next hwire => obtain ⟨fault, rfl⟩ | ⟨fault, rfl⟩ := wire_error hwire <;> rfl
  · have hdrop := keeps_dropPieces (behavior.keeps_leads c.link) maxStalePieces .refl
    rw [discardStale]
    rcases hresult : dropPieces behavior maxStalePieces c.link with ⟨e | ⟨⟩, link⟩
    all_goals rw [hresult] at hdrop
    · rfl
    · cases expected? with
      | none =>
        simp only [transmitOnce]
        split <;> rfl
      | some expected => exact attempt_measured (h.after hdrop) _ expected _

end Measures

/-! ## Channels at rest -/

/-- Nothing is under way between the channel, whose framer has the usual configuration, and the
bus `b`. -/
structure AtRest (holds : σ → SlaveBus → List Bytes → Prop) (c : Channel σ) (b : SlaveBus) :
    Prop where
  config : c.framer.config = {}
  link : holds c.link b []
  framer : b.framer = {}

theorem AtRest.enter (hlink : behavior.Lossless holds) {c : Channel σ} {b : SlaveBus}
    (h : c.AtRest holds b) (phase : Phase) : (c.enter behavior phase).AtRest holds b :=
  { h with link := hlink.watch h.link phase }

/-- Nothing has to be thrown away, and what the framer held is forgotten. -/
theorem discardStale_atRest (hlink : behavior.Lossless holds) {c : Channel σ} {b : SlaveBus}
    (h : c.AtRest holds b) :
    ∃ c', c.discardStale behavior = (.ok (), c') ∧ c'.AtRest holds b ∧ c'.framer = {} := by
  obtain ⟨s, hreceive, hs⟩ := hlink.receive_nothing h.link .zero
  have hdrop : dropPieces behavior maxStalePieces c.link = (.ok (), s) := by
    show dropPieces behavior (63 + 1) c.link = _
    rw [dropPieces, hreceive]
  have hreset : c.framer.reset = {} := by
    rw [Framer.reset, h.config]
  refine ⟨{ c with link := s, framer := c.framer.reset }, ?_, ?_, hreset⟩
  · rw [discardStale, hdrop]
  · exact { h with link := hs, config := h.config }

/-! ## Waiting -/

theorem await_nothing (hlink : behavior.Lossless holds) {c : Channel σ} {b : SlaveBus}
    (h : c.AtRest holds b) (expected : Expectation) {due : Duration}
    (hpos : behavior.remaining due c.link ≠ .zero) :
    ∃ c', c.await behavior expected due = (.ok none, c') ∧ c'.AtRest holds b := by
  obtain ⟨s, hreceive, hs⟩ := hlink.receive_nothing h.link (behavior.remaining due c.link)
  refine ⟨{ c with link := s }, ?_, { h with link := hs }⟩
  rw [await_eq expected c hpos, hreceive]

/-- The answer that is waited for is the only one that waits. -/
theorem await_answer (hlink : behavior.Lossless holds) {c : Channel σ} {b : SlaveBus}
    {answer : Frame} {e : Envelope} {expected : Expectation} {due : Duration}
    (hwaiting : holds c.link b [answer.wire {}]) (hfits : answer.Fits {})
    (hfind : expected.find? answer = some e) (hfresh : c.framer = {})
    (hframer : b.framer = {}) (hpos : behavior.remaining due c.link ≠ .zero) :
    ∃ c', c.await behavior expected due = (.ok (some e), c') ∧ c'.AtRest holds b := by
  obtain ⟨s, hreceive, hs⟩ := hlink.receive_answer hwaiting (behavior.remaining due c.link)
  have hfeed : c.framer.feed (answer.wire {}) = ([answer], {}) := by
    rw [hfresh]
    exact Framer.feed_wire rfl (by decide) (by decide) (Or.inl rfl) hfits
  refine ⟨{ c with link := s, framer := {} }, ?_, ⟨rfl, hs, hframer⟩⟩
  rw [await_eq expected c hpos, hreceive]
  simp only [hfeed, List.findSome?_cons, hfind]

/-! ## Attempts

An attempt is broken off where the clock cannot tell the end of its wait. Otherwise it
comes to this. -/

/-- The bytes of an attempt reach the bus, and what it answers waits. -/
theorem attempt_transmitted (hlink : behavior.Lossless holds) {c : Channel σ} {b b' : SlaveBus}
    (h : c.AtRest holds b) {bytes : Bytes} {answers : List Bytes}
    (hanswer : b.receive bytes = (answers, b')) :
    ∃ s, behavior.transmit bytes (c.enter behavior .sending).link = (.ok (), s) ∧
      holds (behavior.watch .awaiting s) b' answers := by
  obtain ⟨s, htransmit, hs⟩ := hlink.transmit (h.enter hlink .sending).link bytes
  rw [hanswer] at hs
  exact ⟨s, htransmit, hlink.watch hs .awaiting⟩

section Attempts

variable (hlink : behavior.Lossless holds) (hpos : config.responseTimeout ≠ .zero)
variable {c : Channel σ} {b b' : SlaveBus} (h : c.AtRest holds b) {bytes : Bytes}
variable {expected : Expectation}

include hlink hpos h

theorem attempt_answered (hfresh : c.framer = {}) {answer : Frame} {e : Envelope}
    (hanswer : b.receive bytes = ([answer.wire {}], b')) (hb' : b'.framer = {})
    (hfits : answer.Fits {}) (hfind : expected.find? answer = some e) (left : Nat) :
    ∃ result c', c.attempt behavior config bytes expected (left + 1) = (result, c') ∧
      (NodeError.breaksOff result = false → result = .ok (some e) ∧ c'.AtRest holds b') := by
  obtain ⟨s, htransmit, hs⟩ := attempt_transmitted hlink h hanswer
  cases hdue : behavior.deadline? config.responseTimeout (behavior.watch .awaiting s) with
  | none => exact ⟨_, _, attempt_endless htransmit hdue, fun hgoesOn => by cases hgoesOn⟩
  | some due =>
    obtain ⟨c', hawait, hc'⟩ := await_answer hlink
      (c := (c.handedOver behavior s).enter behavior .awaiting) hs hfits hfind hfresh hb'
      (by rwa [← Link.remaining_of_deadline? hdue] at hpos)
    refine ⟨.ok (some e), c'.enter behavior .success, ?_, fun _ => ⟨rfl, hc'.enter hlink .success⟩⟩
    rw [attempt_awaiting htransmit hdue, hawait]

/-- One attempt without an answer, and those that are left. -/
theorem attempt_silent (hanswer : b.receive bytes = ([], b')) (hb' : b'.framer = {})
    (expected : Expectation) (left : Nat) :
    (∃ c', c.attempt behavior config bytes expected (left + 1) = (.error .unmeasurable, c')) ∨
      ∃ c' : Channel σ, c'.AtRest holds b' ∧
        c.attempt behavior config bytes expected (left + 1) =
          c'.attempt behavior config bytes expected left := by
  obtain ⟨s, htransmit, hs⟩ := attempt_transmitted hlink h hanswer
  cases hdue : behavior.deadline? config.responseTimeout (behavior.watch .awaiting s) with
  | none => exact Or.inl ⟨_, attempt_endless htransmit hdue⟩
  | some due =>
    have hawaiting : ((c.handedOver behavior s).enter behavior .awaiting).AtRest holds b' :=
      ⟨h.config, hs, hb'⟩
    obtain ⟨c₁, hawait, hc₁⟩ := await_nothing hlink hawaiting expected
      (by rwa [← Link.remaining_of_deadline? hdue] at hpos)
    refine Or.inr ⟨if left = 0 then c₁ else c₁.enter behavior .retry, ?_, ?_⟩
    · split
      · exact hc₁
      · exact hc₁.enter hlink .retry
    · rw [attempt_awaiting htransmit hdue, hawait]

/-- Attempts that nobody answers. What the first did to the bus, the others repeat. -/
theorem attempt_unanswered (hfirst : b.receive bytes = ([], b'))
    (hagain : b'.receive bytes = ([], b')) (hb' : b'.framer = {}) (expected : Expectation)
    (left : Nat) :
    ∃ result c', c.attempt behavior config bytes expected (left + 1) = (result, c') ∧
      (NodeError.breaksOff result = false →
        result = .error (exhausted config expected) ∧ c'.AtRest holds b') := by
  induction left generalizing c b with
  | zero =>
    obtain ⟨c₁, hbroken⟩ | ⟨c₁, hc₁, hattempt⟩ := attempt_silent hlink hpos h hfirst hb' expected 0
    · exact ⟨_, c₁, hbroken, fun hgoesOn => by cases hgoesOn⟩
    · exact ⟨_, c₁.enter behavior .failed, hattempt, fun _ => ⟨rfl, hc₁.enter hlink .failed⟩⟩
  | succ left ih =>
    obtain ⟨c₁, hbroken⟩ | ⟨c₁, hc₁, hattempt⟩ :=
      attempt_silent hlink hpos h hfirst hb' expected (left + 1)
    · exact ⟨_, c₁, hbroken, fun hgoesOn => by cases hgoesOn⟩
    · obtain ⟨result, c', hlater, hresult⟩ := ih hc₁ hagain
      exact ⟨result, c', hattempt.trans hlater, hresult⟩

end Attempts

/-! ## Requests -/

/-- There is always a first attempt. -/
theorem attempts_eq (config : ChannelConfig) : ∃ left, config.attempts = left + 1 := by
  refine ⟨config.attempts - 1, ?_⟩
  have hpos : 1 ≤ config.attempts := Nat.le_min.mpr ⟨by decide, Nat.le_add_left 1 _⟩
  omega

/-- The link bytes of an order. -/
theorem wire_order {c : Channel σ} (hconfig : c.framer.config = {}) {order : MasterToSlave}
    {id : DeviceId} {frame : Bytes}
    (hpack : (Message.masterToSlave order).frame (.device id) = .ok frame)
    (hframe : Message.OrderFrame order id frame) :
    c.wire config (.masterToSlave order) (.device id) =
      .ok (Frame.wire {} ⟨config.slot, frameKind (.masterToSlave order), frame⟩) := by
  have hfits : (Frame.mk config.slot (frameKind (.masterToSlave order)) frame).Fits
      c.framer.config := by
    rw [hconfig]
    exact Frame.fits_default (Nat.le_trans hframe.short (by decide))
  have hencode := c.framer.encode_eq (by rw [hconfig]; decide) (by rw [hconfig]; decide) hfits
  rw [wire, hpack]
  simp only [hencode, hconfig]

/-- What a request does once its bytes are there and old input is thrown away. -/
theorem request_of_attempt {c c₁ : Channel σ} {message : Message} {address : Address}
    {expected : Expectation} {bytes : Bytes} (hwire : c.wire config message address = .ok bytes)
    (hdiscard : c.discardStale behavior = (.ok (), c₁)) :
    c.request behavior config message address expected =
      match c₁.attempt behavior config bytes expected config.attempts with
      | (.ok (some reply), c) => (.ok reply, c)
      | (.ok none, c) => (.error (exhausted config expected), c)
      | (.error e, c) => (.error e, c) := by
  have hsend : c.send behavior config message address (some expected) =
      c₁.attempt behavior config bytes expected config.attempts := by
    rw [send, hwire, hdiscard]
  rcases hattempt : c₁.attempt behavior config bytes expected config.attempts with
    ⟨_ | _ | _, c'⟩ <;>
    simp only [request, hsend, hattempt]

/-- A request is not broken off while the clock can tell the end of every wait. -/
theorem request_measured {c : Channel σ} (h : behavior.Measures config.responseTimeout c.link)
    (message : Message) (address : Address) (expected : Expectation) :
    NodeError.breaksOff (c.request behavior config message address expected).1 = false := by
  have hsend := send_measured h message address (some expected)
  rw [request]
  rcases hresult : c.send behavior config message address (some expected) with
    ⟨e | _ | reply, c'⟩
  · rw [hresult] at hsend
    cases e with
    | unmeasurable => cases hsend
    | _ => rfl
  · rfl
  · rfl

/-- A broadcast waits for nothing, so it is never broken off. -/
theorem broadcast_returns (behavior : Link σ) (config : ChannelConfig) (message : Message)
    (address : Address) (c : Channel σ) :
    NodeError.breaksOff (c.broadcast behavior config message address).1 = false := by
  have hsend : NodeError.breaksOff (c.send behavior config message address none).1 = false := by
    rw [send]
    split
    · next hwire => obtain ⟨fault, rfl⟩ | ⟨fault, rfl⟩ := wire_error hwire <;> rfl
    · rw [discardStale]
      rcases dropPieces behavior maxStalePieces c.link with ⟨e | ⟨⟩, link⟩
      · rfl
      · simp only [transmitOnce]
        split <;> rfl
  rw [broadcast]
  split
  · rfl
  · next heq => simpa [heq] using hsend

/-- Without time for replies no attempt brings one, whatever the link does. -/
theorem attempt_timeless (hzero : config.responseTimeout = .zero) (bytes : Bytes)
    (expected : Expectation) (left : Nat) (c : Channel σ) :
    ∃ e, (c.attempt behavior config bytes expected left).1 = .error e := by
  induction left generalizing c with
  | zero => exact ⟨_, rfl⟩
  | succ left ih =>
    rcases htransmit : behavior.transmit bytes (c.enter behavior .sending).link with ⟨e | ⟨⟩, link⟩
    · exact ⟨_, congrArg Prod.fst (attempt_refused htransmit)⟩
    · cases hdue : behavior.deadline? config.responseTimeout (behavior.watch .awaiting link) with
      | none => exact ⟨_, congrArg Prod.fst (attempt_endless htransmit hdue)⟩
      | some due =>
        have hpast : behavior.remaining due
            ((c.handedOver behavior link).enter behavior .awaiting).link = .zero :=
          (Link.remaining_of_deadline? hdue).trans hzero
        rw [attempt_awaiting htransmit hdue, await, if_pos hpast]
        exact ih _

theorem request_timeless (behavior : Link σ) (hzero : config.responseTimeout = .zero)
    (message : Message) (address : Address) (expected : Expectation) (c : Channel σ) :
    ∃ e, (c.request behavior config message address expected).1 = .error e := by
  have hsend : ∃ e, (c.send behavior config message address (some expected)).1 = .error e := by
    rw [send]
    split
    · exact ⟨_, rfl⟩
    · split
      · exact ⟨_, rfl⟩
      · exact attempt_timeless hzero _ expected _ _
  obtain ⟨e, he⟩ := hsend
  rw [request]
  split
  · next heq =>
    rw [heq] at he
    cases he
  · exact ⟨_, rfl⟩
  · exact ⟨_, rfl⟩

section Orders

variable (hlink : behavior.Lossless holds) {c : Channel σ} {b : SlaveBus} (h : c.AtRest holds b)

include hlink h

section Positive

variable (hpos : config.responseTimeout ≠ .zero) (hids : b.ids.Nodup)

include hpos hids

/-- An order to a slave of the bus is carried out, and its answer comes back. -/
theorem request_order_answered {id : DeviceId} {n : SlaveNode} (hn : b.node? id = some n)
    {order : MasterToSlave} {reply : SlaveToMaster}
    (hreply : (n.obey order).2 = some (.slaveToMaster reply)) (hblob : reply.blobLength = 0)
    {expected : Expectation} (hadmits : expected.admits ⟨.device id, .slaveToMaster reply⟩ = true) :
    ∃ result c', c.request behavior config (.masterToSlave order) (.device id) expected =
        (result, c') ∧
      (NodeError.breaksOff result = false →
        result = .ok ⟨.device id, .slaveToMaster reply⟩ ∧ c'.AtRest holds (b.deliver id order)) := by
  obtain ⟨frame, hpack, hframe⟩ := Message.order_frame order id
  obtain ⟨c₁, hdiscard, hc₁, hfresh⟩ := discardStale_atRest hlink h
  obtain ⟨answer, hfits, hparse, hanswer⟩ := SlaveBus.receive_order_answered h.framer hids hn
    hreply hblob hframe config.slot (frameKind (.masterToSlave order))
  have hfind : expected.find? answer = some ⟨.device id, .slaveToMaster reply⟩ := by
    rw [Expectation.find?, hparse, Option.filter_some, if_pos hadmits]
  obtain ⟨left, hleft⟩ := attempts_eq config
  obtain ⟨result, c', hattempt, hresult⟩ :=
    attempt_answered hlink hpos hc₁ hfresh hanswer h.framer hfits hfind left
  rw [request_of_attempt (wire_order h.config hpack hframe) hdiscard, hleft, hattempt]
  cases result with
  | error e => exact ⟨.error e, c', rfl, fun hgoesOn => by cases (hresult (by simpa using hgoesOn)).1⟩
  | ok reply? =>
    obtain ⟨hreply, hc'⟩ := hresult rfl
    cases hreply
    exact ⟨_, c', rfl, fun _ => ⟨rfl, hc'⟩⟩

/-- An order to a device that is not there fails, whoever else it reaches. -/
theorem request_order_absent {id : DeviceId} (habsent : id ∉ b.ids) (order : MasterToSlave)
    (expected : Expectation) :
    ∃ result c', c.request behavior config (.masterToSlave order) (.device id) expected =
        (result, c') ∧
      (NodeError.breaksOff result = false →
        result = .error (exhausted config expected) ∧ c'.AtRest holds (b.deliver id order)) := by
  obtain ⟨frame, hpack, hframe⟩ := Message.order_frame order id
  obtain ⟨c₁, hdiscard, hc₁, -⟩ := discardStale_atRest hlink h
  have hfirst := SlaveBus.receive_order_absent h.framer hids habsent hframe config.slot
    (frameKind (.masterToSlave order))
  have hagain := SlaveBus.receive_order_absent (b := b.deliver id order) h.framer
    (by rwa [SlaveBus.ids_deliver]) (by rwa [SlaveBus.ids_deliver]) hframe config.slot
    (frameKind (.masterToSlave order))
  rw [SlaveBus.deliver_deliver] at hagain
  obtain ⟨left, hleft⟩ := attempts_eq config
  obtain ⟨result, c', hattempt, hresult⟩ :=
    attempt_unanswered hlink hpos hc₁ hfirst hagain h.framer expected left
  rw [request_of_attempt (wire_order h.config hpack hframe) hdiscard, hleft, hattempt]
  cases result with
  | error e =>
    refine ⟨.error e, c', rfl, fun hgoesOn => ?_⟩
    obtain ⟨he, hc'⟩ := hresult (by simpa using hgoesOn)
    cases he
    exact ⟨rfl, hc'⟩
  | ok reply? => cases (hresult rfl).1

end Positive

/-- An order is broken off after its first transmission when the clock cannot tell the end of
the wait for its reply. -/
theorem request_endless (hclock : ∀ {s b waiting}, holds s b waiting →
      behavior.deadline? config.responseTimeout s = none)
    (order : MasterToSlave) (id : DeviceId) (expected : Expectation) :
    ∃ c', c.request behavior config (.masterToSlave order) (.device id) expected =
      (.error .unmeasurable, c') := by
  obtain ⟨frame, hpack, hframe⟩ := Message.order_frame order id
  obtain ⟨c₁, hdiscard, hc₁, -⟩ := discardStale_atRest hlink h
  obtain ⟨left, hleft⟩ := attempts_eq config
  let bytes := Frame.wire {} ⟨config.slot, frameKind (.masterToSlave order), frame⟩
  have hanswer : b.receive bytes = ((b.receive bytes).1, (b.receive bytes).2) := rfl
  obtain ⟨s, htransmit, hs⟩ := attempt_transmitted hlink hc₁ hanswer
  rw [request_of_attempt (wire_order h.config hpack hframe) hdiscard, hleft,
    attempt_endless htransmit (hclock hs)]
  exact ⟨_, rfl⟩

end Orders

end HarnessLink.Channel
