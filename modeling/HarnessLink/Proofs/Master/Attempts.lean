import HarnessLink.Proofs.Frame.Chunking
import HarnessLink.Proofs.Link.Events
import HarnessLink.Proofs.Master.Request

/-!
# Attempts at a command

What a channel does to any link whatever, call by call. A command goes out at most as
often as its attempts allow, the same bytes each time, and how it ended tells the phase
and, when every attempt was used up, the number of transmissions.
-/
namespace HarnessLink

/-- The reply that a command ended with, if any. -/
def replyOf : Except NodeError (Option Envelope) → Option Envelope
  | .ok reply? => reply?
  | .error _ => none

/-- A framer that takes in what arrived becomes `framer'`, and the first reply in its
frames is what the command ended with. No piece but the last brings one. -/
structure Expectation.Hears (expected : Expectation) (framer : Framer) (events : List LinkEvent)
    (result : Except NodeError (Option Envelope)) (framer' : Framer) : Prop where
  framer_eq : (framer.runEach Framer.feed (LinkEvent.arrived events)).2 = framer'
  reply_eq : (framer.runEach Framer.feed (LinkEvent.arrived events)).1.findSome? expected.find? =
    replyOf result
  prompt :
    (framer.runEach Framer.feed (LinkEvent.arrived events).dropLast).1.findSome? expected.find? =
      none

namespace Expectation

/-- Nothing arrived. -/
theorem hears_nothing (expected : Expectation) (framer : Framer) {events : List LinkEvent}
    (harrived : LinkEvent.arrived events = []) {result : Except NodeError (Option Envelope)}
    (hresult : replyOf result = none) : expected.Hears framer events result framer := by
  constructor <;> simp [harrived, hresult, Framer.runEach]

/-- What is heard after events without a reply is heard of all of them. -/
theorem Hears.append {expected : Expectation} {framer framer₁ framer₂ : Framer}
    {events more : List LinkEvent} {quiet result : Except NodeError (Option Envelope)}
    (h : expected.Hears framer events quiet framer₁) (hquiet : replyOf quiet = none)
    (hmore : expected.Hears framer₁ more result framer₂) :
    expected.Hears framer (events ++ more) result framer₂ := by
  have hnone := h.reply_eq
  rw [hquiet] at hnone
  constructor
  · simp [Framer.runEach_append, h.framer_eq, hmore.framer_eq]
  · simp [Framer.runEach_append, h.framer_eq, hmore.reply_eq, hnone]
  · rw [LinkEvent.arrived_append]
    by_cases hlast : LinkEvent.arrived more = []
    · simpa [hlast] using h.prompt
    · rw [List.dropLast_append_of_ne_nil hlast]
      simp [Framer.runEach_append, h.framer_eq, hmore.prompt, hnone]

theorem admits_iff {expected : Expectation} {reply : Envelope} :
    expected.admits reply = true ↔ reply.kind = expected.kind ∧
      ∀ id, expected.source? = some id → reply.device? = some id := by
  cases hsource : expected.source? <;> simp [admits, hsource]

/-- A reply that is found is one that the expectation admits. -/
theorem admits_of_findSome? {expected : Expectation} {frames : List Frame} {reply : Envelope}
    (h : frames.findSome? expected.find? = some reply) : expected.admits reply = true := by
  obtain ⟨frame, -, hfind⟩ := List.exists_of_findSome?_eq_some h
  exact (Option.filter_eq_some_iff.mp hfind).2

end Expectation

namespace Channel

variable {σ : Type} {behavior : Link σ} {config : ChannelConfig}

/-- The channel over the recorded link, after `events`. -/
def recorded (c : Channel σ) (events : List LinkEvent) : Channel (Recorded σ) :=
  { link := ⟨c.link, events⟩, framer := c.framer, phase := c.phase }

@[simp] theorem enter_recorded (behavior : Link σ) (phase : Phase) (c : Channel σ)
    (events : List LinkEvent) :
    (c.recorded events).enter behavior.recorded phase = (c.enter behavior phase).recorded events :=
  rfl

/-- Dropping what is there only receives, and waits for nothing. -/
theorem dropPieces_recorded (behavior : Link σ) (limit : Nat) (s : σ) (past : List LinkEvent) :
    ∃ events, dropPieces behavior.recorded limit ⟨s, past⟩ =
        ((dropPieces behavior limit s).1, ⟨(dropPieces behavior limit s).2, past ++ events⟩) ∧
      LinkEvent.sent events = [] ∧ ∀ event ∈ events, event.isWait = false := by
  induction limit generalizing s past with
  | zero => exact ⟨[], by simp [dropPieces], rfl, by simp⟩
  | succ limit ih =>
    rcases hreceive : behavior.receive .zero s with ⟨result, s'⟩
    have hrecorded := Link.recorded_receive hreceive past
    rcases result with e | _ | arrival
    · refine ⟨[.received .zero (.error e)], ?_, rfl, by simp [LinkEvent.isWait]⟩
      simp [dropPieces, hreceive, hrecorded]
    · refine ⟨[.received .zero (.ok none)], ?_, rfl, by simp [LinkEvent.isWait]⟩
      simp [dropPieces, hreceive, hrecorded]
    · obtain ⟨events, hdrop, hsent, hwait⟩ :=
        ih s' (past ++ [.received .zero (.ok (some arrival))])
      refine ⟨.received .zero (.ok (some arrival)) :: events, ?_, by simpa using hsent, ?_⟩
      · simpa [dropPieces, hreceive, hrecorded] using hdrop
      · simpa [LinkEvent.isWait] using hwait

/-- What waits is dropped first, as long as there are not too many pieces. -/
theorem dropPieces_waiting {s s' : σ} {pieces : List Bytes} (h : behavior.Waiting s pieces s')
    {limit : Nat} (hlimit : pieces.length ≤ limit) (past : List LinkEvent) :
    ∃ events, LinkEvent.arrived events = pieces ∧
      dropPieces behavior.recorded limit ⟨s, past⟩ =
        dropPieces behavior.recorded (limit - pieces.length) ⟨s', past ++ events⟩ := by
  induction h generalizing limit past with
  | nil s => exact ⟨[], rfl, by simp⟩
  | @cons s s₁ s₂ arrival pieces first rest ih =>
    obtain ⟨left, rfl⟩ := Nat.exists_eq_add_of_le' (Nat.lt_of_lt_of_le (Nat.succ_pos _) hlimit)
    rw [List.length_cons, Nat.add_le_add_iff_right] at hlimit
    obtain ⟨events, harrived, hdrop⟩ :=
      ih hlimit (past ++ [.received .zero (.ok (some arrival))])
    refine ⟨.received .zero (.ok (some arrival)) :: events, by simp [harrived], ?_⟩
    rw [dropPieces, Link.recorded_receive first]
    simpa using hdrop

/-- Waiting only receives. What the framer becomes and what is heard is told by what
arrived. -/
theorem await_recorded (behavior : Link σ) (expected : Expectation) (due : Duration)
    (c : Channel σ) (past : List LinkEvent) :
    ∃ events, (c.recorded past).await behavior.recorded expected due =
        ((c.await behavior expected due).1,
          (c.await behavior expected due).2.recorded (past ++ events)) ∧
      LinkEvent.sent events = [] ∧
      expected.Hears c.framer events (c.await behavior expected due).1
        (c.await behavior expected due).2.framer ∧
      (c.await behavior expected due).2.phase = c.phase := by
  fun_induction Channel.await behavior expected due c generalizing past with
  | case1 c hpast =>
    refine ⟨[], ?_, rfl, expected.hears_nothing c.framer rfl rfl, rfl⟩
    have hrecorded : behavior.recorded.remaining due (c.recorded past).link = .zero := hpast
    rw [await, if_pos hrecorded, List.append_nil]
  | case2 c hpos e link hreceive =>
    refine ⟨[.received (behavior.remaining due c.link) (.error e)], ?_, rfl,
      expected.hears_nothing c.framer rfl rfl, rfl⟩
    rw [await_eq expected (c.recorded past) hpos]
    simp [recorded, Link.recorded_receive hreceive]
  | case3 c hpos link hreceive =>
    refine ⟨[.received (behavior.remaining due c.link) (.ok none)], ?_, rfl,
      expected.hears_nothing c.framer rfl rfl, rfl⟩
    rw [await_eq expected (c.recorded past) hpos]
    simp [recorded, Link.recorded_receive hreceive]
  | case4 c hpos arrival link hreceive frames framer hfeed e hfind =>
    refine ⟨[.received (behavior.remaining due c.link) (.ok (some arrival))], ?_, rfl, ?_, rfl⟩
    · rw [await_eq expected (c.recorded past) hpos]
      simp [recorded, Link.recorded_receive hreceive, hfeed, hfind]
    · constructor <;> simp [Framer.runEach, hfeed, hfind, replyOf]
  | case5 c hpos arrival link hreceive frames framer hfeed hfind ih =>
    obtain ⟨events, hawait, hsent, hhears, hphase⟩ :=
      ih (past ++ [.received (behavior.remaining due c.link) (.ok (some arrival))])
    refine ⟨.received (behavior.remaining due c.link) (.ok (some arrival)) :: events, ?_,
      by simpa using hsent, ?_, hphase⟩
    · rw [await_eq expected (c.recorded past) hpos]
      simpa [recorded, Link.recorded_receive hreceive, hfeed, hfind] using hawait
    · have hfirst : expected.Hears c.framer
          [.received (behavior.remaining due c.link) (.ok (some arrival))] (.ok none) framer := by
        constructor <;> simp [Framer.runEach, hfeed, hfind, replyOf]
      exact hfirst.append rfl hhears

/-! ## All attempts -/

/-- How a command with `left` attempts ends: its result, the phase that it leaves and the
number of its transmissions. -/
inductive Ending (config : ChannelConfig) (expected : Expectation) (left : Nat) :
    Except NodeError (Option Envelope) → Phase → Nat → Prop where
  | answered (reply : Envelope) {count : Nat} (hcount : count ≤ left) :
      Ending config expected left (.ok (some reply)) .success count
  | exhausted : Ending config expected left (.error (exhausted config expected)) .failed left
  | linkFailed (e : LinkError) {count : Nat} (hcount : count ≤ left) :
      Ending config expected left (.error (.link e)) .failed count
  /-- The end of a wait cannot be told. -/
  | endless {count : Nat} (hcount : count ≤ left) :
      Ending config expected left (.error .unmeasurable) .awaiting count

theorem Ending.count_le {expected : Expectation} {left count : Nat}
    {result : Except NodeError (Option Envelope)} {phase : Phase}
    (h : Ending config expected left result phase count) : count ≤ left := by
  cases h with
  | exhausted => exact Nat.le_refl left
  | _ => assumption

theorem Ending.of_ok {expected : Expectation} {left count : Nat} {reply? : Option Envelope}
    {phase : Phase} (h : Ending config expected left (.ok reply?) phase count) :
    ∃ reply, reply? = some reply ∧ phase = .success := by
  cases h with
  | answered reply _ => exact ⟨reply, rfl, rfl⟩

theorem Ending.of_retriesExhausted {expected : Expectation} {left count attempts : Nat}
    {kind : MessageKind} {phase : Phase}
    (h : Ending config expected left (.error (.retriesExhausted kind attempts)) phase count) :
    kind = expected.kind ∧ attempts = config.attempts ∧ count = left ∧ phase = .failed := by
  cases h with
  | exhausted => exact ⟨rfl, rfl, rfl, rfl⟩

theorem Ending.of_link {expected : Expectation} {left count : Nat} {e : LinkError} {phase : Phase}
    (h : Ending config expected left (.error (.link e)) phase count) : phase = .failed := by
  cases h with
  | linkFailed => rfl

/-- One more attempt before it. -/
theorem Ending.succ {expected : Expectation} {left count : Nat}
    {result : Except NodeError (Option Envelope)} {phase : Phase}
    (h : Ending config expected left result phase count) :
    Ending config expected (left + 1) result phase (count + 1) := by
  cases h with
  | answered reply hcount => exact .answered reply (Nat.succ_le_succ hcount)
  | exhausted => exact .exhausted
  | linkFailed e hcount => exact .linkFailed e (Nat.succ_le_succ hcount)
  | endless hcount => exact .endless (Nat.succ_le_succ hcount)

/-- What `left` attempts at the command `bytes` did to a link: they began by handing it out
and handed out nothing else, their number and the ending belong together, and the reply is
what `framer` heard. -/
structure Effort (config : ChannelConfig) (expected : Expectation) (bytes : Bytes) (left : Nat)
    (framer : Framer) (events : List LinkEvent)
    (run : Except NodeError (Option Envelope) × Channel σ) : Prop where
  begins : 0 < left → ∃ result later, events = .transmitted bytes result :: later
  sent : ∃ count, LinkEvent.sent events = List.replicate count bytes ∧
    Ending config expected left run.1 run.2.phase count
  heard : expected.Hears framer events run.1 run.2.framer

/-- An attempt that was the last, for a reply or a fault of the link. -/
theorem Effort.last {expected : Expectation} {bytes : Bytes} {left : Nat} {framer : Framer}
    {result : Except LinkError Unit} {events : List LinkEvent}
    {run : Except NodeError (Option Envelope) × Channel σ} (hsent : LinkEvent.sent events = [])
    (hending : Ending config expected (left + 1) run.1 run.2.phase 1)
    (hheard : expected.Hears framer events run.1 run.2.framer) :
    Effort config expected bytes (left + 1) framer (.transmitted bytes result :: events) run :=
  ⟨fun _ => ⟨result, events, rfl⟩, ⟨1, by simp [hsent], hending⟩, hheard.framer_eq,
    hheard.reply_eq, hheard.prompt⟩

/-- An attempt without a reply, and what was done after it. -/
theorem Effort.after {expected : Expectation} {bytes : Bytes} {left : Nat} {framer framer₁ : Framer}
    {result : Except LinkError Unit} {events more : List LinkEvent}
    {run : Except NodeError (Option Envelope) × Channel σ}
    (h : Effort config expected bytes left framer₁ more run) (hsent : LinkEvent.sent events = [])
    (hquiet : expected.Hears framer events (.ok none) framer₁) :
    Effort config expected bytes (left + 1) framer (.transmitted bytes result :: events ++ more)
      run := by
  obtain ⟨count, hmore, hending⟩ := h.sent
  have hheard : expected.Hears framer (events ++ more) run.1 run.2.framer :=
    hquiet.append rfl h.heard
  refine ⟨fun _ => ⟨result, events ++ more, rfl⟩, ⟨count + 1, ?_, hending.succ⟩, ?_, ?_, ?_⟩
  · simp [hsent, hmore, List.replicate_succ]
  · exact hheard.framer_eq
  · exact hheard.reply_eq
  · exact hheard.prompt

/-- A result of attempts is a reply that the expectation admits. -/
theorem Effort.of_ok {expected : Expectation} {bytes : Bytes} {left : Nat} {framer : Framer}
    {events : List LinkEvent} {run : Except NodeError (Option Envelope) × Channel σ}
    (h : Effort config expected bytes left framer events run) {reply? : Option Envelope}
    (hresult : run.1 = .ok reply?) :
    ∃ reply, reply? = some reply ∧ expected.admits reply = true ∧ run.2.phase = .success := by
  obtain ⟨count, -, hending⟩ := h.sent
  have hreply := h.heard.reply_eq
  rw [hresult] at hending hreply
  obtain ⟨reply, rfl, hphase⟩ := hending.of_ok
  exact ⟨reply, rfl, Expectation.admits_of_findSome? hreply, hphase⟩

/-- The attempts at a command over a recorded link are those over the link. -/
theorem attempt_recorded (behavior : Link σ) (config : ChannelConfig) (bytes : Bytes)
    (expected : Expectation) (left : Nat) (c : Channel σ) (past : List LinkEvent) :
    ∃ events, (c.recorded past).attempt behavior.recorded config bytes expected left =
        ((c.attempt behavior config bytes expected left).1,
          (c.attempt behavior config bytes expected left).2.recorded (past ++ events)) ∧
      Effort config expected bytes left c.framer events
        (c.attempt behavior config bytes expected left) := by
  induction left generalizing c past with
  | zero =>
    refine ⟨[], ?_, fun h => absurd h (Nat.lt_irrefl 0), ⟨0, rfl, .exhausted⟩,
      expected.hears_nothing _ rfl rfl⟩
    rw [List.append_nil]
    rfl
  | succ left ih =>
    rcases htransmit : behavior.transmit bytes (c.enter behavior .sending).link with ⟨result, link⟩
    have hrecorded : behavior.recorded.transmit bytes
        ((c.recorded past).enter behavior.recorded .sending).link = _ :=
      Link.recorded_transmit htransmit past
    have hfirst : 1 ≤ left + 1 := Nat.succ_pos left
    match result with
    | .error e =>
      rw [attempt_refused htransmit, attempt_refused hrecorded]
      exact ⟨[.transmitted bytes (.error e)], rfl,
        .last rfl (.linkFailed e hfirst) (expected.hears_nothing _ rfl rfl)⟩
    | .ok () =>
      cases hdue : behavior.deadline? config.responseTimeout (behavior.watch .awaiting link) with
      | none =>
        rw [attempt_endless htransmit hdue, attempt_endless hrecorded hdue]
        exact ⟨[.transmitted bytes (.ok ())], rfl,
          .last rfl (.endless hfirst) (expected.hears_nothing _ rfl rfl)⟩
      | some due =>
        obtain ⟨events, hawait, hsent, hheard, -⟩ := await_recorded behavior expected due
          ((c.handedOver behavior link).enter behavior .awaiting)
          (past ++ [.transmitted bytes (.ok ())])
        rw [List.append_assoc] at hawait
        have hwaiting : (((c.recorded past).handedOver behavior.recorded
            ⟨link, past ++ [.transmitted bytes (.ok ())]⟩).enter behavior.recorded .awaiting).await
              behavior.recorded expected due = _ := hawait
        rw [attempt_awaiting htransmit hdue, attempt_awaiting hrecorded hdue, hwaiting]
        rcases hresult : ((c.handedOver behavior link).enter behavior .awaiting).await behavior
          expected due with ⟨result, c'⟩
        rw [hresult] at hheard
        match result with
        | .error e =>
          obtain ⟨e', rfl⟩ := await_error hresult
          exact ⟨.transmitted bytes (.ok ()) :: events, by simp,
            .last hsent (.linkFailed e' hfirst) hheard⟩
        | .ok (some reply) =>
          exact ⟨.transmitted bytes (.ok ()) :: events, by simp,
            .last hsent (.answered reply hfirst) hheard⟩
        | .ok none =>
          have hframer : (if left = 0 then c' else c'.enter behavior .retry).framer = c'.framer := by
            split <;> rfl
          obtain ⟨more, hattempt, heffort⟩ := ih (if left = 0 then c' else c'.enter behavior .retry)
            (past ++ .transmitted bytes (.ok ()) :: events)
          rw [hframer] at heffort
          refine ⟨.transmitted bytes (.ok ()) :: events ++ more, ?_, heffort.after hsent hheard⟩
          rw [← List.append_assoc past (_ :: events), ← hattempt]
          by_cases hleft : left = 0 <;> simp [hleft]

/-! ## Sending -/

/-- Throwing old input away fails with the link, or empties the framer. -/
theorem discardStale_cases (behavior : Link σ) (c : Channel σ) :
    (∃ e link, c.discardStale behavior = (.error (.link e), { c with link })) ∨
      ∃ link, c.discardStale behavior = (.ok (), { c with link, framer := c.framer.reset }) := by
  rcases hdrop : dropPieces behavior maxStalePieces c.link with ⟨e | ⟨⟩, link⟩
  · exact Or.inl ⟨e, link, by simp [discardStale, hdrop]⟩
  · exact Or.inr ⟨link, by simp [discardStale, hdrop]⟩

/-- Over a recorded link it only receives, and waits for nothing. What waits is received,
as long as there are not too many pieces. -/
theorem discardStale_recorded (behavior : Link σ) (c : Channel σ) (past : List LinkEvent) :
    ∃ events, (c.recorded past).discardStale behavior.recorded =
        ((c.discardStale behavior).1, (c.discardStale behavior).2.recorded (past ++ events)) ∧
      LinkEvent.sent events = [] ∧ (∀ event ∈ events, event.isWait = false) ∧
      ∀ pieces s, behavior.Waiting c.link pieces s → pieces.length ≤ maxStalePieces →
        pieces <+: LinkEvent.arrived events := by
  obtain ⟨events, hdrop, hsent, hwait⟩ := dropPieces_recorded behavior maxStalePieces c.link past
  refine ⟨events, ?_, hsent, hwait, ?_⟩
  · rcases hresult : dropPieces behavior maxStalePieces c.link with ⟨e | ⟨⟩, link⟩ <;>
      rw [hresult] at hdrop <;> simp [discardStale, recorded, hdrop, hresult]
  · intro pieces s hwaiting hfew
    obtain ⟨first, rfl, hfirst⟩ := dropPieces_waiting hwaiting hfew past
    obtain ⟨later, hlater, -⟩ := dropPieces_recorded behavior
      (maxStalePieces - (LinkEvent.arrived first).length) s (past ++ first)
    have hpast := congrArg (fun r => r.2.events) (hdrop.symm.trans (hfirst.trans hlater))
    simp only [List.append_assoc, List.append_cancel_left_eq] at hpast
    simp [hpast]

variable {message : Message} {address : Address} {expected? : Option Expectation}

/-- The calls on its link that sending a message makes, read off the recorded link. -/
def events (behavior : Link σ) (config : ChannelConfig) (message : Message) (address : Address)
    (expected? : Option Expectation) (c : Channel σ) : List LinkEvent :=
  ((c.recorded []).send behavior.recorded config message address expected?).2.link.events

/-- A command that ends before its first transmission: the message has no link bytes, or old
input cannot be thrown away. -/
def Withholds (behavior : Link σ) (config : ChannelConfig) (message : Message) (address : Address)
    (c : Channel σ) : Prop :=
  (∃ e, c.wire config message address = .error e) ∨ ∃ e, (c.discardStale behavior).1 = .error e

/-- Any other command is sent. -/
theorem withholds_or_discards (behavior : Link σ) (config : ChannelConfig) (message : Message)
    (address : Address) (c : Channel σ) :
    c.Withholds behavior config message address ∨
      (∃ bytes, c.wire config message address = .ok bytes) ∧
      ∃ link, c.discardStale behavior = (.ok (), { c with link, framer := c.framer.reset }) := by
  rcases hwire : c.wire config message address with e | bytes
  · exact Or.inl (Or.inl ⟨e, hwire⟩)
  · rcases discardStale_cases behavior c with ⟨e, link, hdiscard⟩ | ⟨link, hdiscard⟩
    · exact Or.inl (Or.inr ⟨.link e, by rw [hdiscard]⟩)
    · exact Or.inr ⟨⟨bytes, rfl⟩, link, hdiscard⟩

/-- Old input that cannot be thrown away fails the command. -/
theorem send_of_discardStale_error {c c₁ : Channel σ} {bytes : Bytes} {e : NodeError}
    (hwire : c.wire config message address = .ok bytes)
    (hdiscard : c.discardStale behavior = (.error e, c₁)) :
    c.send behavior config message address expected? = (.error e, c₁) := by
  simp [send, hwire, hdiscard]

/-- What a command does once its bytes are there and old input is thrown away. -/
def deliver (behavior : Link σ) (config : ChannelConfig) (bytes : Bytes) :
    Option Expectation → Channel σ → Except NodeError (Option Envelope) × Channel σ
  | none, c => c.transmitOnce behavior bytes
  | some expected, c => c.attempt behavior config bytes expected config.attempts

theorem send_of_discardStale {c c₁ : Channel σ} {bytes : Bytes}
    (hwire : c.wire config message address = .ok bytes)
    (hdiscard : c.discardStale behavior = (.ok (), c₁)) :
    c.send behavior config message address expected? =
      c₁.deliver behavior config bytes expected? := by
  cases expected? <;> simp [send, hwire, hdiscard, deliver]

theorem transmitOnce_recorded (behavior : Link σ) (bytes : Bytes) (c : Channel σ)
    (past : List LinkEvent) :
    ∃ result, (c.recorded past).transmitOnce behavior.recorded bytes =
        ((c.transmitOnce behavior bytes).1,
          (c.transmitOnce behavior bytes).2.recorded (past ++ [.transmitted bytes result])) ∧
      replyOf (c.transmitOnce behavior bytes).1 = none ∧
      (c.transmitOnce behavior bytes).2.phase = .idle := by
  rcases htransmit : behavior.transmit bytes (c.enter behavior .sending).link with ⟨result, link⟩
  have hrecorded : behavior.recorded.transmit bytes
      ((c.recorded past).enter behavior.recorded .sending).link = _ :=
    Link.recorded_transmit htransmit past
  refine ⟨result, ?_⟩
  cases result <;> simp only [transmitOnce, htransmit, hrecorded] <;> exact ⟨rfl, rfl, rfl⟩

/-- A command that is withheld leaves the phase as it was, and only receives without
waiting. A message with link bytes is withheld because the link failed. -/
theorem send_withheld {c : Channel σ} (h : c.Withholds behavior config message address)
    (expected? : Option Expectation) (past : List LinkEvent) :
    ∃ e c' events, c.send behavior config message address expected? = (.error e, c') ∧
      (c.recorded past).send behavior.recorded config message address expected? =
        (.error e, c'.recorded (past ++ events)) ∧
      c'.phase = c.phase ∧ LinkEvent.sent events = [] ∧
      (∀ event ∈ events, event.isWait = false) ∧ (∀ kind count, e ≠ .retriesExhausted kind count) ∧
      ((∃ bytes, c.wire config message address = .ok bytes) → ∃ fault, e = .link fault) := by
  have hsame : (c.recorded past).wire config message address = c.wire config message address := rfl
  rcases hwire : c.wire config message address with e | bytes
  · refine ⟨e, c, [], ?_, ?_, rfl, rfl, by simp, ?_, by simp⟩
    · simp [send, hwire]
    · simp [send, hsame, hwire]
    · rcases wire_error hwire with ⟨fault, rfl⟩ | ⟨fault, rfl⟩ <;> simp
  · obtain ⟨e, he⟩ : ∃ e, (c.discardStale behavior).1 = .error e := by
      simpa [Withholds, hwire] using h
    obtain ⟨events, hdiscard, hsent, hwait, -⟩ := discardStale_recorded behavior c past
    rcases discardStale_cases behavior c with ⟨fault, link, hresult⟩ | ⟨link, hresult⟩
    · rw [hresult] at hdiscard
      exact ⟨.link fault, { c with link }, events, send_of_discardStale_error hwire hresult,
        send_of_discardStale_error (hsame.trans hwire) hdiscard, rfl, hsent, hwait, by simp,
        fun _ => ⟨fault, rfl⟩⟩
    · rw [hresult] at he
      cases he

/-- Any other command throws old input away, what waits first, and is then delivered. -/
theorem send_delivered {c : Channel σ} (h : ¬ c.Withholds behavior config message address)
    (expected? : Option Expectation) (past : List LinkEvent) :
    ∃ (bytes : Bytes) (c₁ : Channel σ) (stale : List LinkEvent),
      c.wire config message address = .ok bytes ∧ c₁.framer = c.framer.reset ∧
      c.send behavior config message address expected? =
        c₁.deliver behavior config bytes expected? ∧
      (c.recorded past).send behavior.recorded config message address expected? =
        (c₁.recorded (past ++ stale)).deliver behavior.recorded config bytes expected? ∧
      LinkEvent.sent stale = [] ∧ (∀ event ∈ stale, event.isWait = false) ∧
      ∀ pieces s, behavior.Waiting c.link pieces s → pieces.length ≤ maxStalePieces →
        pieces <+: LinkEvent.arrived stale := by
  obtain ⟨⟨bytes, hwire⟩, link, hresult⟩ :=
    (withholds_or_discards behavior config message address c).resolve_left h
  obtain ⟨stale, hdiscard, hsent, hwait, hpieces⟩ := discardStale_recorded behavior c past
  have hsame : (c.recorded past).wire config message address = c.wire config message address := rfl
  rw [hresult] at hdiscard
  exact ⟨bytes, _, stale, hwire, rfl, send_of_discardStale hwire hresult,
    send_of_discardStale (hsame.trans hwire) hdiscard, hsent, hwait, hpieces⟩

/-- With an expectation, only the attempts act on the link then. -/
theorem send_expecting {c : Channel σ} (h : ¬ c.Withholds behavior config message address)
    (expected : Expectation) (past : List LinkEvent) :
    ∃ bytes stale events, c.wire config message address = .ok bytes ∧
      (c.recorded past).send behavior.recorded config message address (some expected) =
        ((c.send behavior config message address (some expected)).1,
          (c.send behavior config message address (some expected)).2.recorded
            (past ++ (stale ++ events))) ∧
      LinkEvent.sent stale = [] ∧
      (∀ pieces s, behavior.Waiting c.link pieces s → pieces.length ≤ maxStalePieces →
        pieces <+: LinkEvent.arrived stale) ∧
      Effort config expected bytes config.attempts c.framer.reset events
        (c.send behavior config message address (some expected)) := by
  obtain ⟨bytes, c₁, stale, hwire, hframer, hsend, hrecorded, hsent, -, hpieces⟩ :=
    send_delivered h (some expected) past
  obtain ⟨events, hattempt, heffort⟩ := attempt_recorded behavior config bytes expected
    config.attempts c₁ (past ++ stale)
  rw [hframer] at heffort
  refine ⟨bytes, stale, events, hwire, ?_, hsent, hpieces, hsend ▸ heffort⟩
  rw [hrecorded, hsend, ← List.append_assoc]
  exact hattempt

/-- Without an expectation, the bytes are handed out once. -/
theorem send_once {c : Channel σ} (h : ¬ c.Withholds behavior config message address)
    (past : List LinkEvent) :
    ∃ bytes stale result, c.wire config message address = .ok bytes ∧
      (c.recorded past).send behavior.recorded config message address none =
        ((c.send behavior config message address none).1,
          (c.send behavior config message address none).2.recorded
            (past ++ (stale ++ [.transmitted bytes result]))) ∧
      LinkEvent.sent stale = [] ∧ (∀ event ∈ stale, event.isWait = false) ∧
      replyOf (c.send behavior config message address none).1 = none ∧
      (c.send behavior config message address none).2.phase = .idle := by
  obtain ⟨bytes, c₁, stale, hwire, -, hsend, hrecorded, hsent, hwait, -⟩ :=
    send_delivered h none past
  obtain ⟨result, htransmit, hreply, hphase⟩ :=
    transmitOnce_recorded behavior bytes c₁ (past ++ stale)
  refine ⟨bytes, stale, result, hwire, ?_, hsent, hwait, ?_⟩
  · rw [hrecorded, hsend, ← List.append_assoc]
    exact htransmit
  · rw [hsend]
    exact ⟨hreply, hphase⟩

theorem events_eq {c c' : Channel σ} {result : Except NodeError (Option Envelope)}
    {events : List LinkEvent}
    (h : (c.recorded []).send behavior.recorded config message address expected? =
      (result, c'.recorded events)) :
    c.events behavior config message address expected? = events := by
  rw [Channel.events, h]
  rfl

/-- A recorded link does what the link does. -/
theorem send_recorded (behavior : Link σ) (config : ChannelConfig) (message : Message)
    (address : Address) (expected? : Option Expectation) (c : Channel σ) :
    (c.recorded []).send behavior.recorded config message address expected? =
      ((c.send behavior config message address expected?).1,
        (c.send behavior config message address expected?).2.recorded
          (c.events behavior config message address expected?)) := by
  by_cases h : c.Withholds behavior config message address
  · obtain ⟨e, c', events, hsend, hrecorded, -⟩ := send_withheld h expected? []
    rw [events_eq hrecorded, hrecorded, hsend]
  · cases expected? with
    | none =>
      obtain ⟨bytes, stale, result, -, hrecorded, -⟩ := send_once h []
      rw [events_eq hrecorded, hrecorded]
    | some expected =>
      obtain ⟨bytes, stale, events, -, hrecorded, -⟩ := send_expecting h expected []
      rw [events_eq hrecorded, hrecorded]

/-- A command that is not withheld reaches the link. -/
theorem sent_ne_nil {c : Channel σ} (h : ¬ c.Withholds behavior config message address)
    (expected? : Option Expectation) :
    LinkEvent.sent (c.events behavior config message address expected?) ≠ [] := by
  cases expected? with
  | none =>
    obtain ⟨bytes, stale, result, -, hrecorded, -⟩ := send_once h []
    simp [events_eq hrecorded]
  | some expected =>
    obtain ⟨bytes, stale, events, -, hrecorded, -, -, heffort⟩ := send_expecting h expected []
    obtain ⟨left, hleft⟩ := attempts_eq config
    obtain ⟨result, later, rfl⟩ := heffort.begins (by omega)
    simp [events_eq hrecorded]

/-- Whatever the link brings and refuses, a command goes out at most as often as its
attempts allow, always as the same bytes, and exactly so often when it runs out of them.
Only a reply of the expected kind and device answers it. How it ended is what the phase
tells, and a command that is withheld changes neither. A message that nobody answers goes
out at most once and waits for nothing. -/
theorem send_bounded (behavior : Link σ) (config : ChannelConfig) (message : Message)
    (address : Address) (c : Channel σ) :
    (∀ expected : Expectation,
      let run := c.send behavior config message address (some expected)
      let sent := LinkEvent.sent (c.events behavior config message address (some expected))
      sent.length ≤ config.attempts ∧
      (∀ bytes ∈ sent, c.wire config message address = .ok bytes) ∧
      (∀ kind count, run.1 = .error (.retriesExhausted kind count) →
        kind = expected.kind ∧ count = config.attempts ∧ sent.length = config.attempts ∧
          run.2.phase = .failed) ∧
      (∀ reply?, run.1 = .ok reply? → ∃ reply, reply? = some reply ∧
        reply.kind = expected.kind ∧ (∀ id, expected.source? = some id → reply.device? = some id) ∧
          run.2.phase = .success) ∧
      ∀ e, run.1 = .error (.link e) → sent ≠ [] → run.2.phase = .failed) ∧
    (let run := c.send behavior config message address none
      let events := c.events behavior config message address none
      (LinkEvent.sent events).length ≤ 1 ∧
      (∀ bytes ∈ LinkEvent.sent events, c.wire config message address = .ok bytes) ∧
      (∀ event ∈ events, event.isWait = false) ∧
      (∀ reply, run.1 ≠ .ok (some reply)) ∧
      (¬ c.Withholds behavior config message address → run.2.phase = .idle)) ∧
    ∀ expected? : Option Expectation,
      let run := c.send behavior config message address expected?
      let sent := LinkEvent.sent (c.events behavior config message address expected?)
      (c.Withholds behavior config message address ↔ sent = []) ∧
      (c.Withholds behavior config message address →
        (∃ e, run.1 = .error e) ∧ run.2.phase = c.phase) := by
  refine ⟨fun expected => ?_, ?_, fun expected? => ?_⟩
  · by_cases h : c.Withholds behavior config message address
    · obtain ⟨e, c', events, hsend, hrecorded, -, hsent, -, hkind, -⟩ :=
        send_withheld h (some expected) []
      simp [events_eq hrecorded, hsend, hsent, hkind]
    · obtain ⟨bytes, stale, events, hwire, hrecorded, hsent, -, heffort⟩ :=
        send_expecting h expected []
      obtain ⟨count, hcount, hending⟩ := heffort.sent
      simp only [events_eq hrecorded, LinkEvent.sent_append, hsent, hcount, hwire, List.nil_append,
        List.length_replicate]
      refine ⟨hending.count_le, by simp [eq_comm], ?_, ?_, ?_⟩
      · intro kind attempts hresult
        rw [hresult] at hending
        exact hending.of_retriesExhausted
      · intro reply? hresult
        obtain ⟨reply, hreply, hadmits, hphase⟩ := heffort.of_ok hresult
        obtain ⟨hkind, hdevice⟩ := Expectation.admits_iff.mp hadmits
        exact ⟨reply, hreply, hkind, hdevice, hphase⟩
      · intro e hresult _
        rw [hresult] at hending
        exact hending.of_link
  · by_cases h : c.Withholds behavior config message address
    · obtain ⟨e, c', events, hsend, hrecorded, -, hsent, hwait, -⟩ := send_withheld h none []
      simpa [events_eq hrecorded, hsend, hsent, h] using hwait
    · obtain ⟨bytes, stale, result, hwire, hrecorded, hsent, hwait, hreply, hphase⟩ :=
        send_once h []
      have hnone : ∀ reply, (c.send behavior config message address none).1 ≠ .ok (some reply) := by
        intro reply hresult
        simp [hresult, replyOf] at hreply
      simp only [events_eq hrecorded, List.nil_append, LinkEvent.sent_append, hsent]
      exact ⟨by simp, by simp [hwire],
        List.forall_mem_append.mpr ⟨hwait, by simp [LinkEvent.isWait]⟩, hnone, fun _ => hphase⟩
  · by_cases h : c.Withholds behavior config message address
    · obtain ⟨e, c', events, hsend, hrecorded, hphase, hsent, -, -⟩ := send_withheld h expected? []
      simp [events_eq hrecorded, hsend, hsent, hphase, h]
    · simp [h, sent_ne_nil h expected?]

end Channel
end HarnessLink
