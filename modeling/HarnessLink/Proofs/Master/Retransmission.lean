import HarnessLink.Proofs.Link.Lossy
import HarnessLink.Proofs.Master.Attempts
import HarnessLink.Proofs.Slave.Repetition

/-!
# Commands that are sent again

Over a link that loses answers a command may reach the slaves once for each of its attempts.
They are as they would be had it come once, and what the channel takes for the reply is the
answer to its first arrival: all answers are equal, one slave gives them, and nothing that was
there before the command is left when it goes out.
-/
namespace HarnessLink

/-- A reply that is found is the answer of a slave, and all of it is there. -/
theorem SlaveBus.AnswerBytes.reply {nodes : List SlaveNode} {frame taken rest : Bytes}
    (h : AnswerBytes nodes frame (taken ++ rest)) {expected : Expectation} {reply : Envelope}
    (hfind : (Framer.feed {} taken).1.findSome? expected.find? = some reply) :
    rest = [] ∧ ∃ answer, Answered nodes frame answer ∧
      Envelope.parse? none answer = some reply := by
  generalize hbytes : taken ++ rest = bytes at h
  cases h with
  | silence =>
    rw [(List.append_eq_nil_iff.mp hbytes).1, Framer.feed_fresh_nil] at hfind
    cases hfind
  | @answer answer encoding hanswered hencode =>
    let f : Frame := ⟨slot, FrameKind.reply, answer⟩
    have hsome : (Framer.feed {} taken).1 ≠ [] := by
      intro hnil
      rw [hnil] at hfind
      cases hfind
    have hrest : rest = [] := Framer.feed_front (f := f) hencode hbytes.symm hsome
    rw [hrest, List.append_nil] at hbytes
    rw [hbytes, Framer.feed_encode (f := f) hencode, List.findSome?_singleton] at hfind
    exact ⟨hrest, answer, hanswered, (Option.filter_eq_some_iff.mp hfind).1⟩

namespace Channel

open SlaveBus

variable {σ : Type} {behavior : Link σ} {bus : σ → SlaveBus} {holds : σ → Bytes → Prop}
variable {config : ChannelConfig} {tidy : Prop} {ids : List DeviceId}

/-! ## What arrives -/

/-- Dropping takes bytes from the front of those that wait. -/
theorem dropPieces_lossy (hlink : behavior.Lossy bus holds) (count : Nat) {s : σ}
    {waiting : Bytes} (h : holds s waiting) :
    ∃ s' rest, dropPieces behavior count s = (.ok (), s') ∧ bus s' = bus s ∧ holds s' rest ∧
      rest <:+ waiting := by
  induction count generalizing s waiting with
  | zero => exact ⟨s, waiting, rfl, rfl, h, List.suffix_refl waiting⟩
  | succ count ih =>
    obtain ⟨s', hreceive, hbus, hs, -⟩ | ⟨piece, behind, s₁, hreceive, rfl, hbus, hs, -⟩ :=
      hlink.receive h .zero
    · exact ⟨s', waiting, by rw [dropPieces, hreceive], hbus, hs, List.suffix_refl waiting⟩
    · obtain ⟨s', rest, hdrop, hbus', hs', hrest⟩ := ih hs
      exact ⟨s', rest, by simp only [dropPieces, hreceive, hdrop], hbus'.trans hbus, hs',
        hrest.trans (List.suffix_append piece behind)⟩

/-- What waits is in so few pieces that all of it is thrown away before a command. -/
def DropsAll (behavior : Link σ) (holds : σ → Bytes → Prop) (c : Channel σ) : Prop :=
  ∃ s, dropPieces behavior maxStalePieces c.link = (.ok (), s) ∧ holds s []

theorem dropsAll_of_nothing (hlink : behavior.Lossy bus holds) {c : Channel σ}
    (h : holds c.link []) : c.DropsAll behavior holds := by
  obtain ⟨s, rest, hdrop, -, hs, hrest⟩ := dropPieces_lossy hlink maxStalePieces h
  rw [List.suffix_nil] at hrest
  rw [hrest] at hs
  exact ⟨s, hdrop, hs⟩

/-- What a wait for a reply did: it took in some pieces, and the reply is what it found in
them. Without time it took none, and with time it found the reply, or nothing is left. -/
structure Took (bus : σ → SlaveBus) (holds : σ → Bytes → Prop) (expected : Expectation)
    (remaining : Duration) (c : Channel σ) (taken : List Bytes) (rest : Bytes)
    (run : Except NodeError (Option Envelope) × Channel σ) : Prop where
  bus_eq : bus run.2.link = bus c.link
  left : holds run.2.link rest
  framer_eq : run.2.framer = (c.framer.runEach Framer.feed taken).2
  result_eq : run.1 = .ok ((c.framer.runEach Framer.feed taken).1.findSome? expected.find?)
  timeless : remaining = .zero → taken = []
  all : remaining ≠ .zero → run.1 = .ok none → rest = []

theorem await_lossy (hlink : behavior.Lossy bus holds) (expected : Expectation)
    (due : Duration) {c : Channel σ} {waiting : Bytes} (h : holds c.link waiting) :
    ∃ taken rest, waiting = taken.flatten ++ rest ∧
      Took bus holds expected (behavior.remaining due c.link) c taken rest
        (c.await behavior expected due) := by
  fun_induction Channel.await behavior expected due c generalizing waiting with
  | case1 c hpast =>
    exact ⟨[], waiting, rfl, rfl, h, rfl, rfl, fun _ => rfl, fun hne => absurd hpast hne⟩
  | case2 c hpos e link hreceive =>
    obtain ⟨s', hnothing, -⟩ | ⟨_, _, s', hpiece, -⟩ :=
      hlink.receive h (behavior.remaining due c.link)
    · cases hreceive.symm.trans hnothing
    · cases hreceive.symm.trans hpiece
  | case3 c hpos link hreceive =>
    obtain ⟨s', hnothing, hbus, hs, hall⟩ | ⟨_, _, s', hpiece, -⟩ :=
      hlink.receive h (behavior.remaining due c.link)
    · obtain ⟨-, rfl⟩ := Prod.mk.inj (hreceive.symm.trans hnothing)
      exact ⟨[], waiting, rfl, hbus, hs, rfl, rfl, fun _ => rfl, fun hne _ => hall hne⟩
    · cases hreceive.symm.trans hpiece
  | case4 c hpos arrival link hreceive frames framer hfeed e hfind =>
    obtain ⟨s', hnothing, -⟩ | ⟨piece, rest, s', hpiece, rfl, hbus, hs, -⟩ :=
      hlink.receive h (behavior.remaining due c.link)
    · cases hreceive.symm.trans hnothing
    · obtain ⟨harrival, rfl⟩ := Prod.mk.inj (hreceive.symm.trans hpiece)
      obtain rfl := Option.some.inj (Except.ok.inj harrival)
      refine ⟨[arrival], rest, by simp, hbus, hs, ?_, ?_, fun hzero => absurd hzero hpos,
        fun _ hnone => by cases hnone⟩
      · simp [Framer.runEach, hfeed]
      · simp [Framer.runEach, hfeed, hfind]
  | case5 c hpos arrival link hreceive frames framer hfeed hfind ih =>
    obtain ⟨s', hnothing, -⟩ | ⟨piece, rest, s', hpiece, rfl, hbus, hs, htime⟩ :=
      hlink.receive h (behavior.remaining due c.link)
    · cases hreceive.symm.trans hnothing
    · obtain ⟨harrival, rfl⟩ := Prod.mk.inj (hreceive.symm.trans hpiece)
      obtain rfl := Option.some.inj (Except.ok.inj harrival)
      -- The piece came in time, so the wait for the next one is not over.
      have hleft : behavior.remaining due link ≠ .zero := by
        have htime := htime hpos
        rwa [Link.remaining, Duration.add_sub hpos] at htime
      obtain ⟨taken, left, rfl, htook⟩ := ih hs
      refine ⟨arrival :: taken, left, by simp, htook.bus_eq.trans hbus, htook.left, ?_, ?_,
        fun hzero => absurd hzero hpos, fun _ => htook.all hleft⟩
      · rw [htook.framer_eq]
        simp [Framer.runEach, hfeed]
      · rw [htook.result_eq]
        simp [Framer.runEach, hfeed, hfind]

/-! ## Attempts -/

/-- Between commands: the framers have their usual settings, that of the bus is at rest, and if
the channel is `tidy`, what waits will be thrown away, unless replies are no longer waited
for. -/
structure Settled (tidy : Prop) (behavior : Link σ) (config : ChannelConfig) (bus : σ → SlaveBus)
    (holds : σ → Bytes → Prop) (ids : List DeviceId) (c : Channel σ) : Prop where
  usual : c.framer.config = {}
  framer : (bus c.link).framer = {}
  ids_eq : (bus c.link).ids = ids
  waiting : ∃ waiting, holds c.link waiting
  emptied : tidy → config.responseTimeout ≠ .zero → c.DropsAll behavior holds

/-- Before an attempt: a tidy channel has nothing that the attempt could take for its reply. -/
structure Clear (tidy : Prop) (config : ChannelConfig) (holds : σ → Bytes → Prop)
    (c : Channel σ) : Prop where
  usual : c.framer.config = {}
  waiting : ∃ waiting, holds c.link waiting ∧
    (tidy → c.framer = {} ∧ (config.responseTimeout ≠ .zero → waiting = []))

/-- After a command: `nodes` have heard its frame once, and a tidy channel has the answer to
this frame for the reply. It stays tidy unless the command was broken off. -/
structure HeardOnce (tidy : Prop) (behavior : Link σ) (config : ChannelConfig)
    (bus : σ → SlaveBus) (holds : σ → Bytes → Prop) (ids : List DeviceId)
    (nodes : List SlaveNode) (frame : Bytes)
    (run : Except NodeError (Option Envelope) × Channel σ) : Prop
    extends Settled (tidy ∧ NodeError.breaksOff run.1 = false) behavior config bus holds ids
      run.2 where
  nodes_eq : (bus run.2.link).nodes = nodes.map fun n => (n.respond frame).1
  reply : tidy → ∀ reply, run.1 = .ok (some reply) →
    ∃ answer, Answered nodes frame answer ∧ Envelope.parse? none answer = some reply

theorem HeardOnce.of_bus (hlink : behavior.Lossy bus holds) {nodes : List SlaveNode}
    (hnodes : nodes.map SlaveNode.id = ids)
    {f : Frame} {run : Except NodeError (Option Envelope) × Channel σ}
    (hbus : bus run.2.link = ⟨afterFrame nodes f, {}⟩) (husual : run.2.framer.config = {})
    {waiting : Bytes} (h : holds run.2.link waiting)
    (htidy : tidy → NodeError.breaksOff run.1 = false → config.responseTimeout ≠ .zero →
      waiting = [])
    (hreply : tidy → ∀ reply, run.1 = .ok (some reply) →
      ∃ answer, Answered nodes f.payload answer ∧ Envelope.parse? none answer = some reply) :
    HeardOnce tidy behavior config bus holds ids nodes f.payload run where
  usual := husual
  framer := by rw [hbus]
  ids_eq := by rw [hbus, SlaveBus.ids, ids_afterFrame, hnodes]
  waiting := ⟨waiting, h⟩
  emptied := by
    rintro ⟨hall, hreturns⟩ hpos
    rw [htidy hall hreturns hpos] at h
    exact dropsAll_of_nothing hlink h
  nodes_eq := by rw [hbus, afterFrame]
  reply := hreply

section Attempts

variable (hlink : behavior.Lossy bus holds)
include hlink

theorem Clear.enter {c : Channel σ} (h : c.Clear tidy config holds) (phase : Phase) :
    (c.enter behavior phase).Clear tidy config holds := by
  obtain ⟨waiting, hwaiting, hidle⟩ := h.waiting
  exact ⟨h.usual, waiting, (hlink.watch hwaiting phase).2, hidle⟩

/-- The slaves hear what is handed to the link, and some of their answers arrive. -/
theorem Clear.handedOver {c : Channel σ} (h : c.Clear tidy config holds) {bytes : Bytes}
    {answers : List Bytes} {after : SlaveBus}
    (hreceive : (bus c.link).receive bytes = (answers, after)) (phase : Phase) :
    ∃ (s : σ) (waiting : Bytes) (kept : List Bytes),
      behavior.transmit bytes (c.enter behavior .sending).link = (.ok (), s) ∧
      bus ((c.handedOver behavior s).enter behavior phase).link = after ∧
      holds ((c.handedOver behavior s).enter behavior phase).link (waiting ++ kept.flatten) ∧
      (tidy → c.framer = {} ∧ (config.responseTimeout ≠ .zero → waiting = [])) ∧
      kept.Sublist answers := by
  obtain ⟨waiting, hwaiting, hidle⟩ := h.waiting
  obtain ⟨hsame, hsending⟩ := hlink.watch hwaiting .sending
  obtain ⟨s, kept, htransmit, hbus, hkept, hs⟩ := hlink.transmit hsending bytes
  rw [hsame, hreceive] at hbus hkept
  obtain ⟨hsame', hphase⟩ := hlink.watch hs phase
  exact ⟨s, waiting, kept, htransmit, hsame'.trans hbus, hphase, hidle, hkept⟩

variable {nodes : List SlaveNode} {f : Frame} {bytes : Bytes}

/-- Waiting for a reply with what a transmission brought. -/
theorem await_answer_bytes (expected : Expectation) {c : Channel σ} {due : Duration}
    (hdue : behavior.remaining due c.link = config.responseTimeout)
    (husual : c.framer.config = {}) {waiting answer : Bytes}
    (h : holds c.link (waiting ++ answer))
    (hidle : tidy → c.framer = {} ∧ (config.responseTimeout ≠ .zero → waiting = []))
    (hanswer : AnswerBytes nodes f.payload answer) :
    ∃ (reply? : Option Envelope) (c' : Channel σ),
      c.await behavior expected due = (.ok reply?, c') ∧
        bus c'.link = bus c.link ∧ (reply? = none → c'.Clear tidy config holds) ∧
        c'.framer.config = {} ∧ ∀ reply, reply? = some reply →
          ∃ rest, holds c'.link rest ∧ (tidy → rest = [] ∧
            ∃ answer, Answered nodes f.payload answer ∧
              Envelope.parse? none answer = some reply) := by
  obtain ⟨taken, rest, hsplit, htook⟩ := await_lossy hlink expected due h
  rcases hrun : c.await behavior expected due with ⟨result, c'⟩
  rw [hrun, hdue] at htook
  obtain ⟨hbus, hrest, hframer, hresult, htimeless, hall⟩ := htook
  dsimp only at hbus hrest hframer hresult hall
  have husual' : c'.framer.config = {} := by rw [hframer, Framer.config_runEach_feed, husual]
  subst hresult
  refine ⟨_, c', rfl, hbus, ?_, husual', ?_⟩
  · intro hnone
    refine ⟨husual', rest, hrest, fun htidy => ⟨?_, fun hpos => hall hpos (congrArg _ hnone)⟩⟩
    obtain ⟨hfresh, hempty⟩ := hidle htidy
    rw [hframer, hfresh, Framer.runEach_fresh]
    by_cases hpos : config.responseTimeout = .zero
    · rw [htimeless hpos, List.flatten_nil, Framer.feed_fresh_nil]
    · rw [hempty hpos, hall hpos (congrArg _ hnone), List.nil_append, List.append_nil] at hsplit
      rw [← hsplit]
      exact hanswer.framer
  · intro reply hreply
    refine ⟨rest, hrest, fun htidy => ?_⟩
    obtain ⟨hfresh, hempty⟩ := hidle htidy
    rw [hfresh, Framer.runEach_fresh] at hreply
    have hpos : config.responseTimeout ≠ .zero := by
      intro hzero
      rw [htimeless hzero, List.flatten_nil, Framer.feed_fresh_nil] at hreply
      cases hreply
    rw [hempty hpos, List.nil_append] at hsplit
    rw [hsplit] at hanswer
    exact hanswer.reply hreply

variable (hnodes : nodes.map SlaveNode.id = ids)
include hnodes

/-- A command that is sent once. -/
theorem transmitOnce_lossy {c : Channel σ} (h : c.Clear tidy config holds)
    (hreceive : (bus c.link).receive bytes = (answers nodes f, ⟨afterFrame nodes f, {}⟩))
    (hquiet : tidy → Unanswered ids f.payload) :
    HeardOnce tidy behavior config bus holds ids nodes f.payload (c.transmitOnce behavior bytes) := by
  obtain ⟨s, waiting, kept, htransmit, hbus, hsent, hidle, hkept⟩ :=
    h.handedOver hlink hreceive .idle
  have hrun : c.transmitOnce behavior bytes =
      (.ok none, (c.handedOver behavior s).enter behavior .idle) := by
    simp only [transmitOnce, enter, Channel.handedOver] at htransmit ⊢
    rw [htransmit]
  rw [hrun]
  refine .of_bus hlink hnodes hbus h.usual hsent ?_ ?_
  · intro htidy _ hpos
    rw [← hnodes] at hquiet
    rw [answers_unanswered (hquiet htidy), List.sublist_nil] at hkept
    rw [(hidle htidy).2 hpos, hkept]
    rfl
  · intro _ reply hreply
    cases hreply

variable (hids : ids.Nodup)
include hids

/-- One attempt: it is the last, or the next one begins as it did. -/
theorem attempt_once (expected : Expectation) (left : Nat) {c : Channel σ}
    (h : c.Clear tidy config holds)
    (hreceive : (bus c.link).receive bytes = (answers nodes f, ⟨afterFrame nodes f, {}⟩)) :
    HeardOnce tidy behavior config bus holds ids nodes f.payload
        (c.attempt behavior config bytes expected (left + 1)) ∨
      ∃ c' : Channel σ, c'.Clear tidy config holds ∧ bus c'.link = ⟨afterFrame nodes f, {}⟩ ∧
        c.attempt behavior config bytes expected (left + 1) =
          c'.attempt behavior config bytes expected left := by
  obtain ⟨s, waiting, kept, htransmit, hbus, hawaiting, hidle, hkept⟩ :=
    h.handedOver hlink hreceive .awaiting
  have hanswer := answerBytes_of_sublist (by rwa [hnodes]) hkept
  cases hdue : behavior.deadline? config.responseTimeout (behavior.watch .awaiting s) with
  | none =>
    rw [attempt_endless htransmit hdue]
    refine Or.inl (.of_bus hlink hnodes hbus h.usual hawaiting ?_ ?_)
    · intro _ hreturns
      cases hreturns
    · intro _ reply hreply
      cases hreply
  | some due =>
    obtain ⟨reply?, c', hawait, hsame, hquiet, husual, hanswered⟩ := await_answer_bytes hlink
      expected (c := (c.handedOver behavior s).enter behavior .awaiting)
      (Link.remaining_of_deadline? hdue) h.usual hawaiting hidle hanswer
    have hbus' := hsame.trans hbus
    rw [attempt_awaiting htransmit hdue, hawait]
    cases reply? with
    | none =>
      have hclear := hquiet rfl
      obtain ⟨_, hheld, -⟩ := hclear.waiting
      refine Or.inr ⟨if left = 0 then c' else c'.enter behavior .retry, ?_, ?_, rfl⟩
      · split
        · exact hclear
        · exact hclear.enter hlink .retry
      · split
        · exact hbus'
        · exact (hlink.watch hheld .retry).1.trans hbus'
    | some reply =>
      obtain ⟨rest, hrest, hreply⟩ := hanswered reply rfl
      obtain ⟨hwatch, hsuccess⟩ := hlink.watch hrest .success
      refine Or.inl (.of_bus hlink hnodes (hwatch.trans hbus') husual hsuccess ?_ ?_)
      · exact fun htidy _ _ => (hreply htidy).1
      · rintro htidy _ ⟨⟩
        exact (hreply htidy).2

/-- Attempts on slaves that have heard the frame of the command already. -/
theorem attempt_again (hagain : SlaveBus.receive ⟨afterFrame nodes f, {}⟩ bytes =
      (answers nodes f, ⟨afterFrame nodes f, {}⟩)) (expected : Expectation) (left : Nat)
    {c : Channel σ} (h : c.Clear tidy config holds)
    (hbus : bus c.link = ⟨afterFrame nodes f, {}⟩) :
    HeardOnce tidy behavior config bus holds ids nodes f.payload
      (c.attempt behavior config bytes expected left) := by
  induction left generalizing c with
  | zero =>
    obtain ⟨waiting, hwaiting, hidle⟩ := h.waiting
    obtain ⟨hsame, hfailed⟩ := hlink.watch hwaiting .failed
    refine .of_bus hlink hnodes (hsame.trans hbus) h.usual hfailed ?_ ?_
    · exact fun htidy _ => (hidle htidy).2
    · intro _ reply hreply
      cases hreply
  | succ left ih =>
    have hreceive : (bus c.link).receive bytes =
        (answers nodes f, ⟨afterFrame nodes f, {}⟩) := by
      rw [hbus, hagain]
    obtain hlast | ⟨c', hc', hbus', hattempt⟩ :=
      attempt_once hlink hnodes hids expected left h hreceive
    · exact hlast
    · rw [hattempt]
      exact ih hc' hbus'

end Attempts

/-! ## Commands -/

/-- The link bytes of a command, by a framer of the usual configuration. -/
theorem encode_of_wire {c : Channel σ} (husual : c.framer.config = {}) {message : Message}
    {address : Address} {bytes : Bytes} (h : c.wire config message address = .ok bytes) :
    ∃ frame encoding, message.frame address = .ok frame ∧
      Framer.encode {} config.slot (frameKind message) frame = .ok encoding ∧
      bytes = encoding.wire := by
  cases hframe : message.frame address with
  | error e =>
    rw [wire, hframe] at h
    cases h
  | ok frame =>
    have hsame : c.framer.encode config.slot (frameKind message) frame =
        Framer.encode {} config.slot (frameKind message) frame := by
      unfold Framer.encode
      rw [husual]
    rw [wire, hframe] at h
    simp only [hsame] at h
    cases hencode : Framer.encode {} config.slot (frameKind message) frame with
    | error e =>
      rw [hencode] at h
      cases h
    | ok encoding =>
      rw [hencode] at h
      exact ⟨frame, encoding, rfl, hencode, (Except.ok.inj h).symm⟩

section Commands

variable (hlink : behavior.Lossy bus holds) (hids : ids.Nodup)
include hlink

/-- What was there before a command is thrown away. -/
theorem Settled.discardStale {c : Channel σ}
    (h : c.Settled tidy behavior config bus holds ids) :
    ∃ c', c.discardStale behavior = (.ok (), c') ∧ bus c'.link = bus c.link ∧
      c'.Clear tidy config holds := by
  obtain ⟨waiting, hwaiting⟩ := h.waiting
  obtain ⟨s, rest, hdrop, hbus, hs, -⟩ := dropPieces_lossy hlink maxStalePieces hwaiting
  have hreset : c.framer.reset = {} := by rw [Framer.reset, h.usual]
  refine ⟨{ c with link := s, framer := c.framer.reset }, ?_, hbus, h.usual, ?_⟩
  · rw [Channel.discardStale, hdrop]
  · by_cases hall : c.DropsAll behavior holds
    · obtain ⟨s', hdrop', hnothing⟩ := hall
      obtain ⟨-, rfl⟩ := Prod.mk.inj (hdrop.symm.trans hdrop')
      exact ⟨[], hnothing, fun _ => ⟨hreset, fun _ => rfl⟩⟩
    · exact ⟨rest, hs, fun htidy =>
        ⟨hreset, fun hpos => absurd (h.emptied htidy hpos) hall⟩⟩

include hids

/-- A command is withheld and nothing happened, or the slaves heard its frame as if it had
come once. -/
theorem Settled.send {c : Channel σ} (h : c.Settled tidy behavior config bus holds ids)
    (message : Message) (address : Address) (expected? : Option Expectation)
    (hquiet : tidy → expected? = none →
      ∀ frame, message.frame address = .ok frame → Unanswered ids frame) :
    (c.Withholds behavior config message address ∧
        ∃ e, c.send behavior config message address expected? = (.error e, c)) ∨
      ∃ frame, message.frame address = .ok frame ∧
        HeardOnce tidy behavior config bus holds ids (bus c.link).nodes frame
          (c.send behavior config message address expected?) := by
  cases hwire : c.wire config message address with
  | error e =>
    exact Or.inl ⟨Or.inl ⟨e, hwire⟩, e, by simp [Channel.send, hwire]⟩
  | ok bytes =>
    obtain ⟨c₁, hdiscard, hbus, hclear⟩ := h.discardStale hlink
    obtain ⟨frame, encoding, hframe, hencode, rfl⟩ := encode_of_wire h.usual hwire
    let f : Frame := ⟨config.slot, frameKind message, frame⟩
    refine Or.inr ⟨frame, hframe, ?_⟩
    have hreceive : (bus c₁.link).receive encoding.wire =
        (answers (bus c.link).nodes f, ⟨afterFrame (bus c.link).nodes f, {}⟩) := by
      rw [hbus]
      exact receive_encode h.framer hencode
    have hagain : SlaveBus.receive ⟨afterFrame (bus c.link).nodes f, {}⟩ encoding.wire =
        (answers (bus c.link).nodes f, ⟨afterFrame (bus c.link).nodes f, {}⟩) := by
      rw [receive_encode (f := f) rfl hencode, answers_again, afterFrame_again]
    rw [send_of_discardStale hwire hdiscard]
    cases expected? with
    | none =>
      exact transmitOnce_lossy hlink h.ids_eq hclear hreceive
        fun htidy => hquiet htidy rfl frame hframe
    | some expected =>
      obtain ⟨left, hleft⟩ := attempts_eq config
      rw [deliver, hleft]
      obtain hlast | ⟨c', hc', hbus', hattempt⟩ :=
        attempt_once hlink h.ids_eq hids expected left hclear hreceive
      · exact hlast
      · rw [hattempt]
        exact attempt_again hlink h.ids_eq hids hagain expected left hc' hbus'

end Commands

/-! ## Runs of commands -/

/-- A message to send, its address, and the reply to wait for, if any. -/
structure Sending where
  message : Message
  address : Address
  expected? : Option Expectation

/-- The channel after some commands, whatever came of each. -/
def afterSending (behavior : Link σ) (config : ChannelConfig) :
    List Sending → Channel σ → Channel σ
  | [], c => c
  | x :: rest, c =>
    afterSending behavior config rest (c.send behavior config x.message x.address x.expected?).2

/-- Every command comes to its end. -/
def endsAll (behavior : Link σ) (config : ChannelConfig) : List Sending → Channel σ → Bool
  | [], _ => true
  | x :: rest, c =>
    let (result, c) := c.send behavior config x.message x.address x.expected?
    !NodeError.breaksOff result && endsAll behavior config rest c

/-- Replies are waited for, unless nobody would reply. -/
def Sending.Tidy (ids : List DeviceId) (x : Sending) : Prop :=
  x.expected? = none → ∀ frame, x.message.frame x.address = .ok frame → Unanswered ids frame

theorem Settled.mono {tidy' : Prop} {c : Channel σ}
    (h : c.Settled tidy behavior config bus holds ids) (htidy : tidy' → tidy) :
    c.Settled tidy' behavior config bus holds ids :=
  { h with emptied := fun hall => h.emptied (htidy hall) }

theorem Settled.afterSending (hlink : behavior.Lossy bus holds) (hids : ids.Nodup)
    (commands : List Sending) {c : Channel σ} (htidy : tidy →
      (∀ x ∈ commands, Sending.Tidy ids x) ∧ endsAll behavior config commands c = true)
    (h : c.Settled tidy behavior config bus holds ids) :
    (c.afterSending behavior config commands).Settled tidy behavior config bus holds ids := by
  induction commands generalizing c with
  | nil => exact h
  | cons x rest ih =>
    have hends : tidy → NodeError.breaksOff (c.send behavior config x.message x.address
        x.expected?).1 = false ∧ endsAll behavior config rest (c.send behavior config x.message
          x.address x.expected?).2 = true := by
      intro hall
      simpa [endsAll] using (htidy hall).2
    refine ih (fun hall => ⟨fun y hy => (htidy hall).1 y (List.mem_cons_of_mem x hy),
      (hends hall).2⟩) ?_
    obtain ⟨-, e, hsame⟩ | ⟨frame, -, hheard⟩ := h.send hlink hids x.message x.address x.expected?
      fun hall => (htidy hall).1 x (List.mem_cons_self ..)
    · rw [hsame]
      exact h
    · exact hheard.toSettled.mono fun hall => ⟨hall, (hends hall).1⟩

/-- Sending again is safe. A slave that gets a frame again answers as it did, and nothing more
changes. So after a request over a link that loses any of the answers, and after any commands
before it, the slaves are as if the frame of the request had come once. A reply that is accepted
is the answer to this frame when it first came, if no earlier answer is left: all replies to
commands were waited for until the wait ended, or what still waits is thrown away. A request that
is withheld changes nothing. -/
theorem request_retransmitted (hlink : behavior.Lossy bus holds) (config : ChannelConfig)
    {s : σ} (hs : holds s []) (hframer : (bus s).framer = {}) (hids : (bus s).ids.Nodup)
    (commands : List Sending) (message : Message) (address : Address) (expected : Expectation) :
    let c := ({ link := s } : Channel σ).afterSending behavior config commands
    let run := c.request behavior config message address expected
    (∀ (n : SlaveNode) (frame : Bytes), (n.respond frame).1.respond frame = n.respond frame) ∧
      ((c.Withholds behavior config message address ∧ ∃ e, run = (.error e, c)) ∨
        ∃ frame, message.frame address = .ok frame ∧
          bus run.2.link =
            ⟨(bus c.link).nodes.map fun n => (n.respond frame).1, (bus c.link).framer⟩ ∧
          ((∀ x ∈ commands, Sending.Tidy (bus s).ids x) ∧
              endsAll behavior config commands { link := s } = true ∨ c.DropsAll behavior holds →
            ∀ reply, run.1 = .ok reply → ∃ answer, Answered (bus c.link).nodes frame answer ∧
              Envelope.parse? none answer = some reply)) := by
  intro c run
  refine ⟨SlaveNode.respond_again, ?_⟩
  have hstart : ({ link := s } : Channel σ).Settled ((∀ x ∈ commands, Sending.Tidy (bus s).ids x) ∧
      endsAll behavior config commands { link := s } = true) behavior config bus holds (bus s).ids :=
    ⟨rfl, hframer, rfl, ⟨[], hs⟩, fun _ _ => dropsAll_of_nothing hlink hs⟩
  have hafter : c.Settled _ behavior config bus holds (bus s).ids :=
    hstart.afterSending hlink hids commands id
  have hc : c.Settled ((∀ x ∈ commands, Sending.Tidy (bus s).ids x) ∧
      endsAll behavior config commands { link := s } = true ∨ c.DropsAll behavior holds)
      behavior config bus holds (bus s).ids := by
    refine { hafter with emptied := ?_ }
    rintro (htidy | hall) hpos
    · exact hafter.emptied htidy hpos
    · exact hall
  have hrun : run = c.request behavior config message address expected := rfl
  rw [request] at hrun
  obtain ⟨hwithheld, e, hsame⟩ | ⟨frame, hframe, hheard⟩ :=
    hc.send hlink hids message address (some expected) fun _ hnone => by cases hnone
  · rw [hsame] at hrun
    exact Or.inl ⟨hwithheld, e, hrun⟩
  · refine Or.inr ⟨frame, hframe, ?_⟩
    rcases hsend : c.send behavior config message address (some expected) with ⟨result, c'⟩
    rw [hsend] at hrun hheard
    have hlast : run.2 = c' := by
      rw [hrun]
      rcases result with e | _ | reply <;> rfl
    have hbus : bus c'.link =
        ⟨(bus c.link).nodes.map fun n => (n.respond frame).1, (bus c.link).framer⟩ := by
      rw [← hheard.nodes_eq, hc.framer, ← hheard.framer]
    refine ⟨by rw [hlast, hbus], fun htidy reply hreply => ?_⟩
    rw [hrun] at hreply
    rcases result with e | _ | found
    · cases hreply
    · cases hreply
    · obtain rfl := Except.ok.inj hreply
      exact hheard.reply htidy found rfl

/-- Devices 5 and 6, on a medium that loses their answers to the second and third transmission. -/
def losingTwo : Medium where
  bus := { nodes := [{ id := ⟨5⟩ }, { id := ⟨6⟩ }] }
  plan := [.delivered, .answersLost, .answersLost]

/-- Device 5 has been pinged. -/
def behindPing : Channel Medium :=
  afterSending Medium.link {}
    [⟨.masterToSlave (.ping ⟨1, 0⟩), .device ⟨5⟩, some ⟨⟨.slaveToMaster, 0x40⟩, some ⟨5⟩⟩⟩]
    { link := losingTwo }

def threePins : TestWindow := ⟨0, 10, 3, 0, 3⟩

/-- Device 6 is told which pins to test. -/
def configuring : Except NodeError Envelope × Channel Medium :=
  behindPing.request Medium.link {} (.masterToSlave (.configureConduction threePins))
    (.device ⟨6⟩) ⟨⟨.slaveToMaster, 0x10⟩, some ⟨6⟩⟩

/-- The third of its answers is the first that arrives. It is the answer to the first arrival of
the order, after which device 6 had its window, and device 5 was as before. -/
theorem request_retransmitted_twice :
    (configuring.2.link.sent.drop behindPing.link.sent.length).length = 3 ∧
      configuring.1 =
        .ok ⟨.device ⟨6⟩, .slaveToMaster (.conductionInfo SlaveToMaster.accepted threePins)⟩ ∧
      configuring.2.link.bus.nodes =
        [{ id := ⟨5⟩ }, { id := ⟨6⟩, conduction? := some threePins }] ∧
      ∃ frame answer,
        (Message.masterToSlave (.configureConduction threePins)).frame (.device ⟨6⟩) =
          .ok frame ∧
        Answered behindPing.link.bus.nodes frame answer ∧ Envelope.parse? none answer =
          some ⟨.device ⟨6⟩, .slaveToMaster (.conductionInfo SlaveToMaster.accepted threePins)⟩ := by
  have hdropping : losingTwo.Dropping [] := ⟨⟨[], rfl, rfl⟩, rfl, by decide, rfl, rfl, rfl⟩
  have hreply : configuring.1 =
      .ok ⟨.device ⟨6⟩, .slaveToMaster (.conductionInfo SlaveToMaster.accepted threePins)⟩ := by
    decide +kernel
  have hends : endsAll Medium.link {}
      [⟨.masterToSlave (.ping ⟨1, 0⟩), .device ⟨5⟩, some ⟨⟨.slaveToMaster, 0x40⟩, some ⟨5⟩⟩⟩]
      { link := losingTwo } = true := by
    decide +kernel
  refine ⟨by decide +kernel, hreply, by decide +kernel, ?_⟩
  obtain ⟨-, ⟨-, e, herror⟩ | ⟨frame, hframe, -, hanswer⟩⟩ :=
    request_retransmitted Medium.link_lossy {} hdropping rfl (by decide)
      [⟨.masterToSlave (.ping ⟨1, 0⟩), .device ⟨5⟩, some ⟨⟨.slaveToMaster, 0x40⟩, some ⟨5⟩⟩⟩]
      (.masterToSlave (.configureConduction threePins)) (.device ⟨6⟩)
      ⟨⟨.slaveToMaster, 0x10⟩, some ⟨6⟩⟩
  · have hfailed : configuring = (.error e, behindPing) := herror
    rw [hfailed] at hreply
    cases hreply
  · obtain ⟨answer, hanswered, hparse⟩ := hanswer (Or.inl ⟨by simp [Sending.Tidy], hends⟩) _ hreply
    exact ⟨frame, answer, hframe, hanswered, hparse⟩

/-! ## Answers that nobody waited for -/

/-- Device 6 with sixty channels to report, on a medium that brings answers byte by byte. -/
def crowded : Medium where
  bus := { nodes := [{ id := ⟨6⟩, resistance? := some ⟨0, 0, 60, 0, 60⟩ }] }
  pieceSize := 1

/-- Its report and its first pong came, and nobody waited for them. -/
def behindAnswers : Channel Medium :=
  afterSending Medium.link {}
    [⟨.masterToSlave (.readResistance 0), .device ⟨6⟩, none⟩,
      ⟨.masterToSlave (.ping ⟨1, 0⟩), .device ⟨6⟩, none⟩]
    { link := crowded }

/-- The first pong is still there behind the pieces that are thrown away, and is accepted for the
second, though the medium loses nothing. -/
theorem request_answered_earlier :
    Medium.link.Lossy Medium.bus Medium.Dropping ∧ crowded.Dropping [] ∧
      crowded.bus.framer = {} ∧ crowded.bus.ids.Nodup ∧
      (behindAnswers.request Medium.link {} (.masterToSlave (.ping ⟨2, 0⟩)) (.device ⟨6⟩)
        ⟨⟨.slaveToMaster, 0x40⟩, some ⟨6⟩⟩).1 =
          .ok ⟨.device ⟨6⟩, .slaveToMaster (.pong ⟨1, 0⟩)⟩ ∧
      (Message.masterToSlave (.ping ⟨2, 0⟩)).frame (.device ⟨6⟩) =
        .ok [0xAB, 0xCD, 0, 0, 0, 11, 0, 0x40, 6, 0, 0, 0, 2, 0, 0, 0, 0, 0] ∧
      (behindAnswers.link.bus.nodes.map fun n =>
        (n.respond [0xAB, 0xCD, 0, 0, 0, 11, 0, 0x40, 6, 0, 0, 0, 2, 0, 0, 0, 0, 0]).2) =
          [.ok (some [0xAB, 0xCD, 1, 0, 0, 11, 0, 0x40, 6, 0, 0, 0, 2, 0, 0, 0, 0, 0])] ∧
      Envelope.parse? none [0xAB, 0xCD, 1, 0, 0, 11, 0, 0x40, 6, 0, 0, 0, 2, 0, 0, 0, 0, 0] =
        some ⟨.device ⟨6⟩, .slaveToMaster (.pong ⟨2, 0⟩)⟩ := by
  have hdropping : crowded.Dropping [] :=
    ⟨⟨[], rfl, rfl⟩, rfl, fun _ h => absurd h List.not_mem_nil, rfl, rfl, rfl⟩
  refine ⟨Medium.link_lossy, hdropping, rfl, by decide, ?_, ?_, ?_, ?_⟩ <;> decide +kernel

end Channel

end HarnessLink
