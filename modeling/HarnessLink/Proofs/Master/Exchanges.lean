import HarnessLink.Proofs.Master.History

/-!
# Exchanges with a device

What one request does on the slaves' link, whatever the link does. It sends its order to its
device, and nothing else, or the link failed before that. Its result is the first reply that it
expects among what arrived since its first transmission.
-/
namespace HarnessLink

/-- The first reply that is expected among what arrived since the first transmission, as a
framer reads it that held nothing. -/
def Expectation.answer? (expected : Expectation) (events : List LinkEvent) : Option Envelope :=
  (Framer.runEach Framer.feed {} (LinkEvent.arrived (LinkEvent.sinceSending events))).1.findSome?
    expected.find?

theorem Expectation.answer?_of_sent_eq_nil (expected : Expectation) {events : List LinkEvent}
    (h : LinkEvent.sent events = []) : expected.answer? events = none := by
  have hsince := LinkEvent.sinceSending_append h []
  rw [List.append_nil] at hsince
  rw [answer?, hsince]
  rfl

/-- What happened on the link while an order was sent: whatever went out was this order to
this device. If nothing did, the link failed while old input was thrown away. -/
structure Exchange (id : DeviceId) (order : MasterToSlave) (events : List LinkEvent) : Prop where
  carries : ∀ event ∈ events, event.Carries id order
  attempted : LinkEvent.sent events = [] → ∃ fault, .received .zero (.error fault) ∈ events

namespace Channel

variable {σ : Type}

/-- The channel, whose framer is as usual, did this on its link. -/
structure Adds (c c' : Channel (Recorded σ)) (events : List LinkEvent) : Prop where
  config : c'.framer.config = {}
  history : c'.link.events = c.link.events ++ events

theorem Adds.refl {c : Channel (Recorded σ)} (hconfig : c.framer.config = {}) : c.Adds c [] :=
  ⟨hconfig, (List.append_nil _).symm⟩

theorem Adds.trans {c c' c'' : Channel (Recorded σ)} {events more : List LinkEvent}
    (h : c.Adds c' events) (h' : c'.Adds c'' more) : c.Adds c'' (events ++ more) :=
  ⟨h'.config, by rw [h'.history, h.history, List.append_assoc]⟩

/-- Old input that cannot be thrown away ends with the fault of the link. -/
theorem dropPieces_fault {behavior : Link σ} {limit : Nat} {s s' : Recorded σ} {e : LinkError}
    (h : dropPieces behavior.recorded limit s = (.error e, s')) :
    ∃ events, s'.events = s.events ++ events ∧ .received .zero (.error e) ∈ events := by
  induction limit generalizing s with
  | zero => cases h
  | succ limit ih =>
    obtain ⟨link, past⟩ := s
    rcases hreceive : behavior.receive .zero link with ⟨result, link'⟩
    rw [dropPieces, Link.recorded_receive hreceive] at h
    rcases result with fault | _ | arrival
    · obtain ⟨hfault, rfl⟩ := Prod.mk.inj h
      exact ⟨_, rfl, by rw [Except.error.inj hfault]; exact List.mem_singleton_self _⟩
    · cases h
    · obtain ⟨events, hevents, hfault⟩ := ih h
      refine ⟨.received .zero (.ok (some arrival)) :: events, ?_, List.mem_cons_of_mem _ hfault⟩
      rw [hevents, List.append_assoc]
      rfl

/-- An order that has link bytes is withheld only because the link failed. -/
theorem withheld_fault {behavior : Link σ} {config : ChannelConfig} {c : Channel (Recorded σ)}
    {message : Message} {address : Address} {bytes : Bytes}
    (hwire : c.wire config message address = .ok bytes)
    (h : c.plain.Withholds behavior config message address) (expected? : Option Expectation) :
    ∃ events fault, (c.send behavior.recorded config message address expected?).2.link.events =
      c.link.events ++ events ∧ .received .zero (.error fault) ∈ events := by
  have hplain : c.plain.wire config message address = .ok bytes := hwire
  obtain ⟨e, he⟩ : ∃ e, (c.plain.discardStale behavior).1 = .error e := by
    simpa [Withholds, hplain] using h
  obtain ⟨received, hdiscard, -⟩ := discardStale_recorded behavior c.plain c.link.events
  rw [recorded_plain, he] at hdiscard
  rcases hdrop : dropPieces behavior.recorded maxStalePieces c.link with ⟨fault | ⟨⟩, link⟩
  · obtain ⟨events, hevents, hfault⟩ := dropPieces_fault hdrop
    have hfailed : c.discardStale behavior.recorded = (.error (.link fault), { c with link }) := by
      rw [discardStale, hdrop]
    refine ⟨events, fault, ?_, hfault⟩
    rw [send_of_discardStale_error hwire hfailed]
    exact hevents
  · rw [discardStale, hdrop] at hdiscard
    cases congrArg Prod.fst hdiscard

/-- Sending with an expectation brings the first reply that is expected among what arrived since
the first transmission. Without a transmission the link failed. -/
theorem send_history_answer (behavior : Link σ) (config : ChannelConfig) {c : Channel (Recorded σ)}
    (hconfig : c.framer.config = {}) (order : MasterToSlave) (id : DeviceId)
    (expected : Expectation) :
    ∃ events,
      (c.send behavior.recorded config (.masterToSlave order) (.device id)
        (some expected)).2.link.events = c.link.events ++ events ∧
      replyOf (c.send behavior.recorded config (.masterToSlave order) (.device id)
        (some expected)).1 = expected.answer? events ∧
      (LinkEvent.sent events = [] → ∃ fault, .received .zero (.error fault) ∈ events) := by
  by_cases h : c.plain.Withholds behavior config (.masterToSlave order) (.device id)
  · obtain ⟨e, c', events, -, hsend, -, hsent, -⟩ := send_withheld h (some expected) c.link.events
    rw [recorded_plain] at hsend
    refine ⟨events, congrArg (fun run => run.2.link.events) hsend, ?_, fun _ => ?_⟩
    · rw [hsend, expected.answer?_of_sent_eq_nil hsent]
      rfl
    · obtain ⟨bytes, hwire, -⟩ := wire_reads config (c := c) hconfig order id
      obtain ⟨events', fault, hevents', hfault⟩ := withheld_fault hwire h (some expected)
      rw [hsend] at hevents'
      rw [List.append_cancel_left hevents']
      exact ⟨fault, hfault⟩
  · obtain ⟨bytes, stale, later, -, hsend, hstale, -, heffort⟩ :=
      send_expecting h expected c.link.events
    rw [recorded_plain] at hsend
    obtain ⟨left, hleft⟩ := attempts_eq config
    obtain ⟨result, rest, hlater⟩ := heffort.begins (by omega)
    have hreset : c.plain.framer.reset = {} := by
      show c.framer.reset = {}
      rw [Framer.reset, hconfig]
    have hsince : LinkEvent.sinceSending (stale ++ later) = later := by
      rw [LinkEvent.sinceSending_append hstale, hlater]
      rfl
    refine ⟨stale ++ later, congrArg (fun run => run.2.link.events) hsend, ?_, ?_⟩
    · rw [hsend, Expectation.answer?, hsince, ← hreset]
      exact heffort.heard.reply_eq.symm
    · intro hsent
      rw [LinkEvent.sent_append, hlater] at hsent
      exact absurd (List.append_eq_nil_iff.mp hsent).2 (List.cons_ne_nil _ _)

/-- What a request does on the link, whatever the link does: its result is the first reply
that it expects among what arrived since its first transmission. -/
theorem request_history (behavior : Link σ) (config : ChannelConfig) {c : Channel (Recorded σ)}
    (hconfig : c.framer.config = {}) (order : MasterToSlave) (id : DeviceId)
    (expected : Expectation) :
    ∃ result c' events,
      c.request behavior.recorded config (.masterToSlave order) (.device id) expected =
        (result, c') ∧
      c.Adds c' events ∧ Exchange id order events ∧
      result.toOption = expected.answer? events := by
  obtain ⟨events, hevents, hreply, hattempted⟩ :=
    send_history_answer behavior config hconfig order id expected
  have hdoes := does_send behavior config hconfig order id (some expected)
  rcases hsend : c.send behavior.recorded config (.masterToSlave order) (.device id)
    (some expected) with ⟨result, c'⟩
  rw [hsend] at hevents hreply hdoes
  have hadds : c.Adds c' events := ⟨hdoes.config.trans hconfig, hevents⟩
  have hexchange : Exchange id order events := ⟨hdoes.forall hevents, hattempted⟩
  rcases result with e | _ | reply
  · exact ⟨.error e, c', events, by rw [request, hsend], hadds, hexchange, hreply⟩
  · exact ⟨.error (exhausted config expected), c', events, by rw [request, hsend], hadds,
      hexchange, hreply⟩
  · exact ⟨.ok reply, c', events, by rw [request, hsend], hadds, hexchange, hreply⟩

end Channel

end HarnessLink
