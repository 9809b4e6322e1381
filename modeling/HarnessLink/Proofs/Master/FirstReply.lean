import HarnessLink.Proofs.Frame.Runs
import HarnessLink.Proofs.Master.Attempts

/-!
# The first reply

A command hears its link piece by piece, over all its attempts, with one framer that is emptied
only before the first. So what it is answered with is read off the concatenation of the pieces:
the first reply among the frames in it. How the pieces were cut, what stood between the replies
and in which attempt they came makes no difference, and the command ends with the piece that
completes the reply.
-/
namespace HarnessLink

/-- The messages in the frames that a framer finds in bytes, where it finds one. -/
def Framer.envelopes (framer : Framer) (bytes : Bytes) : List Envelope :=
  (framer.feed bytes).1.filterMap fun f => Envelope.parse? none f.payload

/-- The first reply in the frames is the first message in them that is one. -/
theorem Expectation.find?_envelopes (expected : Expectation) (framer : Framer) (bytes : Bytes) :
    (framer.envelopes bytes).find? expected.admits =
      (framer.feed bytes).1.findSome? expected.find? := by
  unfold Framer.envelopes
  rw [← List.head?_filter, List.filter_filterMap, List.head?_filterMap]
  rfl

namespace Channel

variable {σ : Type}

/-- A command hears what arrives from its first transmission on with an empty framer. -/
theorem send_hears (behavior : Link σ) (config : ChannelConfig) (message : Message)
    (address : Address) (expected : Expectation) (c : Channel σ) :
    ∃ framer, expected.Hears { config := c.framer.config }
      (LinkEvent.sinceSending (c.events behavior config message address (some expected)))
      (c.send behavior config message address (some expected)).1 framer := by
  by_cases h : c.Withholds behavior config message address
  · obtain ⟨e, c', events, hsend, hrecorded, -, hsent, -⟩ := send_withheld h (some expected) []
    have hsince : LinkEvent.sinceSending events = [] := by
      simpa [LinkEvent.sinceSending] using LinkEvent.sinceSending_append hsent []
    rw [events_eq hrecorded, List.nil_append, hsince, hsend]
    exact ⟨_, expected.hears_nothing _ rfl rfl⟩
  · obtain ⟨bytes, stale, events, -, hrecorded, hsent, -, heffort⟩ := send_expecting h expected []
    obtain ⟨left, hleft⟩ := attempts_eq config
    obtain ⟨result, later, hevents⟩ := heffort.begins (by omega)
    have hsince : LinkEvent.sinceSending events = events := by
      simp [hevents, LinkEvent.sinceSending, LinkEvent.sent?]
    rw [events_eq hrecorded, List.nil_append, LinkEvent.sinceSending_append hsent, hsince]
    exact ⟨_, heffort.heard⟩

/-- Over every link, a command is answered with the first reply in what arrived since its first
transmission, read as if it had arrived at once, and only the last piece of it brought that reply.
If nobody answered, no reply is in it. -/
theorem send_first_reply (behavior : Link σ) (config : ChannelConfig) (message : Message)
    (address : Address) (expected : Expectation) (c : Channel σ) :
    let run := c.send behavior config message address (some expected)
    let pieces := LinkEvent.arrived
      (LinkEvent.sinceSending (c.events behavior config message address (some expected)))
    let fresh : Framer := { config := c.framer.config }
    (∀ reply, run.1 = .ok (some reply) ↔
      (fresh.envelopes pieces.flatten).find? expected.admits = some reply) ∧
    (fresh.envelopes pieces.dropLast.flatten).find? expected.admits = none ∧
    ∀ kind count, run.1 = .error (.retriesExhausted kind count) →
      (fresh.envelopes pieces.flatten).find? expected.admits = none := by
  intro run pieces fresh
  obtain ⟨framer, hheard⟩ := send_hears behavior config message address expected c
  have hreply : (fresh.envelopes pieces.flatten).find? expected.admits = replyOf run.1 := by
    rw [expected.find?_envelopes, ← Framer.runEach_fresh]
    exact hheard.reply_eq
  refine ⟨fun reply => ?_, ?_, ?_⟩
  · rw [hreply]
    rcases run.1 with e | reply? <;> simp [replyOf]
  · rw [expected.find?_envelopes, ← Framer.runEach_fresh]
    exact hheard.prompt
  · intro kind count hresult
    rw [hreply, hresult]
    rfl

end Channel
end HarnessLink
