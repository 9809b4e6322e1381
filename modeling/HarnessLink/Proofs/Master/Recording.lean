import HarnessLink.Proofs.Master.History
import HarnessLink.Proofs.Master.Invariant

/-!
# A master over a recorded link

The record changes nothing: a master whose link to the slaves is recorded does, call by call,
what it does over the link itself.
-/
namespace HarnessLink

namespace Channel

variable {σ : Type} {α : Type} (behavior : Link σ) (config : ChannelConfig)

/-- A result and the channel that is left, without the record. -/
def plainly (run : α × Channel (Recorded σ)) : α × Channel σ := (run.1, run.2.plain)

theorem send_plain (message : Message) (address : Address) (expected? : Option Expectation)
    (c : Channel (Recorded σ)) :
    plainly (c.send behavior.recorded config message address expected?) =
      c.plain.send behavior config message address expected? := by
  obtain ⟨events, hsend, -⟩ :=
    send_history behavior config message address expected? c.plain c.link.events
  rw [recorded_plain] at hsend
  rw [hsend]
  rfl

theorem request_plain (message : Message) (address : Address) (expected : Expectation)
    (c : Channel (Recorded σ)) :
    plainly (c.request behavior.recorded config message address expected) =
      c.plain.request behavior config message address expected := by
  rw [request, request, ← send_plain]
  rcases c.send behavior.recorded config message address (some expected) with
    ⟨e | _ | reply, c'⟩ <;> rfl

theorem broadcast_plain (message : Message) (address : Address) (c : Channel (Recorded σ)) :
    plainly (c.broadcast behavior.recorded config message address) =
      c.plain.broadcast behavior config message address := by
  rw [broadcast, broadcast, ← send_plain]
  rcases c.send behavior.recorded config message address none with ⟨e | reply?, c'⟩ <;> rfl

end Channel

/-- The same attachments, with a record of the link to the slaves. -/
def Wiring.recorded {σ τ : Type} (w : Wiring σ τ) : Wiring (Recorded σ) τ :=
  { slaves := w.slaves.recorded, uplink := w.uplink, channel := w.channel, config := w.config }

@[simp] theorem Wiring.recorded_slaves {σ τ : Type} (w : Wiring σ τ) :
    w.recorded.slaves = w.slaves.recorded := rfl

@[simp] theorem Wiring.recorded_uplink {σ τ : Type} (w : Wiring σ τ) :
    w.recorded.uplink = w.uplink := rfl

@[simp] theorem Wiring.recorded_channel {σ τ : Type} (w : Wiring σ τ) :
    w.recorded.channel = w.channel := rfl

@[simp] theorem Wiring.recorded_config {σ τ : Type} (w : Wiring σ τ) :
    w.recorded.config = w.config := rfl

namespace Master

open Channel (plainly)

variable {σ τ : Type}

/-- Everything that happened on the link to the slaves. -/
def history (m : Master (Recorded σ) τ) : List LinkEvent := m.channel.link.events

/-- The master without the record. -/
def plain (m : Master (Recorded σ) τ) : Master σ τ :=
  { m with channel := m.channel.plain }

variable (w : Wiring σ τ)

theorem acknowledged_plain (id : DeviceId) (order : Order) (c : Channel (Recorded σ)) :
    plainly (acknowledged w.recorded id order c) = acknowledged w id order c.plain := by
  rw [acknowledged, acknowledged, ← Channel.request_plain, Wiring.recorded_slaves,
    Wiring.recorded_channel]
  rcases c.request w.slaves.recorded w.channel (.masterToSlave order.message) (.device id)
    ⟨⟨.slaveToMaster, order.replyId⟩, some id⟩ with ⟨e | reply, c'⟩
  · rfl
  · simp only [plainly]
    split <;> rfl

theorem acknowledgedAll_plain (id : DeviceId) (orders : List Order) (c : Channel (Recorded σ)) :
    plainly (acknowledgedAll w.recorded id orders c) = acknowledgedAll w id orders c.plain := by
  induction orders generalizing c with
  | nil => rfl
  | cons order rest ih =>
    rw [acknowledgedAll, acknowledgedAll, ← acknowledged_plain]
    rcases acknowledged w.recorded id order c with ⟨e | ⟨⟩, c'⟩
    · rfl
    · exact ih c'

theorem configureEach_plain (batch : List PlannedDevice) (c : Channel (Recorded σ)) :
    plainly (configureEach w.recorded batch c) = configureEach w batch c.plain := by
  induction batch generalizing c with
  | nil => rfl
  | cons d rest ih =>
    rw [configureEach, configureEach, ← acknowledgedAll_plain, Wiring.recorded_config]
    rcases acknowledgedAll w.recorded d.setup.id (d.orders w.config) c with ⟨result, c'⟩
    cases hbroken : NodeError.breaksOff result <;> simp [plainly, hbroken, ← ih]

theorem resetEach_plain (devices : List DeviceReset) (c : Channel (Recorded σ)) :
    plainly (resetEach w.recorded devices c) = resetEach w devices c.plain := by
  induction devices generalizing c with
  | nil => rfl
  | cons d rest ih =>
    rw [resetEach, resetEach, ← acknowledged_plain]
    rcases acknowledged w.recorded d.id ⟨.reset ⟨d.lock, d.clipLed⟩, 0x30⟩ c with ⟨result, c'⟩
    cases hbroken : NodeError.breaksOff result <;> simp [plainly, hbroken, ← ih]

theorem pingEach_plain (epoch : Duration) (registry : List RegisteredDevice) (index : Nat)
    (ids : List DeviceId) (sequence : UInt16) (c : Channel (Recorded σ)) :
    ((pingEach w.recorded epoch registry index ids sequence c).1,
        plainly (pingEach w.recorded epoch registry index ids sequence c).2) =
      pingEach w epoch registry index ids sequence c.plain := by
  induction ids generalizing c index sequence with
  | nil => rfl
  | cons id rest ih =>
    have htime : timestamp w.recorded epoch c = timestamp w epoch c.plain := rfl
    rw [pingEach, pingEach, ← Channel.request_plain, Wiring.recorded_slaves,
      Wiring.recorded_channel, htime]
    rcases c.request w.slaves.recorded w.channel
      (.masterToSlave (.ping ⟨sequence + 1, timestamp w epoch c.plain⟩)) (.device id)
      ⟨⟨.slaveToMaster, 0x40⟩, some id⟩ with ⟨result, c'⟩
    cases hbroken : NodeError.breaksOff result <;> simp [plainly, hbroken, ← ih]
    rfl

theorem collectEach_plain (order : Order) (devices : List RegisteredDevice)
    (c : Channel (Recorded σ)) (uplink? : Option (Staged τ)) :
    ((collectEach w.recorded order devices c uplink?).1,
        (collectEach w.recorded order devices c uplink?).2.1.plain,
        (collectEach w.recorded order devices c uplink?).2.2) =
      collectEach w order devices c.plain uplink? := by
  induction devices generalizing c uplink? with
  | nil => rfl
  | cons d rest ih =>
    rw [collectEach, collectEach, ← Channel.request_plain, Wiring.recorded_slaves,
      Wiring.recorded_channel]
    rcases c.request w.slaves.recorded w.channel (.masterToSlave order.message) (.device d.id)
      ⟨⟨.slaveToBackend, order.replyId⟩, some d.id⟩ with ⟨result, c'⟩
    cases hbroken : NodeError.breaksOff result with
    | true => simp [plainly, hbroken]
    | false =>
      cases result with
      | error e => simpa [plainly, hbroken] using ih c' uplink?
      | ok report =>
        have hclock : w.slaves.recorded.clock c'.link = w.slaves.clock c'.plain.link := rfl
        have hupload : ∀ now, upload w.recorded now report uplink? = upload w now report uplink? :=
          fun _ => rfl
        rcases hrelayed : upload w (w.slaves.clock c'.plain.link) report uplink? with
          ⟨relayed, uplink'?⟩
        cases hbroken' : NodeError.breaksOff relayed <;>
          simp [plainly, hclock, hupload, hrelayed, hbroken', ← ih]

/-- A result and the master that is left, without the record. -/
def outcome {α : Type} (run : α × Master (Recorded σ) τ) : α × Master σ τ := (run.1, run.2.plain)

theorem fst_of_outcome {α : Type} {run : α × Master (Recorded σ) τ} {run' : α × Master σ τ}
    (h : outcome run = run') : run.1 = run'.1 := congrArg Prod.fst h

theorem broadcastSync_plain (m : Master (Recorded σ) τ) :
    outcome (m.broadcastSync w.recorded) = m.plain.broadcastSync w := by
  have hsync := Channel.broadcast_plain w.slaves w.channel
    (.masterToSlave (.sync ⟨m.mode.code, timestamp w m.epoch m.channel.plain⟩))
    (.device .broadcast) m.channel
  exact congrArg (fun run => (run.1, { m.plain with channel := run.2 })) hsync

theorem collect_plain (m : Master (Recorded σ) τ) :
    outcome (m.collect w.recorded) = m.plain.collect w := by
  have hcollect := collectEach_plain w (readOrder m.mode) m.registry m.channel m.uplink?
  cases houtstanding : m.syncOutstanding with
  | false => simp [collect, houtstanding, outcome, plain]
  | true =>
    simp only [collect, houtstanding, plain, if_true, ← hcollect]
    rfl

theorem configure_plain (devices : List DeviceSetup) (m : Master (Recorded σ) τ) :
    outcome (m.configure w.recorded devices) = m.plain.configure w devices := by
  cases hrunning : m.running with
  | true => simp [configure, hrunning, outcome, plain]
  | false =>
    cases hplan : planBatch? devices with
    | none => simp [configure, hrunning, hplan, outcome, plain]
    | some batch =>
      have hplain : m.plain.running = false := hrunning
      rw [configure_planned w.recorded hrunning hplan, configure_planned w hplain hplan]
      have heach : configureEach w batch m.plain.channel = _ :=
        (configureEach_plain w batch m.channel).symm
      rw [heach]
      rcases configureEach w.recorded batch m.channel with ⟨_ | ⟨failed, registry⟩, c'⟩ <;> rfl

theorem control_plain (state : RunState) (m : Master (Recorded σ) τ) :
    outcome (m.control w.recorded state) = m.plain.control w state := by
  cases state with
  | disabled =>
    exact congrArg (fun run => (some (CommandOutcome.controlled true .disabled), run.2))
      (broadcastSync_plain w
        { m with running := false, syncOutstanding := false, nextCycle? := none })
  | enabled =>
    have hregistry : m.plain.registry = m.registry := rfl
    rw [control, control, hregistry, ← broadcastSync_plain]
    cases m.registry with
    | nil => rfl
    | cons d rest =>
      rcases m.broadcastSync w.recorded with ⟨e | ⟨⟩, m'⟩
      · rfl
      · let started : Master (Recorded σ) τ := { m' with running := true, syncOutstanding := true }
        have hend : started.plain.cycleEnd? w.config (started.plain.clock w) =
            started.cycleEnd? w.recorded.config (started.clock w.recorded) := rfl
        simp only [started, plain, outcome, List.isEmpty_cons, Bool.false_eq_true, if_false] at hend ⊢
        rw [hend]
        split <;> rfl

theorem pollCycle_plain (now : Duration) (m : Master (Recorded σ) τ) :
    outcome (m.pollCycle w.recorded now) = m.plain.pollCycle w now := by
  have hdue : m.plain.isDue now = m.isDue now := rfl
  rw [pollCycle, pollCycle, hdue, ← collect_plain]
  split
  · rcases m.collect w.recorded with ⟨_ | count, m'⟩
    · rfl
    simp only [outcome, ← broadcastSync_plain]
    rcases m'.broadcastSync w.recorded with ⟨e | ⟨⟩, m''⟩
    · rfl
    · let announced : Master (Recorded σ) τ := { m'' with syncOutstanding := true }
      have hend : announced.plain.cycleEnd? w.config now =
          announced.cycleEnd? w.recorded.config now := rfl
      simp only [announced, plain] at hend ⊢
      rw [hend]
      split <;> rfl
  · rfl

/-- A command over the recorded link is the command over the link. -/
theorem handle_plain (command : DeviceCommand) (m : Master (Recorded σ) τ) :
    outcome (m.handle w.recorded command) = m.plain.handle w command := by
  cases command with
  | configure devices => exact configure_plain w devices m
  | selectMode mode =>
    cases hrunning : m.running <;> simp [handle, selectMode, hrunning, plain, outcome]
  | control state => exact control_plain w state m
  | reset devices =>
    exact congrArg (fun run => (run.1.map CommandOutcome.reset, { m.plain with channel := run.2 }))
      (resetEach_plain w devices m.channel)
  | query target =>
    exact congrArg (fun run => (run.1.map fun reports => CommandOutcome.queried reports.1 reports.2,
        { m.plain with pingSequence := run.2.1, channel := run.2.2 }))
      (pingEach_plain w m.epoch m.registry 0 (m.targets target) m.pingSequence m.channel)

/-- A call over the recorded link is the call over the link. -/
theorem call_plain (call : MasterCall) (m : Master (Recorded σ) τ) :
    (m.call w.recorded call).plain = m.plain.call w call := by
  cases call with
  | rest span => rfl
  | poll now => exact congrArg Prod.snd (pollCycle_plain w now m)
  | handle command => exact congrArg Prod.snd (handle_plain w command m)

/-- So a run over the recorded link is the run over the link. -/
theorem calls_plain (calls : List MasterCall) (m : Master (Recorded σ) τ) :
    (m.calls w.recorded calls).plain = m.plain.calls w calls := by
  induction calls generalizing m with
  | nil => rfl
  | cons first later ih => rw [calls_cons, calls_cons, ih, call_plain]

/-- A call comes to its end exactly if the call over the link does. -/
theorem returns_plain (call : MasterCall) (m : Master (Recorded σ) τ) :
    m.returns w.recorded call = m.plain.returns w call := by
  cases call with
  | rest span => rfl
  | poll now => rw [returns, returns, fst_of_outcome (pollCycle_plain w now m)]
  | handle command => rw [returns, returns, fst_of_outcome (handle_plain w command m)]

end Master

end HarnessLink
