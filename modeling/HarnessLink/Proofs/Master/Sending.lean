import HarnessLink.Proofs.Master.Invariant
import HarnessLink.Proofs.Master.Request

/-!
# What sending keeps

A master reaches its slaves only by sending over its channel. What every send keeps of a channel,
whatever is sent, is kept by whole exchanges with devices. That the clock of the link can tell the
end of every wait is kept, and then no exchange with the slaves is broken off.
-/
namespace HarnessLink

/-- Every send keeps `p`. -/
def Channel.KeptBySending {σ : Type} (behavior : Link σ) (config : ChannelConfig)
    (p : Channel σ → Prop) : Prop :=
  ∀ c : Channel σ, p c → ∀ message address expected?,
    p (c.send behavior config message address expected?).2

namespace Channel.KeptBySending

variable {σ : Type} {behavior : Link σ} {config : ChannelConfig} {p : Channel σ → Prop}

theorem link {p : σ → Prop} (hlink : behavior.Keeps p) :
    KeptBySending behavior config fun c => p c.link :=
  fun _ h message address expected? => keeps_send hlink message address expected? h

/-- The clock goes on telling the end of a wait. -/
theorem measures (behavior : Link σ) (config : ChannelConfig) (span : Duration) :
    KeptBySending behavior config fun c => behavior.Measures span c.link :=
  .link (behavior.keeps_always _)

theorem request (hp : KeptBySending behavior config p) {c : Channel σ} (h : p c)
    (message : Message) (address : Address) (expected : Expectation) :
    p (c.request behavior config message address expected).2 := by
  have hsend := hp c h message address (some expected)
  rw [Channel.request]
  split <;> next heq => rwa [heq] at hsend

theorem broadcast (hp : KeptBySending behavior config p) {c : Channel σ} (h : p c)
    (message : Message) (address : Address) :
    p (c.broadcast behavior config message address).2 := by
  have hsend := hp c h message address none
  rw [Channel.broadcast]
  split <;> next heq => rwa [heq] at hsend

end Channel.KeptBySending

namespace Master

variable {σ τ : Type} {w : Wiring σ τ}

section Kept

variable {p : Channel σ → Prop} (hp : Channel.KeptBySending w.slaves w.channel p)

include hp

theorem kept_acknowledged (id : DeviceId) (order : Order) {c : Channel σ} (h : p c) :
    p (acknowledged w id order c).2 := by
  have hrequest := hp.request h (.masterToSlave order.message) (.device id)
    ⟨⟨.slaveToMaster, order.replyId⟩, some id⟩
  rw [acknowledged]
  split
  · next heq => rwa [heq] at hrequest
  · next heq =>
    rw [heq] at hrequest
    split <;> exact hrequest

theorem kept_acknowledgedAll (id : DeviceId) (orders : List Order) {c : Channel σ} (h : p c) :
    p (acknowledgedAll w id orders c).2 := by
  induction orders generalizing c with
  | nil => exact h
  | cons order rest ih =>
    have hfirst := kept_acknowledged hp id order h
    rw [acknowledgedAll]
    split
    · next heq => rwa [heq] at hfirst
    · next heq =>
      rw [heq] at hfirst
      exact ih hfirst

theorem kept_configureEach (batch : List PlannedDevice) {c : Channel σ} (h : p c) :
    p (configureEach w batch c).2 := by
  induction batch generalizing c with
  | nil => exact h
  | cons d rest ih =>
    have hfirst := kept_acknowledgedAll hp d.setup.id (d.orders w.config) h
    rw [configureEach]
    dsimp only
    split
    · exact hfirst
    · exact ih hfirst

theorem kept_broadcastSync {m : Master σ τ} (h : p m.channel) :
    p (m.broadcastSync w).2.channel := hp.broadcast h _ _

end Kept

/-! ## Exchanges that are not broken off -/

section Measured

variable {c : Channel σ} (h : w.slaves.Measures w.channel.responseTimeout c.link)

include h

theorem acknowledged_measured (id : DeviceId) (order : Order) :
    NodeError.breaksOff (acknowledged w id order c).1 = false := by
  have hrequest := Channel.request_measured h (.masterToSlave order.message) (.device id)
    ⟨⟨.slaveToMaster, order.replyId⟩, some id⟩
  rw [acknowledged]
  split
  · next heq =>
    rw [heq] at hrequest
    simpa using hrequest
  · split <;> rfl

theorem acknowledgedAll_measured (id : DeviceId) (orders : List Order) :
    NodeError.breaksOff (acknowledgedAll w id orders c).1 = false := by
  induction orders generalizing c with
  | nil => rfl
  | cons order rest ih =>
    have hfirst := acknowledged_measured h id order
    have hkept := kept_acknowledged (.measures _ _ _) id order h
    rw [acknowledgedAll]
    split
    · next heq => rwa [heq] at hfirst
    · next heq =>
      rw [heq] at hkept
      exact ih hkept

/-- A batch is not broken off while the clock can tell the end of every wait. -/
theorem configureEach_measured (batch : List PlannedDevice) :
    (configureEach w batch c).1.isSome = true := by
  induction batch generalizing c with
  | nil => rfl
  | cons d rest ih =>
    have hkept := kept_acknowledgedAll (.measures _ _ _) d.setup.id
      (d.orders w.config) h
    rw [configureEach]
    dsimp only
    rw [acknowledgedAll_measured h, if_neg Bool.false_ne_true]
    exact (Option.isSome_map ..).trans (ih hkept)

theorem resetEach_measured (devices : List DeviceReset) :
    (resetEach w devices c).1.isSome = true := by
  induction devices generalizing c with
  | nil => rfl
  | cons d rest ih =>
    have hkept := kept_acknowledged (.measures _ _ _) d.id
      ⟨.reset ⟨d.lock, d.clipLed⟩, 0x30⟩ h
    rw [resetEach]
    dsimp only
    rw [acknowledged_measured h, if_neg Bool.false_ne_true]
    exact (Option.isSome_map ..).trans (ih hkept)

theorem pingEach_measured (epoch : Duration) (registry : List RegisteredDevice) (index : Nat)
    (ids : List DeviceId) (sequence : UInt16) :
    (pingEach w epoch registry index ids sequence c).1.isSome = true := by
  induction ids generalizing index sequence c with
  | nil => rfl
  | cons id rest ih =>
    have hkept := (Channel.KeptBySending.measures w.slaves w.channel _).request h
      (.masterToSlave (.ping ⟨sequence + 1, timestamp w epoch c⟩)) (.device id)
      ⟨⟨.slaveToMaster, 0x40⟩, some id⟩
    rw [pingEach]
    dsimp only
    rw [Channel.request_measured h, if_neg Bool.false_ne_true]
    exact (Option.isSome_map ..).trans (ih hkept (index + 1) (sequence + 1))

end Measured

theorem configure_measured {m : Master σ τ}
    (hm : w.slaves.Measures w.channel.responseTimeout m.channel.link) (devices : List DeviceSetup) :
    (m.configure w devices).1.isSome = true := by
  obtain hsame | ⟨-, batch, result, c', -, heach, hconfigured⟩ := configure_cases w devices m
  · rw [hsame]
    rfl
  · have hreturns := configureEach_measured hm batch
    rw [heach] at hreturns
    obtain ⟨rfl, -⟩ | ⟨failed, registry, -, hconfigured⟩ := hconfigured
    · cases hreturns
    · rw [hconfigured]
      rfl

theorem reset_measured {m : Master σ τ}
    (hm : w.slaves.Measures w.channel.responseTimeout m.channel.link) (devices : List DeviceReset) :
    (m.reset w devices).1.isSome = true :=
  (Option.isSome_map ..).trans (resetEach_measured hm devices)

theorem query_measured {m : Master σ τ}
    (hm : w.slaves.Measures w.channel.responseTimeout m.channel.link) (target : QueryTarget) :
    (m.query w target).1.isSome = true :=
  (Option.isSome_map ..).trans (pingEach_measured hm m.epoch m.registry 0 _ _)

/-! ## Calls that come to their ends -/

theorem broadcastSync_returns (w : Wiring σ τ) (m : Master σ τ) :
    NodeError.breaksOff (m.broadcastSync w).1 = false :=
  Channel.broadcast_returns w.slaves w.channel _ _ m.channel

/-- The clock counts up to the end of every wait and of every cycle that starts now. -/
structure Tells (w : Wiring σ τ) (now : Duration) : Prop where
  reply : (now.deadline? w.channel.responseTimeout).isSome = true
  upload : (now.deadline? w.config.uploadTimeout).isSome = true
  cycle : ∀ m : Master σ τ, (m.cycleEnd? w.config now).isSome = true

/-- If the clock counts up to the end of the longest cycle, it does so for every cycle: the longest
tests as many pins as a word can count. -/
theorem cycleEnd?_isSome {config : MasterConfig} {now : Duration}
    (htests : (now.nanos + (config.conductionInterval.nanos * 65535 +
      config.syncRedundancy.nanos)) / 1000000000 ≤ Duration.lastSecond)
    (hidle : (now.deadline? config.idlePeriod).isSome = true) (m : Master σ τ) :
    (m.cycleEnd? config now).isSome = true := by
  have hpins : config.conductionInterval.nanos * m.totalHarness.toNat ≤
      config.conductionInterval.nanos * 65535 :=
    Nat.mul_le_mul_left _ (Nat.le_of_lt_succ m.totalHarness.toNat_lt)
  rw [cycleEnd?, period?]
  cases m.mode with
  | conduction =>
    have hscale : (config.conductionInterval.scale m.totalHarness.toNat).nanos ≤
        Duration.longest.nanos := by
      simp only [Duration.scale, Duration.longest, Duration.lastSecond] at htests ⊢
      omega
    have hperiod : ((config.conductionInterval.scale m.totalHarness.toNat).add
        config.syncRedundancy).nanos ≤ Duration.longest.nanos := by
      simp only [Duration.scale, Duration.add, Duration.longest, Duration.lastSecond] at htests ⊢
      omega
    have hend : (now.add ((config.conductionInterval.scale m.totalHarness.toNat).add
        config.syncRedundancy)).nanos / 1000000000 ≤ Duration.lastSecond := by
      refine Nat.le_trans (Nat.div_le_div_right ?_) htests
      simp only [Duration.scale, Duration.add]
      omega
    simp [Duration.scale?, Duration.add?, Duration.checked?, Duration.deadline?, hscale, hperiod,
      hend]
  | _ => exact hidle

/-- Whatever the slaves' link is used for, its clock counts so far. -/
def Timely (w : Wiring σ τ) (c : Channel σ) : Prop :=
  ∀ s, w.slaves.Leads c.link s → Tells w (w.slaves.clock s)

section Timely

theorem kept_timely (w : Wiring σ τ) : Channel.KeptBySending w.slaves w.channel (Timely w) :=
  .link (w.slaves.keeps_always _)

theorem Timely.measures {c : Channel σ} (h : Timely w c) :
    w.slaves.Measures w.channel.responseTimeout c.link :=
  fun s hs => (h s hs).reply

theorem Timely.now {c : Channel σ} (h : Timely w c) : Tells w (w.slaves.clock c.link) :=
  h c.link .refl

/-- A fault of a link breaks nothing off. -/
theorem breaksOff_link {α : Type} (result : Except LinkError α) :
    NodeError.breaksOff (result.mapError .link) = false := by
  cases result <;> rfl

/-- The clock of a medium stands still while it is used. -/
theorem timely_medium {w : Wiring Medium τ} (hslaves : w.slaves = Medium.link) {c : Channel Medium}
    (h : Tells w c.link.time) : Timely w c := by
  intro s hs
  rw [hslaves] at hs ⊢
  have hsame : s.time = c.link.time := hs.keeps (Medium.keeps_time c.link.time) rfl
  show Tells w s.time
  rwa [hsame]

theorem upload_returns {now : Duration} (h : Tells w now) (report : Envelope)
    (uplink? : Option (Staged τ)) :
    NodeError.breaksOff (upload w now report uplink?).1 = false := by
  cases uplink? with
  | none => rfl
  | some uplink =>
    obtain ⟨due, hdue⟩ := Option.isSome_iff_exists.mp h.upload
    rw [upload]
    split
    · rfl
    · simp only [Staged.send?, Staged.sendWith?, Staged.acquire?, hdue, Option.map_some]
      exact breaksOff_link _

theorem collectEach_timely (order : Order) (devices : List RegisteredDevice) {c : Channel σ}
    (h : Timely w c) (uplink? : Option (Staged τ)) :
    (collectEach w order devices c uplink?).1.isSome = true := by
  induction devices generalizing c uplink? with
  | nil => rfl
  | cons d rest ih =>
    have hreturns := Channel.request_measured h.measures (.masterToSlave order.message)
      (.device d.id) ⟨⟨.slaveToBackend, order.replyId⟩, some d.id⟩
    have hkept := (kept_timely w).request h (.masterToSlave order.message) (.device d.id)
      ⟨⟨.slaveToBackend, order.replyId⟩, some d.id⟩
    rcases hresult : c.request w.slaves w.channel (.masterToSlave order.message) (.device d.id)
      ⟨⟨.slaveToBackend, order.replyId⟩, some d.id⟩ with ⟨result, c'⟩
    rw [hresult] at hreturns hkept
    simp only [collectEach, hresult, hreturns, Bool.false_eq_true, if_false]
    cases result with
    | error e => exact ih hkept uplink?
    | ok report =>
      have hrelays := upload_returns (hkept.now) report uplink?
      dsimp only
      rw [hrelays, if_neg Bool.false_ne_true]
      exact (Option.isSome_map ..).trans (ih hkept _)

variable {m : Master σ τ} (h : Timely w m.channel)

include h

/-- A command is carried out to its end while the clock counts far enough. -/
theorem handle_timely (command : DeviceCommand) : (m.handle w command).1.isSome = true := by
  cases command with
  | configure devices => exact configure_measured h.measures devices
  | selectMode mode => rfl
  | control state =>
    cases state with
    | enabled =>
      obtain ⟨-, hsame⟩ | ⟨-, hsame⟩ | ⟨-, -, due?, hdue, hstarted⟩ := enable_cases w m
      · rw [handle, hsame]
        rfl
      · rw [handle, hsame]
        rfl
      · have hnow := (kept_broadcastSync (kept_timely w) h).now.cycle m
        rw [handle, hstarted, Option.isSome_map, hdue]
        exact hnow
    | disabled => rfl
  | reset devices => exact reset_measured h.measures devices
  | query target => exact query_measured h.measures target

/-- A collection reaches every device while the clock counts far enough. -/
theorem collect_timely : (m.collect w).1.isSome = true := by
  rw [collect]
  split
  · exact collectEach_timely (readOrder m.mode) m.registry h m.uplink?
  · rfl

/-- So does the step of a cycle, which ends only with the faults of links. -/
theorem pollCycle_timely {now : Duration} (hnow : Tells w now) :
    NodeError.breaksOff (m.pollCycle w now).1 = false := by
  cases hdue : m.isDue now with
  | false =>
    rw [pollCycle_early w hdue]
    rfl
  | true =>
    have hcollect := collect_timely h
    obtain ⟨hnone, -⟩ | ⟨count, -, ⟨e, he, hfailed⟩ | ⟨-, due?, hend, hnext⟩⟩ := pollCycle_due w hdue
    · rw [hnone] at hcollect
      cases hcollect
    · have hreturns := broadcastSync_returns w (m.collect w).2
      rw [he] at hreturns
      rw [hfailed]
      simpa using hreturns
    · obtain ⟨due, hdue⟩ := Option.isSome_iff_exists.mp (hnow.cycle m)
      rw [hnext, hend, hdue]
      rfl

end Timely

end Master

end HarnessLink
