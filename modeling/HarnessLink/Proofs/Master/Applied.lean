import HarnessLink.Proofs.Master.Configure
import HarnessLink.Proofs.Master.Invariant
import HarnessLink.Proofs.Slave.Coverage

/-!
# Batches that were applied

A batch is discarded while cycles run or when it is too large, and then the master stays as it
was. A batch that succeeds registered each of its devices, unless it was discarded: the only
batch that is discarded with a success is the empty one, which has no device that could be
reported.
-/
namespace HarnessLink

/-! ## Syncs over a lossless link -/

/-- A message that nobody answers goes out. -/
theorem Channel.broadcast_order {σ : Type} {behavior : Link σ}
    {holds : σ → SlaveBus → List Bytes → Prop} {config : ChannelConfig}
    (hlink : behavior.Lossless holds) {c : Channel σ} {b : SlaveBus} (h : c.AtRest holds b)
    (order : MasterToSlave) (id : DeviceId) :
    (c.broadcast behavior config (.masterToSlave order) (.device id)).1 = .ok () := by
  obtain ⟨frame, hpack, hframe⟩ := Message.order_frame order id
  obtain ⟨c₁, hdiscard, hc₁, -⟩ := discardStale_atRest hlink h
  have hwire : c.wire config (.masterToSlave order) (.device id) = _ :=
    wire_order h.config hpack hframe
  obtain ⟨s, htransmit, -⟩ := hlink.transmit (hc₁.enter hlink .sending).link
    (Frame.wire {} ⟨config.slot, frameKind (.masterToSlave order), frame⟩)
  have hsend : c.send behavior config (.masterToSlave order) (.device id) none =
      (.ok none, ({ c₁.enter behavior .sending with link := s } : Channel σ).enter behavior
        .idle) := by
    rw [send, hwire, hdiscard]
    simp only [transmitOnce, htransmit]
  rw [broadcast, hsend]

namespace Master

variable {σ τ : Type} (w : Wiring σ τ)

/-! ## Batches -/

/-- If nobody failed, everyone is registered. -/
theorem registered_of_failed_eq_nil {batch : List PlannedDevice} {c c' : Channel σ}
    {registry : List RegisteredDevice}
    (h : configureEach w batch c = (some ([], registry), c')) :
    registry = batch.map PlannedDevice.registered := by
  induction batch generalizing c registry with
  | nil =>
    cases h
    rfl
  | cons d rest ih =>
    rcases hfirst : acknowledgedAll w d.setup.id (d.orders w.config) c with ⟨result, c₁⟩
    simp only [configureEach, hfirst] at h
    split at h
    · cases h
    · rcases hrest : configureEach w rest c₁ with ⟨_ | ⟨failed, registered⟩, c₂⟩
      all_goals simp only [hrest] at h
      · cases h
      · cases result with
        | error e => cases h
        | ok =>
          cases h
          exact congrArg (d.registered :: ·) (ih hrest)

theorem configure_running (devices : List DeviceSetup) {m : Master σ τ} (h : m.running = true) :
    m.configure w devices = (some (.configured (devices.map DeviceSetup.id)), m) := by
  rw [configure, if_pos h]

theorem configure_large {devices : List DeviceSetup} (h : 256 < devices.length)
    (m : Master σ τ) :
    m.configure w devices = (some (.configured (devices.map DeviceSetup.id)), m) := by
  rw [configure, planBatch?_of_large h, ite_self]

/-- A batch that is discarded leaves the master and its links as they were, and succeeds
exactly if it is empty. -/
theorem configure_discarded {devices : List DeviceSetup} {m : Master σ τ}
    (h : m.running = true ∨ 256 < devices.length) :
    (m.configure w devices).2 = m ∧ ∃ outcome, (m.configure w devices).1 = some outcome ∧
      (outcome.isSuccess = true ↔ devices = []) := by
  have hdiscarded : m.configure w devices = (some (.configured (devices.map DeviceSetup.id)), m) :=
    h.elim (configure_running w devices) fun hlarge => configure_large w hlarge m
  rw [hdiscarded]
  exact ⟨rfl, _, rfl, by simp [CommandOutcome.isSuccess]⟩

/-- A success registers the whole batch. -/
theorem configure_successful {devices : List DeviceSetup} {m : Master σ τ}
    (hrunning : m.running = false) (hsize : devices.length ≤ 256) {outcome : CommandOutcome}
    (hrun : (m.configure w devices).1 = some outcome) (h : outcome.isSuccess = true) :
    (m.configure w devices).2.registry =
        (devices.zipIdx.map fun d =>
          ⟨d.1.id, UInt8.ofNat d.2, d.1.conduction, d.1.resistance⟩) ∧
      (m.configure w devices).2.totalHarness =
        SlotPlan.total (devices.map DeviceSetup.conduction) := by
  obtain ⟨_, _, batch, -, -, hplan, hsetups, hplaced⟩ := planBatch?_of_le hsize
  have hregistered := congrArg (List.map Prod.snd)
    (registered_eq hsetups fun i d hd => (hplaced i d hd).2.2)
  rw [List.map_map, List.map_map] at hregistered
  rw [configure_planned w hrunning hplan] at hrun ⊢
  rcases heach : configureEach w batch m.channel with ⟨_ | ⟨failed, registry⟩, c'⟩
  all_goals rw [heach] at hrun
  · cases hrun
  · obtain rfl := Option.some.inj hrun
    obtain rfl : failed = [] := List.isEmpty_iff.mp h
    exact ⟨(registered_of_failed_eq_nil w heach).trans hregistered, rfl⟩

/-- Whatever the links do, a batch that reports success is registered as a whole, in its
order, and the pins of its harness are counted as far as a word can tell, unless it is an empty
batch while cycles run. A batch that is discarded leaves everything as it was, without a word to
the slaves, and is reported as a failure unless it is empty. -/
theorem configure_applied (devices : List DeviceSetup) (m : Master σ τ) :
    let run := m.configure w devices
    (∀ outcome, run.1 = some outcome → outcome.isSuccess = true →
      (m.running = true → devices ≠ []) →
      run.2.registry = (devices.zipIdx.map fun d =>
        ⟨d.1.id, UInt8.ofNat d.2, d.1.conduction, d.1.resistance⟩) ∧
      run.2.totalHarness.toNat =
        min 65535 (SlotPlan.pinCount (devices.map DeviceSetup.conduction))) ∧
    (m.running = true ∨ 256 < devices.length →
      run.2 = m ∧ ∃ outcome, run.1 = some outcome ∧
        (outcome.isSuccess = true ↔ devices = [])) := by
  intro run
  refine ⟨fun outcome hrun hsuccess hnonempty => ?_, configure_discarded w⟩
  by_cases hdiscarded : m.running = true ∨ 256 < devices.length
  · obtain ⟨-, outcome', hrun', hempty⟩ := configure_discarded w hdiscarded
    obtain rfl := Option.some.inj (hrun.symm.trans hrun')
    obtain rfl := hempty.mp hsuccess
    obtain hrunning | hlarge := hdiscarded
    · exact absurd rfl (hnonempty hrunning)
    · exact absurd hlarge (Nat.not_lt_zero _)
  · rw [not_or, Bool.not_eq_true, Nat.not_lt] at hdiscarded
    obtain ⟨hregistry, htotal⟩ :=
      configure_successful w hdiscarded.1 hdiscarded.2 hrun hsuccess
    refine ⟨hregistry, ?_⟩
    rw [show run.2.totalHarness = _ from htotal, SlotPlan.toNat_total]

/-- While cycles run for a device, an empty batch is discarded and reported as a success. -/
theorem configure_nothing_while_running :
    let w : Wiring Medium Medium := { slaves := Medium.link, uplink := Medium.link }
    let start : Master Medium Medium := { channel := { link := mediumOver [⟨1⟩] } }
    let m := start.calls w
      [.handle (.configure [⟨⟨1⟩, 2, 0, none⟩]), .handle (.control .enabled)]
    m.running = true ∧ (m.configure w []).1 = some (.configured []) ∧
      (CommandOutcome.configured []).isSuccess = true ∧
      (m.configure w []).2.registry = [⟨⟨1⟩, 0, 2, 0⟩] := by
  intro w start m
  have hw : w.Prompt Medium.Plain := prompt_plain rfl (by decide) (by decide)
  have hsize : ([⟨⟨1⟩, 2, 0, none⟩] : List DeviceSetup).length ≤ 256 := by decide
  obtain ⟨c', b', hconfigure, hrest⟩ :=
    configure_all hw start rfl (atRest_mediumOver [⟨1⟩]) (by decide) hsize (by decide)
  let m₁ : Master Medium Medium :=
    { start with channel := c', registry := [⟨⟨1⟩, 0, 2, 0⟩], totalHarness := 2 }
  have hfirst : start.call w (.handle (.configure [⟨⟨1⟩, 2, 0, none⟩])) = m₁ :=
    congrArg Prod.snd hconfigure
  have hsync : (m₁.broadcastSync w).1 = .ok () :=
    Channel.broadcast_order Medium.link_lossless hrest _ _
  obtain ⟨hempty, -⟩ | ⟨⟨e, herror⟩, -⟩ | ⟨-, -, due?, -, hstarted⟩ := enable_cases w m₁
  · cases hempty
  · rw [hsync] at herror
    cases herror
  · have hm : m = (m₁.control w .enabled).2 :=
      congrArg (fun m => call w m (.handle (.control .enabled))) hfirst
    have hrunning : m.running = true := by rw [hm, hstarted]
    rw [configure_running w [] hrunning]
    refine ⟨hrunning, rfl, rfl, ?_⟩
    rw [hm, hstarted, broadcastSync_snd]

end Master

end HarnessLink
