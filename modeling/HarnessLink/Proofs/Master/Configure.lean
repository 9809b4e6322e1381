import HarnessLink.Proofs.Master.Devices
import HarnessLink.Proofs.Master.Plan

/-!
# Configuring a batch over a lossless link

A device of a batch is registered exactly if it is on the bus and the reports
that its setup asks for fit the link. It then has the slot of its index and holds
the windows that the slot plans give it. All others fail, in the order of the
batch, and slaves outside the batch stay as they were.
-/
namespace HarnessLink

/-- The device is on the bus, and the reports that its setup asks for fit the link
when the whole batch has `total` pins. -/
def DeviceSetup.Configurable (b : SlaveBus) (total : UInt16) (d : DeviceSetup) : Prop :=
  d.id ∈ b.ids ∧ d.conduction.toNat * ((total.toNat + 7) / 8) ≤ maxReportLength ∧
    d.resistance.toNat * 2 ≤ maxReportLength

instance (b : SlaveBus) (total : UInt16) : DecidablePred (DeviceSetup.Configurable b total) :=
  fun _ => inferInstanceAs (Decidable (_ ∧ _))

/-- A slave with the windows and the clip test of a setup. What the setup does not
ask for stays as it was. -/
def SlaveNode.configured (config : MasterConfig) (d : DeviceSetup)
    (conduction resistance : SlotAssignment) (n : SlaveNode) : SlaveNode :=
  let interval := Master.intervalByte config.conductionInterval
  { n with
    conduction? := some (Master.windowOf interval conduction)
    resistance? :=
      if 0 < d.resistance then some (Master.windowOf interval resistance) else n.resistance?
    clip? :=
      match d.clip? with
      | some c => some ⟨config.clipInterval, c.mode, c.pins⟩
      | none => n.clip? }

namespace Master

variable {σ τ : Type} {w : Wiring σ τ} {holds : σ → SlaveBus → List Bytes → Prop}

namespace PlannedDevice

/-- The length of the conduction report, in numbers. -/
theorem PlacedAt.conductionLength {total : UInt16} {i : Nat} {d : PlannedDevice}
    (h : d.PlacedAt total i) (interval : UInt8) :
    (windowOf interval d.conduction).conductionLength =
      d.setup.conduction.toNat * ((total.toNat + 7) / 8) := by
  rw [← h.conduction, ← h.total]
  rfl

/-- The reports that the orders of a device set up, in numbers. -/
theorem reportable_iff {total : UInt16} {i : Nat} {d : PlannedDevice} (h : d.PlacedAt total i)
    (config : MasterConfig) :
    (∀ order ∈ d.orders config, order.message.Reportable) ↔
      d.setup.conduction.toNat * ((total.toNat + 7) / 8) ≤ maxReportLength ∧
        d.setup.resistance.toNat * 2 ≤ maxReportLength := by
  have hconduction := h.conductionLength (intervalByte config.conductionInterval)
  have hresistance : (windowOf (intervalByte config.conductionInterval)
      d.resistance).resistanceLength = d.setup.resistance.toNat * 2 := by
    rw [← h.resistance, Nat.mul_comm]
    rfl
  have hclip : ∀ order ∈ (d.setup.clip?.map fun c =>
      (⟨.configureClip ⟨config.clipInterval, c.mode, c.pins⟩, 0x12⟩ : Order)).toList,
      order.message.Reportable := by
    intro order horder
    rw [Option.mem_toList, Option.map_eq_some_iff] at horder
    obtain ⟨c, -, rfl⟩ := horder
    trivial
  rw [orders, List.forall_mem_cons, List.forall_mem_append, ← hconduction, ← hresistance]
  apply and_congr Iff.rfl
  rw [and_iff_left hclip]
  by_cases hr : 0 < d.setup.resistance
  · rw [if_pos hr, List.forall_mem_singleton]
    rfl
  · have hzero : d.setup.resistance.toNat = 0 := by
      have hle := UInt16.not_lt.mp hr
      exact Nat.le_zero.mp (UInt16.le_iff_toNat_le.mp hle)
    rw [if_neg hr, hresistance, hzero]
    exact iff_of_true (fun order horder => by cases horder) (Nat.zero_le _)

theorem succeeds_iff {total : UInt16} {i : Nat} {d : PlannedDevice} (h : d.PlacedAt total i)
    (config : MasterConfig) (b : SlaveBus) :
    d.Succeeds config b ↔ d.setup.Configurable b total := by
  rw [Succeeds, reportable_iff h]
  rfl

/-- All orders of a device together. -/
theorem carriedOut_orders {config : MasterConfig} {d : PlannedDevice}
    (h : ∀ order ∈ d.orders config, order.message.Reportable) (n : SlaveNode) :
    carriedOut (d.orders config) n = n.configured config d.setup d.conduction d.resistance := by
  have hconduction : (windowOf (intervalByte config.conductionInterval)
      d.conduction).conductionLength ≤ maxReportLength := h _ (List.mem_cons_self ..)
  rw [carriedOut, orders, List.foldl_cons, List.foldl_append, SlaveNode.obey_conduction hconduction,
    SlaveNode.configured]
  by_cases hr : 0 < d.setup.resistance
  · have hresistance : (windowOf (intervalByte config.conductionInterval)
        d.resistance).resistanceLength ≤ maxReportLength := by
      apply h ⟨.configureResistance _, 0x11⟩
      rw [orders, if_pos hr]
      exact List.mem_cons_of_mem _ (List.mem_cons_self ..)
    rw [if_pos hr, if_pos hr, List.foldl_cons, List.foldl_nil,
      SlaveNode.obey_resistance hresistance]
    cases d.setup.clip? <;> rfl
  · rw [if_neg hr, if_neg hr, List.foldl_nil]
    cases d.setup.clip? <;> rfl

end PlannedDevice

/-- Selecting by one reading of the items and reporting another. -/
theorem map_filter_of_pairs {α β γ δ : Type} {l : List α} {l' : List β} {f : α → γ} {g : α → δ}
    {f' : β → γ} {g' : β → δ}
    (h : l.map (fun a => (f a, g a)) = l'.map fun a => (f' a, g' a)) (p : γ → Bool) :
    (l.filter fun a => p (f a)).map g = (l'.filter fun a => p (f' a)).map g' := by
  have hpairs : ∀ {ε : Type} (k : List ε) (u : ε → γ) (v : ε → δ),
      (k.filter fun a => p (u a)).map v =
        ((k.map fun a => (u a, v a)).filter fun x => p x.1).map Prod.snd := by
    intro ε k u v
    rw [List.filter_map, List.map_map]
    rfl
  rw [hpairs l f g, hpairs l' f' g', h]

/-- The devices of a planned batch with what they are registered as. -/
theorem registered_eq {total : UInt16} {devices : List DeviceSetup} {batch : List PlannedDevice}
    (hsetups : batch.map PlannedDevice.setup = devices)
    (hplaced : ∀ (i : Nat) (d : PlannedDevice), batch[i]? = some d → d.PlacedAt total i) :
    batch.map (fun d => (d.setup, d.registered)) =
      devices.zipIdx.map fun d =>
        (d.1, ⟨d.1.id, UInt8.ofNat d.2, d.1.conduction, d.1.resistance⟩) := by
  apply List.ext_getElem?
  intro i
  rw [List.getElem?_map, List.getElem?_map, List.getElem?_zipIdx, ← hsetups, List.getElem?_map]
  cases hd : batch[i]? with
  | none => rfl
  | some d =>
    have hslot := (hplaced i d hd).slot
    simp only [Option.map_some, PlannedDevice.registered, hslot, Nat.zero_add]

/-- The devices that fail and those that are registered, told by the batch as it was given. -/
theorem succeeding_eq {total : UInt16} {devices : List DeviceSetup} {batch : List PlannedDevice}
    (hsetups : batch.map PlannedDevice.setup = devices)
    (hplaced : ∀ (i : Nat) (d : PlannedDevice), batch[i]? = some d → d.PlacedAt total i)
    (config : MasterConfig) (b : SlaveBus) :
    (batch.filter fun d => ¬ d.Succeeds config b).map (fun d => d.setup.id) =
        (devices.filter fun d => ¬ d.Configurable b total).map DeviceSetup.id ∧
      (batch.filter fun d => d.Succeeds config b).map PlannedDevice.registered =
        (devices.zipIdx.filter fun d => d.1.Configurable b total).map fun d =>
          ⟨d.1.id, UInt8.ofNat d.2, d.1.conduction, d.1.resistance⟩ := by
  have hsucceeds : ∀ d ∈ batch, (d.Succeeds config b ↔ d.setup.Configurable b total) := by
    intro d hd
    obtain ⟨i, hi⟩ := List.getElem?_of_mem hd
    exact PlannedDevice.succeeds_iff (hplaced i d hi) config b
  have hfails : (batch.filter fun d => ¬ d.Succeeds config b) =
      batch.filter fun d => ¬ d.setup.Configurable b total := by
    apply List.filter_congr
    intro d hd
    simp only [hsucceeds d hd]
  have hsucceed : (batch.filter fun d => d.Succeeds config b) =
      batch.filter fun d => d.setup.Configurable b total := by
    apply List.filter_congr
    intro d hd
    simp only [hsucceeds d hd]
  have hpairs : batch.map (fun d => (d.setup, d.setup.id)) = devices.map fun d => (d, d.id) := by
    rw [← hsetups, List.map_map]
    rfl
  rw [hfails, hsucceed]
  exact ⟨map_filter_of_pairs hpairs fun d => ¬ d.Configurable b total,
    map_filter_of_pairs (registered_eq hsetups hplaced) fun d => d.Configurable b total⟩

/-- A batch over a lossless link. The devices that fail are, in the order of the
batch, those that are not on the bus or whose reports do not fit the link. The
others are registered under their indices, and each of them holds what the slot
plans and its setup say. Slaves outside the batch stay as they were. -/
theorem configure_lossless (hw : w.Prompt holds) (m : Master σ τ) (hrunning : m.running = false)
    {b : SlaveBus} (hrest : m.channel.AtRest holds b) (hids : b.ids.Nodup)
    {devices : List DeviceSetup} (hsize : devices.length ≤ 256)
    (hdistinct : (devices.map DeviceSetup.id).Nodup)
    (hdevices : ∀ d ∈ devices, d.id.isBroadcast = false) :
    ∃ (total : UInt16) (conduction resistance : List SlotAssignment) (c' : Channel σ)
      (b' : SlaveBus), total = SlotPlan.total (devices.map DeviceSetup.conduction) ∧
      SlotPlan.plan? (devices.map DeviceSetup.conduction) = some conduction ∧
      SlotPlan.plan? (devices.map DeviceSetup.resistance) = some resistance ∧
      m.configure w devices =
        (some (.configured ((devices.filter fun d => ¬ d.Configurable b total).map DeviceSetup.id)),
          { m with
            channel := c'
            registry := (devices.zipIdx.filter fun d => d.1.Configurable b total).map fun d =>
              ⟨d.1.id, UInt8.ofNat d.2, d.1.conduction, d.1.resistance⟩
            totalHarness := total }) ∧
      c'.AtRest holds b' ∧ b'.ids = b.ids ∧
      (∀ (i : Nat) (d : DeviceSetup), devices[i]? = some d → d.Configurable b total →
        ∃ n place place', b.node? d.id = some n ∧ conduction[i]? = some place ∧
          resistance[i]? = some place' ∧
          b'.node? d.id = some (n.configured w.config d place place')) ∧
      ∀ id, id ∉ devices.map DeviceSetup.id → b'.node? id = b.node? id := by
  obtain ⟨conduction, resistance, batch, hconduction, hresistance, hplan, hsetups, hplaces⟩ :=
    planBatch?_of_le hsize
  generalize htotal : SlotPlan.total (devices.map DeviceSetup.conduction) = total at hplaces
  have hplaced := fun i d hd => (hplaces i d hd).2.2
  have hbatchIds : batch.map (fun d => d.setup.id) = devices.map DeviceSetup.id := by
    rw [← hsetups, List.map_map]
    rfl
  have hbatch : ∀ d ∈ batch, d.setup.id.isBroadcast = false := by
    intro d hd
    apply hdevices
    rw [← hsetups]
    exact List.mem_map_of_mem hd
  obtain ⟨c', b', heach, hc', hsame, hnodes⟩ :=
    configureEach_spec hw hrest hids (by rw [hbatchIds]; exact hdistinct) hbatch
  obtain ⟨hfailed, hregistry⟩ := succeeding_eq hsetups hplaced w.config b
  refine ⟨total, conduction, resistance, c', b', rfl, hconduction, hresistance, ?_, hc',
    hsame.ids, ?_, ?_⟩
  · rw [configure_planned w hrunning hplan, heach, hfailed, hregistry, htotal]
  · intro i d hd hconfigurable
    rw [← hsetups, List.getElem?_map, Option.map_eq_some_iff] at hd
    obtain ⟨planned, hplanned, rfl⟩ := hd
    obtain ⟨hplace, hplace', -⟩ := hplaces i planned hplanned
    have hmem := List.mem_of_getElem? hplanned
    have hs := (PlannedDevice.succeeds_iff (hplaced i planned hplanned) w.config b).mpr
      hconfigurable
    obtain ⟨n, hn, hn'⟩ := hnodes planned hmem hs
    refine ⟨n, planned.conduction, planned.resistance, hn, hplace, hplace', ?_⟩
    rw [hn', PlannedDevice.carriedOut_orders hs.2]
  · intro id hid
    apply hsame.others
    rw [hbatchIds]
    exact hid

/-- What becomes of a batch over a lossless link, whatever ids stand in it. -/
theorem configure_deliveries (hw : w.Prompt holds) (m : Master σ τ) (hrunning : m.running = false)
    {b : SlaveBus} (hrest : m.channel.AtRest holds b) (hids : b.ids.Nodup)
    {devices : List DeviceSetup} {batch : List PlannedDevice}
    (hplan : planBatch? devices = some batch) :
    ∃ c' b', m.configure w devices =
        (some (.configured
            ((batch.filter fun d => ¬ d.Succeeds w.config b).map fun d => d.setup.id)),
          { m with
            channel := c'
            registry := (batch.filter fun d => d.Succeeds w.config b).map PlannedDevice.registered
            totalHarness := SlotPlan.total (devices.map DeviceSetup.conduction) }) ∧
      c'.AtRest holds b' ∧ Deliveries w.config batch b b' := by
  obtain ⟨c', b', heach, hc', hdeliveries⟩ := configureEach_prompt hw hrest hids batch
  refine ⟨c', b', ?_, hc', hdeliveries⟩
  rw [configure_planned w hrunning hplan, heach]

/-- A batch whose devices can all be configured is registered as a whole. -/
theorem configure_all (hw : w.Prompt holds) (m : Master σ τ) (hrunning : m.running = false)
    {b : SlaveBus} (hrest : m.channel.AtRest holds b) (hids : b.ids.Nodup)
    {devices : List DeviceSetup} (hsize : devices.length ≤ 256)
    (hall : ∀ d ∈ devices, d.Configurable b (SlotPlan.total (devices.map DeviceSetup.conduction))) :
    ∃ c' b', m.configure w devices =
        (some (.configured []),
          { m with
            channel := c'
            registry := devices.zipIdx.map fun d =>
              ⟨d.1.id, UInt8.ofNat d.2, d.1.conduction, d.1.resistance⟩
            totalHarness := SlotPlan.total (devices.map DeviceSetup.conduction) }) ∧
      c'.AtRest holds b' := by
  obtain ⟨_, _, batch, -, -, hplan, hsetups, hplaces⟩ := planBatch?_of_le hsize
  obtain ⟨c', b', hconfigure, hc', -⟩ := configure_deliveries hw m hrunning hrest hids hplan
  have hsucceeds : ∀ d ∈ batch, d.Succeeds w.config b := by
    intro d hd
    obtain ⟨i, hi⟩ := List.getElem?_of_mem hd
    rw [PlannedDevice.succeeds_iff (hplaces i d hi).2.2]
    exact hall d.setup (hsetups ▸ List.mem_map_of_mem hd)
  have hregistered := congrArg (List.map Prod.snd)
    (registered_eq hsetups fun i d hd => (hplaces i d hd).2.2)
  rw [List.map_map, List.map_map] at hregistered
  have hfailed : (batch.filter fun d => ¬ d.Succeeds w.config b) = [] := by
    simpa using hsucceeds
  have hkept : (batch.filter fun d => d.Succeeds w.config b) = batch := by
    simpa using hsucceeds
  rw [hfailed, hkept] at hconfigure
  refine ⟨c', b', hconfigure.trans ?_, hc'⟩
  rw [show batch.map PlannedDevice.registered = _ from hregistered]
  rfl

/-- A medium over a bus of slaves with these ids. -/
def mediumOver (ids : List DeviceId) : Medium :=
  { bus := { nodes := ids.map fun id => { id } } }

/-- A channel over a medium is at rest before anything was sent. -/
theorem atRest_mediumOver (ids : List DeviceId) :
    ({ link := mediumOver ids } : Channel Medium).AtRest Medium.Plain (mediumOver ids).bus :=
  ⟨rfl, ⟨rfl, rfl, rfl, rfl, rfl, rfl, rfl, rfl, rfl⟩, rfl⟩

/-- Over a plain medium, waits of this length for replies come to their ends. -/
theorem prompt_plain {w : Wiring Medium τ} (hslaves : w.slaves = Medium.link)
    (hpos : w.channel.responseTimeout ≠ .zero)
    (hdue : (Duration.zero.deadline? w.channel.responseTimeout).isSome = true) :
    w.Prompt Medium.Plain := by
  refine ⟨hslaves ▸ Medium.link_lossless, hpos, fun h => ?_⟩
  rw [hslaves, Medium.deadline?_plain h]
  exact hdue

/-- Of three devices one is registered, one is not on the bus and one asks for a
report that is too long. -/
theorem configure_lossless_mixed :
    let w : Wiring Medium Medium := { slaves := Medium.link, uplink := Medium.link }
    let m : Master Medium Medium := { channel := { link := mediumOver [⟨1⟩, ⟨2⟩, ⟨3⟩] } }
    let devices : List DeviceSetup :=
      [⟨⟨2⟩, 4000, 0, none⟩, ⟨⟨9⟩, 1, 0, none⟩, ⟨⟨1⟩, 2, 3, some ⟨1, 5⟩⟩]
    ∃ m' b', m.configure w devices = (some (.configured [⟨2⟩, ⟨9⟩]), m') ∧
      m'.registry = [⟨⟨1⟩, 2, 2, 3⟩] ∧ m'.channel.AtRest Medium.Plain b' ∧
      b'.node? ⟨1⟩ = some { id := ⟨1⟩, conduction? := some ⟨2, 10, 4003, 4001, 2⟩,
                            resistance? := some ⟨2, 10, 3, 0, 3⟩, clip? := some ⟨10, 1, 5⟩ } ∧
      b'.node? ⟨3⟩ = some { id := ⟨3⟩ } := by
  intro w m devices
  have hw : w.Prompt Medium.Plain := prompt_plain rfl (by decide) (by decide)
  have hsize : devices.length ≤ 256 := by decide
  obtain ⟨total, conduction, resistance, c', b', htotal, hconduction, hresistance, hconfigure,
    hrest, -, hstored, hothers⟩ := configure_lossless hw m rfl (atRest_mediumOver _) (by decide)
      hsize (by decide) (by decide)
  obtain rfl : total = 4003 := htotal.trans (by decide)
  have hplan : SlotPlan.plan? (devices.map DeviceSetup.conduction) = some
      [⟨0, 4003, 0, 4000, false⟩, ⟨1, 4003, 4000, 1, false⟩, ⟨2, 4003, 4001, 2, true⟩] := by decide
  have hplan' : SlotPlan.plan? (devices.map DeviceSetup.resistance) = some
      [⟨0, 3, 0, 0, false⟩, ⟨1, 3, 0, 0, false⟩, ⟨2, 3, 0, 3, true⟩] := by decide
  obtain rfl := Option.some.inj (hplan.symm.trans hconduction)
  obtain rfl := Option.some.inj (hplan'.symm.trans hresistance)
  obtain ⟨n, place, place', hn, hplace, hplace', hnode⟩ :=
    hstored 2 ⟨⟨1⟩, 2, 3, some ⟨1, 5⟩⟩ rfl (by decide)
  obtain rfl := Option.some.inj hn
  obtain rfl := Option.some.inj hplace
  obtain rfl := Option.some.inj hplace'
  have hfailed : (devices.filter fun d => ¬ d.Configurable (mediumOver [⟨1⟩, ⟨2⟩, ⟨3⟩]).bus 4003).map
      DeviceSetup.id = [⟨2⟩, ⟨9⟩] := by decide
  have hregistry : ((devices.zipIdx.filter fun d =>
      d.1.Configurable (mediumOver [⟨1⟩, ⟨2⟩, ⟨3⟩]).bus 4003).map fun d =>
        (⟨d.1.id, UInt8.ofNat d.2, d.1.conduction, d.1.resistance⟩ : RegisteredDevice)) =
          [⟨⟨1⟩, 2, 2, 3⟩] := by decide
  rw [hfailed, hregistry] at hconfigure
  refine ⟨_, b', hconfigure, rfl, hrest, hnode.trans ?_, hothers ⟨3⟩ (by decide)⟩
  decide

/-! ## Waits without an end -/

/-- Where the clock cannot tell the end of a wait for a reply, a batch is broken off at its first
device, and nothing is registered anew. -/
theorem configure_endless (hlink : w.slaves.Lossless holds)
    (hclock : ∀ {s b waiting}, holds s b waiting →
      w.slaves.deadline? w.channel.responseTimeout s = none)
    (m : Master σ τ) (hrunning : m.running = false) {b : SlaveBus}
    (hrest : m.channel.AtRest holds b) {devices : List DeviceSetup} (hsize : devices.length ≤ 256)
    (hdevices : devices ≠ []) :
    ∃ c', m.configure w devices = (none, { m with channel := c' }) := by
  obtain ⟨_, _, batch, -, -, hplan, hsetups, -⟩ := planBatch?_of_le hsize
  rw [configure_planned w hrunning hplan]
  cases batch with
  | nil => exact absurd hsetups.symm hdevices
  | cons d rest =>
    obtain ⟨c', hrequest⟩ := Channel.request_endless hlink hrest hclock
      (.configureConduction (windowOf (intervalByte w.config.conductionInterval) d.conduction))
      d.setup.id ⟨⟨.slaveToMaster, 0x10⟩, some d.setup.id⟩
    refine ⟨c', ?_⟩
    simp only [configureEach, acknowledgedAll_orders_error hrequest]
    rfl

/-- So is a reset at its first device. -/
theorem reset_endless (hlink : w.slaves.Lossless holds)
    (hclock : ∀ {s b waiting}, holds s b waiting →
      w.slaves.deadline? w.channel.responseTimeout s = none)
    {m : Master σ τ} {b : SlaveBus} (hrest : m.channel.AtRest holds b) (first : DeviceReset)
    (rest : List DeviceReset) :
    ∃ c', acknowledged w first.id ⟨.reset ⟨first.lock, first.clipLed⟩, 0x30⟩ m.channel =
        (.error .unmeasurable, c') ∧
      m.reset w (first :: rest) = (none, { m with channel := c' }) := by
  obtain ⟨c', hrequest⟩ := Channel.request_endless hlink hrest hclock
    (.reset ⟨first.lock, first.clipLed⟩) first.id ⟨⟨.slaveToMaster, 0x30⟩, some first.id⟩
  have hacknowledged : acknowledged w first.id ⟨.reset ⟨first.lock, first.clipLed⟩, 0x30⟩
      m.channel = (.error .unmeasurable, c') := by
    rw [acknowledged, hrequest]
  refine ⟨c', hacknowledged, ?_⟩
  simp only [reset, resetEach, hacknowledged]
  rfl

/-- A device on the bus that asks for little is not configured either: the call never comes to
its end, and nothing is registered. -/
theorem configure_endless_wait :
    let w : Wiring Medium Medium :=
      { slaves := Medium.link, uplink := Medium.link,
        channel := { responseTimeout := .ofSeconds 18446744073709551615 } }
    let m : Master Medium Medium := { channel := { link := mediumOver [⟨0x5B483237⟩] } }
    let device : DeviceSetup := { id := ⟨0x5B483237⟩, conduction := 2 }
    w.channel.responseTimeout.checked? = some w.channel.responseTimeout ∧
      w.slaves.Lossless Medium.Plain ∧ w.channel.responseTimeout ≠ .zero ∧ m.running = false ∧
      m.channel.AtRest Medium.Plain (mediumOver [⟨0x5B483237⟩]).bus ∧
      device.id.isBroadcast = false ∧
      device.Configurable (mediumOver [⟨0x5B483237⟩]).bus (SlotPlan.total [device.conduction]) ∧
      (m.configure w [device]).1 = none ∧ (m.configure w [device]).2.registry = [] := by
  intro w m device
  have hrest : m.channel.AtRest Medium.Plain (mediumOver [⟨0x5B483237⟩]).bus := atRest_mediumOver _
  have hsmall : [device].length ≤ 256 := by decide
  obtain ⟨c', hconfigure⟩ := configure_endless (w := w) Medium.link_lossless
    (fun h => (Medium.deadline?_plain h _).trans (by decide)) m rfl hrest hsmall
    (List.cons_ne_nil _ _)
  rw [hconfigure]
  exact ⟨by decide, Medium.link_lossless, by decide, rfl, hrest, by decide, by decide, rfl, rfl⟩

end Master

end HarnessLink
