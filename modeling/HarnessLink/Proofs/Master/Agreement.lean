import HarnessLink.Proofs.Master.Applied

/-!
# What the slaves of a registry hold

Over a lossless link a slave holds the conduction window that was set up on it last. Nothing
looks for an id that a batch repeats, nor for the id of everyone: a later device of the batch
with either takes over the window of a slave, unless its report is too long for the link. The
slave of a registered device holds the place of the registry exactly if no later device of the
batch takes it over.
-/
namespace HarnessLink

/-! ## The window of one slave -/

/-- The conduction window that a slave takes from an order. -/
def MasterToSlave.window? : MasterToSlave → Option TestWindow
  | .configureConduction window =>
    if window.conductionLength ≤ maxReportLength then some window else none
  | _ => none

theorem SlaveNode.conduction?_obey (n : SlaveNode) (order : MasterToSlave) :
    (n.obey order).1.conduction? = order.window?.or n.conduction? := by
  cases order with
  | configureConduction window =>
    by_cases h : window.conductionLength ≤ maxReportLength <;>
      simp [obey, MasterToSlave.window?, h]
  | configureResistance window =>
    by_cases h : window.resistanceLength ≤ maxReportLength <;>
      simp [obey, MasterToSlave.window?, h]
  | _ => rfl

/-- The slave of a registered device holds the slot and the pins of its entry. -/
def RegisteredDevice.HeldOn (b : SlaveBus) (d : RegisteredDevice) : Prop :=
  ∃ n window, b.node? d.id = some n ∧ n.conduction? = some window ∧
    window.timeSlot = d.timeSlot ∧ window.count = d.conduction

/-- A device of a batch with `total` pins takes over the conduction window of a slave. -/
def DeviceSetup.TakesOver (total : UInt16) (id : DeviceId) (d : DeviceSetup) : Prop :=
  d.id.Reaches id ∧ d.conduction.toNat * ((total.toNat + 7) / 8) ≤ maxReportLength

instance (total : UInt16) (id : DeviceId) : DecidablePred (DeviceSetup.TakesOver total id) :=
  fun _ => inferInstanceAs (Decidable (_ ∧ _))

namespace Master

variable {σ τ : Type} {w : Wiring σ τ} {holds : σ → SlaveBus → List Bytes → Prop}

/-! ## The orders of one device -/

/-- Orders without a window leave the one that there is. -/
theorem conduction?_carriedOut {orders : List Order}
    (h : ∀ order ∈ orders, order.message.window? = none) (n : SlaveNode) :
    (carriedOut orders n).conduction? = n.conduction? := by
  induction orders generalizing n with
  | nil => rfl
  | cons order rest ih =>
    have hfirst := n.conduction?_obey order.message
    rw [h order (List.mem_cons_self ..), Option.none_or] at hfirst
    exact (ih (fun order' horder => h order' (List.mem_cons_of_mem _ horder)) _).trans hfirst

namespace PlannedDevice

/-- The conduction window of the device, if its report fits the link. -/
def window? (config : MasterConfig) (d : PlannedDevice) : Option TestWindow :=
  MasterToSlave.window?
    (.configureConduction (windowOf (intervalByte config.conductionInterval) d.conduction))

theorem eq_of_window? {config : MasterConfig} {d : PlannedDevice} {window : TestWindow}
    (h : d.window? config = some window) :
    window = windowOf (intervalByte config.conductionInterval) d.conduction :=
  (Option.ite_some_none_eq_some.mp h).2.symm

/-- Only the first order of a device is about its conduction window. -/
theorem orders_window? (config : MasterConfig) (d : PlannedDevice) :
    ∃ first rest, d.orders config = first :: rest ∧ first.message.window? = d.window? config ∧
      ∀ order ∈ rest, order.message.window? = none := by
  refine ⟨_, _, rfl, rfl, ?_⟩
  intro order horder
  rw [List.mem_append, Option.mem_toList, Option.map_eq_some_iff] at horder
  obtain hresistance | ⟨setting, -, rfl⟩ := horder
  · split at hresistance
    · obtain rfl := List.mem_singleton.mp hresistance
      rfl
    · cases hresistance
  · rfl

/-- Whatever of its orders goes out, a slave takes the window of the device from it. -/
theorem conduction?_goesOut {config : MasterConfig} {d : PlannedDevice} {succeeds : Prop}
    {sent : List Order} (h : GoesOut (d.orders config) succeeds sent) (n : SlaveNode) :
    (carriedOut sent n).conduction? = (d.window? config).or n.conduction? := by
  obtain ⟨first, rest, horders, hfirst, hrest⟩ := d.orders_window? config
  rw [horders] at h
  cases sent with
  | nil => exact absurd rfl (h.begun (List.cons_ne_nil _ _))
  | cons order more =>
    obtain ⟨rfl, hmore⟩ := List.cons_prefix_cons.mp h.front
    have hlater : (carriedOut (order :: more) n).conduction? =
        (n.obey order.message).1.conduction? :=
      conduction?_carriedOut (fun order' horder => hrest order' (hmore.subset horder)) _
    rw [hlater, SlaveNode.conduction?_obey, hfirst]

end PlannedDevice

/-! ## The windows of a batch -/

/-- The conduction window of the slave `id` after a batch, if it held `held` before. -/
def lastWindow? (config : MasterConfig) (id : DeviceId) (batch : List PlannedDevice)
    (held : Option TestWindow) : Option TestWindow :=
  batch.foldl (fun held d => if d.setup.id.Reaches id then (d.window? config).or held else held) held

/-- Each slave holds the window that was set up on it last. -/
theorem Deliveries.conduction? {config : MasterConfig} {batch : List PlannedDevice}
    {b b' : SlaveBus} (h : Deliveries config batch b b') (id : DeviceId) :
    (b'.node? id).map SlaveNode.conduction? =
      (b.node? id).map fun n => lastWindow? config id batch n.conduction? := by
  induction h with
  | done => rfl
  | @next d rest b b' sent hsent later ih =>
    rw [ih, node?_delivered]
    by_cases hreaches : d.setup.id.Reaches id
    · rw [if_pos hreaches, Option.map_map]
      congr 1
      funext n
      simp only [Function.comp_apply, PlannedDevice.conduction?_goesOut hsent, lastWindow?,
        List.foldl_cons, if_pos hreaches]
    · simp only [if_neg hreaches, lastWindow?, List.foldl_cons]

/-- Nobody takes over the window of the slave, or it holds the window of a device that did. -/
theorem lastWindow?_cases (config : MasterConfig) (id : DeviceId) (batch : List PlannedDevice)
    (held : Option TestWindow) :
    ((∀ d ∈ batch, d.setup.id.Reaches id → d.window? config = none) ∧
      lastWindow? config id batch held = held) ∨
    ∃ d ∈ batch, d.setup.id.Reaches id ∧
      ∃ window, d.window? config = some window ∧ lastWindow? config id batch held = some window := by
  induction batch generalizing held with
  | nil => exact Or.inl ⟨fun d hd => (List.not_mem_nil hd).elim, rfl⟩
  | cons d rest ih =>
    have hcons : lastWindow? config id (d :: rest) held = lastWindow? config id rest
        (if d.setup.id.Reaches id then (d.window? config).or held else held) := rfl
    rw [hcons]
    obtain ⟨hnobody, hkept⟩ | ⟨e, he, hreaches, window, hwindow, hlast⟩ :=
      ih (if d.setup.id.Reaches id then (d.window? config).or held else held)
    -- What the rest keeps is what this device left: its own window, or the one before.
    · rw [hkept]
      by_cases hreaches : d.setup.id.Reaches id
      · rw [if_pos hreaches]
        cases hwindow : d.window? config with
        | none =>
          exact Or.inl ⟨List.forall_mem_cons.mpr ⟨fun _ => hwindow, hnobody⟩, Option.none_or⟩
        | some window =>
          exact Or.inr ⟨d, List.mem_cons_self .., hreaches, window, hwindow, Option.some_or⟩
      · rw [if_neg hreaches]
        exact Or.inl ⟨List.forall_mem_cons.mpr ⟨fun h => absurd h hreaches, hnobody⟩, rfl⟩
    · exact Or.inr ⟨e, List.mem_cons_of_mem d he, hreaches, window, hwindow, hlast⟩

/-- A device that succeeds leaves its own window, which the rest of the batch may take over. -/
theorem lastWindow?_of_succeeds {config : MasterConfig} {b : SlaveBus} {d : PlannedDevice}
    (hs : d.Succeeds config b) (front rest : List PlannedDevice) (held : Option TestWindow) :
    lastWindow? config d.setup.id (front ++ d :: rest) held =
      lastWindow? config d.setup.id rest
        (some (windowOf (intervalByte config.conductionInterval) d.conduction)) := by
  have hfits : (windowOf (intervalByte config.conductionInterval) d.conduction).conductionLength ≤
      maxReportLength := hs.2 _ (List.mem_cons_self ..)
  have hwindow : d.window? config = some _ := if_pos hfits
  rw [lastWindow?, List.foldl_append, List.foldl_cons, if_pos d.setup.id.reaches_self, hwindow,
    Option.some_or, lastWindow?]

/-- The slave of a device that succeeds holds its place exactly if no later device of the batch
takes over its window. Slots of a batch differ, so that a window that was taken over shows. -/
theorem Deliveries.heldOn_iff {config : MasterConfig} {front rest : List PlannedDevice}
    {d : PlannedDevice} {b b' : SlaveBus} (h : Deliveries config (front ++ d :: rest) b b')
    (hs : d.Succeeds config b) (hcount : d.conduction.count = d.setup.conduction)
    (hslots : ∀ e ∈ rest, e.conduction.timeSlot ≠ d.conduction.timeSlot) :
    d.registered.HeldOn b' ↔
      ∀ e ∈ rest, e.setup.id.Reaches d.setup.id → e.window? config = none := by
  have hsome : b.node? d.setup.id ≠ none := fun hnone => SlaveBus.node?_eq_none.mp hnone hs.1
  obtain ⟨n, hn⟩ := Option.ne_none_iff_exists'.mp hsome
  have hconduction := h.conduction? d.setup.id
  rw [hn, Option.map_some, lastWindow?_of_succeeds hs] at hconduction
  obtain ⟨n', hn', hheld⟩ := Option.map_eq_some_iff.mp hconduction
  obtain ⟨hnobody, hkept⟩ | ⟨e, he, hreaches, window, hwindow, hlast⟩ :=
    lastWindow?_cases config d.setup.id rest
      (some (windowOf (intervalByte config.conductionInterval) d.conduction))
  · exact iff_of_true ⟨n', _, hn', hheld.trans hkept, rfl, hcount⟩ hnobody
  · refine iff_of_false ?_ ?_
    · rintro ⟨n'', window', hn'', hwindow', hslot, -⟩
      obtain rfl := Option.some.inj (hn'.symm.trans hn'')
      obtain rfl := Option.some.inj (hwindow'.symm.trans (hheld.trans hlast))
      rw [PlannedDevice.eq_of_window? hwindow] at hslot
      exact hslots e he hslot
    · intro hnobody
      rw [hnobody e he hreaches] at hwindow
      cases hwindow

/-! ## Agreement -/

/-- When a device of a batch takes over the window of a slave, in numbers. -/
theorem PlannedDevice.takesOver_iff {total : UInt16} {i : Nat} {d : PlannedDevice}
    (h : d.PlacedAt total i) (config : MasterConfig) (id : DeviceId) :
    d.setup.TakesOver total id ↔ d.setup.id.Reaches id ∧ d.window? config ≠ none := by
  rw [DeviceSetup.TakesOver, ← h.conductionLength (intervalByte config.conductionInterval)]
  apply and_congr Iff.rfl
  rw [window?, MasterToSlave.window?]
  by_cases hfits : (windowOf (intervalByte config.conductionInterval)
      d.conduction).conductionLength ≤ maxReportLength
  · rw [if_pos hfits]
    exact iff_of_true hfits (Option.some_ne_none _)
  · rw [if_neg hfits]
    exact iff_of_false hfits fun hne => hne rfl

/-- The slave of a device that succeeds holds its place exactly if no later device of the batch
takes over its window. -/
theorem Deliveries.heldOn_iff_takesOver {config : MasterConfig} {devices : List DeviceSetup}
    (hsize : devices.length ≤ 256) {batch : List PlannedDevice}
    (hplan : planBatch? devices = some batch) {b b' : SlaveBus}
    (h : Deliveries config batch b b') {d : PlannedDevice} (hd : d ∈ batch)
    (hs : d.Succeeds config b) :
    devices[d.conduction.timeSlot.toNat]? = some d.setup ∧
      (d.registered.HeldOn b' ↔ ∀ later ∈ devices.drop (d.conduction.timeSlot.toNat + 1),
        ¬ later.TakesOver (SlotPlan.total (devices.map DeviceSetup.conduction)) d.setup.id) := by
  obtain ⟨hlength, hslots⟩ := planned_slots hplan
  obtain ⟨_, _, batch', -, -, hplan', hsetups, hplaces⟩ := planBatch?_of_le hsize
  obtain rfl := Option.some.inj (hplan'.symm.trans hplan)
  have hplaced := fun i d hd => (hplaces i d hd).2.2
  generalize SlotPlan.total (devices.map DeviceSetup.conduction) = total at hplaced ⊢
  clear hplaces hplan hplan' hsize
  subst hsetups
  obtain ⟨front, rest, rfl⟩ := List.append_of_mem hd
  have hplace : d.PlacedAt total front.length := hplaced front.length d (by simp)
  have hindex : d.conduction.timeSlot.toNat = front.length := by
    rw [List.length_append, List.length_cons] at hlength
    rw [hplace.slot, UInt8.toNat_ofNat_of_lt' (Nat.lt_of_lt_of_le (by omega) hlength)]
  have hlater : ∀ e ∈ rest, e.conduction.timeSlot ≠ d.conduction.timeSlot := by
    intro e he
    rw [List.map_append, List.pairwise_append, List.map_cons, List.pairwise_cons] at hslots
    have hlt : d.conduction.timeSlot < e.conduction.timeSlot :=
      hslots.2.1.1 e.registered (List.mem_map_of_mem he)
    exact (UInt8.ne_of_lt hlt).symm
  have hdrop : ((front ++ d :: rest).map PlannedDevice.setup).drop (front.length + 1) =
      rest.map PlannedDevice.setup := by
    rw [← List.map_drop, List.drop_length_add_append]
    rfl
  rw [hindex, h.heldOn_iff hs hplace.conduction hlater, hdrop, List.forall_mem_map]
  refine ⟨by simp, ?_⟩
  apply forall₂_congr
  intro e he
  obtain ⟨i, hi⟩ := List.getElem?_of_mem (List.mem_append_right front (List.mem_cons_of_mem d he))
  rw [PlannedDevice.takesOver_iff (hplaced i e hi) config, not_and, not_not]

/-- A device that can be configured is registered under its index. -/
theorem mem_registered {config : MasterConfig} {b : SlaveBus} {devices : List DeviceSetup}
    {batch : List PlannedDevice} (hsize : devices.length ≤ 256)
    (hplan : planBatch? devices = some batch) {i : Nat} {d : DeviceSetup}
    (hd : devices[i]? = some d)
    (hconfigurable : d.Configurable b (SlotPlan.total (devices.map DeviceSetup.conduction))) :
    ⟨d.id, UInt8.ofNat i, d.conduction, d.resistance⟩ ∈
      (batch.filter fun d => d.Succeeds config b).map PlannedDevice.registered := by
  obtain ⟨_, _, batch', -, -, hplan', hsetups, hplaces⟩ := planBatch?_of_le hsize
  obtain rfl := Option.some.inj (hplan'.symm.trans hplan)
  rw [← hsetups, List.getElem?_map, Option.map_eq_some_iff] at hd
  obtain ⟨planned, hplanned, rfl⟩ := hd
  have hplaced := (hplaces i planned hplanned).2.2
  have hs := (PlannedDevice.succeeds_iff hplaced config b).mpr hconfigurable
  have hmem : planned ∈ batch'.filter fun d => d.Succeeds config b :=
    List.mem_filter.mpr ⟨List.mem_of_getElem? hplanned, decide_eq_true hs⟩
  rw [← hplaced.slot]
  exact List.mem_map_of_mem hmem

/-- Without time for replies nothing is registered. -/
theorem configureEach_timeless (w : Wiring σ τ) (hzero : w.channel.responseTimeout = .zero)
    {batch : List PlannedDevice} {c c' : Channel σ} {failed : List DeviceId}
    {registry : List RegisteredDevice}
    (h : configureEach w batch c = (some (failed, registry), c')) : registry = [] := by
  induction batch generalizing c failed registry with
  | nil =>
    cases h
    rfl
  | cons d rest ih =>
    rcases hrequest : c.request w.slaves w.channel
      (.masterToSlave (.configureConduction
        (windowOf (intervalByte w.config.conductionInterval) d.conduction)))
      (.device d.setup.id) ⟨⟨.slaveToMaster, 0x10⟩, some d.setup.id⟩ with ⟨result, c₁⟩
    obtain ⟨e, he⟩ := Channel.request_timeless w.slaves hzero _ _ _ c
    obtain rfl : result = .error e := (congrArg Prod.fst hrequest).symm.trans he
    simp only [configureEach, acknowledgedAll_orders_error hrequest] at h
    split at h
    · cases h
    · rcases hrest : configureEach w rest c₁ with ⟨_ | ⟨failed', registry'⟩, c₂⟩
      all_goals
        rw [hrest] at h
        cases h
      exact ih hrest

/-- A batch that is not discarded registers devices of its own, under their indices: all that are
on the bus and whose reports fit the link, if there is time for replies. The slave of a registered
device then holds the place of its entry exactly if no later device of the batch has its id or
the id of everyone, and a conduction report that fits the link. -/
theorem configure_agreement (hlink : w.slaves.Lossless holds) (m : Master σ τ) {b : SlaveBus}
    (hrest : m.channel.AtRest holds b) (hids : b.ids.Nodup) (devices : List DeviceSetup) :
    let m' := (m.configure w devices).2
    let total := SlotPlan.total (devices.map DeviceSetup.conduction)
    (m.running = true ∨ 256 < devices.length → m' = m) ∧
    (m.running = false → devices.length ≤ 256 → (m.configure w devices).1.isSome = true →
      (m'.registry.map RegisteredDevice.id).Sublist (devices.map DeviceSetup.id) ∧
      (w.channel.responseTimeout ≠ .zero →
        ∀ i d, devices[i]? = some d → d.Configurable b total →
          ⟨d.id, UInt8.ofNat i, d.conduction, d.resistance⟩ ∈ m'.registry) ∧
      ∃ b' waiting, holds m'.channel.link b' waiting ∧ ∀ entry ∈ m'.registry,
        ∃ d, devices[entry.timeSlot.toNat]? = some d ∧
          entry = ⟨d.id, entry.timeSlot, d.conduction, d.resistance⟩ ∧
          (entry.HeldOn b' ↔
            ∀ later ∈ devices.drop (entry.timeSlot.toNat + 1), ¬ later.TakesOver total entry.id)) := by
  intro m' total
  refine ⟨fun hdiscarded => (configure_discarded w hdiscarded).1, fun hrunning hsize hreturns => ?_⟩
  obtain ⟨_, _, batch, -, -, hplan, hsetups, hplaces⟩ := planBatch?_of_le hsize
  have hconfigure := configure_planned w hrunning hplan
  rcases heach : configureEach w batch m.channel with ⟨_ | ⟨failed, registry⟩, c'⟩
  all_goals rw [heach] at hconfigure
  · rw [hconfigure] at hreturns
    cases hreturns
  have hm' : m' = { m with channel := c', registry, totalHarness := total } :=
    congrArg Prod.snd hconfigure
  rw [hm']
  refine ⟨?_, ?_, ?_⟩
  · have hsublist := (registered_sublist w heach).map RegisteredDevice.id
    rw [List.map_map] at hsublist
    rw [← hsetups, List.map_map]
    exact hsublist
  · intro hpositive i d hd hconfigurable
    obtain ⟨-, rfl, -⟩ := configureEach_lossless hlink hpositive hrest hids heach
    exact mem_registered hsize hplan hd hconfigurable
  · by_cases hpositive : w.channel.responseTimeout = .zero
    · have hkept := kept_configureEach (Channel.KeptBySending.link hlink.keeps) batch
        (c := m.channel) ⟨b, [], hrest.link⟩
      rw [heach] at hkept
      obtain ⟨b', waiting, hbus⟩ := hkept
      refine ⟨b', waiting, hbus, ?_⟩
      intro entry hentry
      rw [configureEach_timeless w hpositive heach] at hentry
      cases hentry
    · obtain ⟨-, rfl, b', hc', hdeliveries⟩ :=
        configureEach_lossless hlink hpositive hrest hids heach
      refine ⟨b', [], hc'.link, ?_⟩
      intro entry hentry
      obtain ⟨d, hd, rfl⟩ := List.mem_map.mp hentry
      obtain ⟨hmem, hs⟩ := List.mem_filter.mp hd
      obtain ⟨hindex, hheld⟩ :=
        hdeliveries.heldOn_iff_takesOver hsize hplan hmem (of_decide_eq_true hs)
      exact ⟨d.setup, hindex, rfl, hheld⟩

/-- In a batch of two different devices both are registered and hold their places. -/
theorem configure_agreement_two :
    let w : Wiring Medium Medium := { slaves := Medium.link, uplink := Medium.link }
    let m : Master Medium Medium := { channel := { link := mediumOver [⟨1⟩, ⟨2⟩] } }
    let devices : List DeviceSetup := [⟨⟨2⟩, 3, 0, none⟩, ⟨⟨1⟩, 2, 0, none⟩]
    let m' := (m.configure w devices).2
    w.slaves.Lossless Medium.Plain ∧
      m.channel.AtRest Medium.Plain (mediumOver [⟨1⟩, ⟨2⟩]).bus ∧
      (mediumOver [⟨1⟩, ⟨2⟩]).bus.ids.Nodup ∧
      m'.registry = [⟨⟨2⟩, 0, 3, 0⟩, ⟨⟨1⟩, 1, 2, 0⟩] ∧
      ∃ b' waiting, Medium.Plain m'.channel.link b' waiting ∧
        ∀ entry ∈ m'.registry, entry.HeldOn b' := by
  intro w m devices m'
  have hrest : m.channel.AtRest Medium.Plain (mediumOver [⟨1⟩, ⟨2⟩]).bus := atRest_mediumOver _
  have hw : w.Prompt Medium.Plain := prompt_plain rfl (by decide) (by decide)
  have hids : (mediumOver [⟨1⟩, ⟨2⟩]).bus.ids.Nodup := by decide
  have hsize : devices.length ≤ 256 := by decide
  obtain ⟨c', -, hconfigure, -⟩ := configure_all hw m rfl hrest hids hsize (by decide)
  have hregistry : m'.registry = [⟨⟨2⟩, 0, 3, 0⟩, ⟨⟨1⟩, 1, 2, 0⟩] :=
    congrArg (fun run => run.2.registry) hconfigure
  obtain ⟨-, happlied⟩ := configure_agreement hw.lossless m hrest hids devices
  rw [show (m.configure w devices).2 = m' from rfl] at happlied
  obtain ⟨-, -, b', waiting, hbus, hentries⟩ :=
    happlied rfl hsize (by rw [hconfigure]; rfl)
  refine ⟨hw.lossless, hrest, hids, hregistry, b', waiting, hbus, ?_⟩
  intro entry hentry
  obtain ⟨-, -, -, hheld⟩ := hentries entry hentry
  rw [hheld]
  have hcases : entry = ⟨⟨2⟩, 0, 3, 0⟩ ∨ entry = ⟨⟨1⟩, 1, 2, 0⟩ := by
    simpa [hregistry] using hentry
  obtain rfl | rfl := hcases <;> decide

/-- A device that is followed by one for everyone does not hold its place, and a device that
stands in a batch twice is registered twice. -/
theorem configure_disagreement :
    let w : Wiring Medium Medium := { slaves := Medium.link, uplink := Medium.link }
    let m : Master Medium Medium := { channel := { link := mediumOver [⟨1⟩] } }
    let covered := (m.configure w [⟨⟨1⟩, 2, 0, none⟩, ⟨.broadcast, 3, 0, none⟩]).2
    let repeated := (m.configure w [⟨⟨1⟩, 2, 0, none⟩, ⟨⟨1⟩, 3, 0, none⟩]).2
    w.slaves.Lossless Medium.Plain ∧ m.channel.AtRest Medium.Plain (mediumOver [⟨1⟩]).bus ∧
      (mediumOver [⟨1⟩]).bus.ids.Nodup ∧
      (∃ entry ∈ covered.registry, ¬ entry.HeldOn covered.channel.link.bus) ∧
      ¬ (repeated.registry.map RegisteredDevice.id).Nodup := by
  intro w m covered repeated
  have hrest : m.channel.AtRest Medium.Plain (mediumOver [⟨1⟩]).bus := atRest_mediumOver _
  have hw : w.Prompt Medium.Plain := prompt_plain rfl (by decide) (by decide)
  have hids : (mediumOver [⟨1⟩]).bus.ids.Nodup := by decide
  refine ⟨hw.lossless, hrest, hids, ?_, ?_⟩
  · let d : PlannedDevice := ⟨⟨⟨1⟩, 2, 0, none⟩, ⟨0, 5, 0, 2, false⟩, ⟨0, 0, 0, 0, false⟩⟩
    let e : PlannedDevice :=
      ⟨⟨.broadcast, 3, 0, none⟩, ⟨1, 5, 2, 3, true⟩, ⟨1, 0, 0, 0, true⟩⟩
    have hplan : planBatch? [⟨⟨1⟩, 2, 0, none⟩, ⟨.broadcast, 3, 0, none⟩] = some [d, e] := by
      decide
    have hs : d.Succeeds w.config (mediumOver [⟨1⟩]).bus := by decide
    have hkept : ([d, e].filter fun d => d.Succeeds w.config (mediumOver [⟨1⟩]).bus) = [d] := by
      decide
    obtain ⟨c', b', hconfigure, hc', hdeliveries⟩ :=
      configure_deliveries hw m rfl hrest hids hplan
    rw [hkept] at hconfigure
    have hcovered : covered = _ := congrArg Prod.snd hconfigure
    obtain ⟨-, hheld⟩ := hdeliveries.heldOn_iff_takesOver (by decide) hplan
      (List.mem_cons_self ..) hs
    rw [hcovered]
    refine ⟨d.registered, List.mem_singleton_self _, ?_⟩
    rw [hc'.link.bus, hheld]
    decide
  · have hsize : ([⟨⟨1⟩, 2, 0, none⟩, ⟨⟨1⟩, 3, 0, none⟩] : List DeviceSetup).length ≤ 256 := by
      decide
    obtain ⟨c', -, hconfigure, -⟩ := configure_all hw m rfl hrest hids hsize (by decide)
    have hregistry : repeated.registry = [⟨⟨1⟩, 0, 2, 0⟩, ⟨⟨1⟩, 1, 3, 0⟩] :=
      congrArg (fun run => run.2.registry) hconfigure
    rw [hregistry]
    decide

end Master

end HarnessLink
