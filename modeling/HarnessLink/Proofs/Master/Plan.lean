import HarnessLink.Master.Orchestrator

/-!
# The places of a batch

A slot plan gives the device at each index the slot of this number, the pins that
it asked for behind the pins of the devices before it, and the number of pins in
all. The plan of a batch joins the plans of the two numberings device by device.
-/
namespace HarnessLink

namespace SlotPlan

/-- The assignment at an index. -/
theorem getElem?_assign (total : UInt16) (index : Nat) (start : UInt16) (counts : List UInt16)
    (i : Nat) :
    (assign total index start counts)[i]? = counts[i]?.map fun count =>
      ⟨UInt8.ofNat (index + i), total, (counts.take i).foldl addWords start, count,
        decide (i + 1 = counts.length)⟩ := by
  induction counts generalizing index start i with
  | nil => rfl
  | cons count rest ih =>
    cases i with
    | zero =>
      have hlast : rest.isEmpty = decide (0 + 1 = (count :: rest).length) := by
        cases rest <;> simp
      rw [assign, List.getElem?_cons_zero, List.getElem?_cons_zero, hlast]
      rfl
    | succ i =>
      rw [assign, List.getElem?_cons_succ, List.getElem?_cons_succ, ih]
      have hindex : index + 1 + i = index + (i + 1) := by omega
      simp only [hindex, List.take_succ_cons, List.foldl_cons, List.length_cons,
        Nat.add_right_cancel_iff]

/-- A batch that is not too large has a plan, with an assignment for each count. -/
theorem plan?_of_le {counts : List UInt16} (h : counts.length ≤ maxBatch) :
    ∃ plan, plan? counts = some plan ∧ plan.length = counts.length ∧
      ∀ i a, plan[i]? = some a →
        a.timeSlot = UInt8.ofNat i ∧ a.total = total counts ∧ counts[i]? = some a.count := by
  refine ⟨assign (total counts) 0 0 counts, plan?_of_size h, length_assign _ _ _ _, ?_⟩
  intro i a ha
  rw [getElem?_assign, Option.map_eq_some_iff] at ha
  obtain ⟨count, hcount, rfl⟩ := ha
  refine ⟨?_, rfl, hcount⟩
  rw [Nat.zero_add]

end SlotPlan

namespace Master

/-- The device stands at index `i` of a batch with `total` pins in all. -/
structure PlannedDevice.PlacedAt (total : UInt16) (i : Nat) (d : PlannedDevice) : Prop where
  slot : d.conduction.timeSlot = UInt8.ofNat i
  total : d.conduction.total = total
  conduction : d.conduction.count = d.setup.conduction
  resistance : d.resistance.count = d.setup.resistance

/-- The places of a batch are those of the two slot plans, device by device. -/
theorem planBatch?_of_le {devices : List DeviceSetup} (h : devices.length ≤ 256) :
    ∃ (conduction resistance : List SlotAssignment) (batch : List PlannedDevice),
      SlotPlan.plan? (devices.map DeviceSetup.conduction) = some conduction ∧
      SlotPlan.plan? (devices.map DeviceSetup.resistance) = some resistance ∧
      planBatch? devices = some batch ∧ batch.map PlannedDevice.setup = devices ∧
      ∀ (i : Nat) (d : PlannedDevice), batch[i]? = some d →
        conduction[i]? = some d.conduction ∧ resistance[i]? = some d.resistance ∧
        d.PlacedAt (SlotPlan.total (devices.map DeviceSetup.conduction)) i := by
  have hsize : ∀ f : DeviceSetup → UInt16, (devices.map f).length ≤ SlotPlan.maxBatch := by
    intro f
    rw [List.length_map]
    exact h
  obtain ⟨conduction, hconduction, hlength, hplace⟩ :=
    SlotPlan.plan?_of_le (hsize DeviceSetup.conduction)
  obtain ⟨resistance, hresistance, hlength', hplace'⟩ :=
    SlotPlan.plan?_of_le (hsize DeviceSetup.resistance)
  rw [List.length_map] at hlength hlength'
  refine ⟨conduction, resistance,
    (devices.zip (conduction.zip resistance)).map fun entry => ⟨entry.1, entry.2.1, entry.2.2⟩,
    hconduction, hresistance, ?_, ?_, ?_⟩
  · rw [planBatch?, hconduction, hresistance]
    rfl
  · rw [List.map_map]
    show (devices.zip (conduction.zip resistance)).map Prod.fst = devices
    apply List.map_fst_zip
    rw [List.length_zip]
    omega
  · intro i d hd
    rw [List.getElem?_map, Option.map_eq_some_iff] at hd
    obtain ⟨⟨setup, c, r⟩, hzip, rfl⟩ := hd
    rw [List.getElem?_zip_eq_some, List.getElem?_zip_eq_some] at hzip
    obtain ⟨hsetup, hc, hr⟩ := hzip
    obtain ⟨hslot, htotal, hcount⟩ := hplace i c hc
    obtain ⟨-, -, hcount'⟩ := hplace' i r hr
    rw [List.getElem?_map, hsetup] at hcount hcount'
    exact ⟨hc, hr, hslot, htotal, (Option.some.inj hcount).symm, (Option.some.inj hcount').symm⟩

/-- A batch that is too large has no places. -/
theorem planBatch?_of_large {devices : List DeviceSetup} (h : 256 < devices.length) :
    planBatch? devices = none := by
  have hnone : SlotPlan.plan? (devices.map DeviceSetup.conduction) = none :=
    if_pos (by rwa [List.length_map])
  rw [planBatch?, hnone]
  rfl

/-- A batch that has a plan is configured device by device. -/
theorem configure_planned {σ τ : Type} (w : Wiring σ τ) {m : Master σ τ}
    (hrunning : m.running = false) {devices : List DeviceSetup} {batch : List PlannedDevice}
    (hplan : planBatch? devices = some batch) :
    m.configure w devices =
      match configureEach w batch m.channel with
      | (none, channel) => (none, { m with channel })
      | (some (failed, registry), channel) =>
        (some (.configured failed),
          { m with
            channel, registry
            totalHarness := SlotPlan.total (devices.map DeviceSetup.conduction) }) := by
  rw [configure, hrunning, hplan]
  rfl

end Master

end HarnessLink
