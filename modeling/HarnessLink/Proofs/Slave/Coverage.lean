import HarnessLink.Proofs.Master.Plan
import HarnessLink.Proofs.Slave.Orders
import Mathlib.Data.List.Forall2

/-!
# The reports of a batch cover the harness

The pins of a slot plan, one assignment after the other, are the pins of the harness, each
once and in order. A slave reports for its pins what only the pin and the harness decide: a
row with the bit of the pin, or the number of the pin. So the reports of all slaves, one
behind the other, are those of a single slave with all pins.
-/
namespace HarnessLink

/-- The pins of an assignment. -/
def SlotAssignment.pins (a : SlotAssignment) : List Nat :=
  List.range' a.start.toNat a.count.toNat

/-- Bit `k` of bytes, from the lowest bit of the first byte on. -/
def Bytes.bit (bytes : Bytes) (k : Nat) : Bool :=
  (bytes[k / 8]?.getD 0).toNat.testBit (k % 8)

namespace SlotPlan

/-- How many pins a batch asks for. -/
def pinCount (counts : List UInt16) : Nat := counts.foldr (fun count n => count.toNat + n) 0

theorem pinCount_cons (count : UInt16) (rest : List UInt16) :
    pinCount (count :: rest) = count.toNat + pinCount rest := rfl

theorem toNat_addWords (a b : UInt16) : (addWords a b).toNat = min 65535 (a.toNat + b.toNat) :=
  UInt16.toNat_ofNat_of_lt' (Nat.lt_succ_of_le (Nat.min_le_left _ _))

theorem toNat_addWords_of_le {a b : UInt16} (h : a.toNat + b.toNat ≤ 65535) :
    (addWords a b).toNat = a.toNat + b.toNat := by
  rw [toNat_addWords, Nat.min_eq_right h]

theorem toNat_foldl_addWords (start : UInt16) (counts : List UInt16) :
    (counts.foldl addWords start).toNat = min 65535 (start.toNat + pinCount counts) := by
  induction counts generalizing start with
  | nil => exact (Nat.min_eq_right (Nat.le_of_lt_succ start.toNat_lt)).symm
  | cons count rest ih =>
    rw [pinCount_cons, List.foldl_cons, ih, toNat_addWords]
    omega

/-- Every device learns how many pins the batch asks for, as far as a word can tell it. -/
theorem toNat_total (counts : List UInt16) : (total counts).toNat = min 65535 (pinCount counts) := by
  rw [total, toNat_foldl_addWords]
  exact congrArg (min 65535) (Nat.zero_add _)

/-- The pins of a plan, one assignment after the other, are consecutive. -/
theorem flatMap_pins_assign (total : UInt16) (index : Nat) {start : UInt16} {counts : List UInt16}
    (h : start.toNat + pinCount counts ≤ 65535) :
    (assign total index start counts).flatMap SlotAssignment.pins =
      List.range' start.toNat (pinCount counts) := by
  induction counts generalizing index start with
  | nil => rfl
  | cons count rest ih =>
    rw [pinCount_cons] at h ⊢
    have hnext := toNat_addWords_of_le (a := start) (b := count) (by omega)
    rw [assign, List.flatMap_cons, ih (index + 1) (by omega), hnext, SlotAssignment.pins]
    exact List.range'_append_1

/-- What a plan says about its batch: slots that count up, the pins of the harness in order,
and for every device the number of pins in all and the count that it asked for. -/
structure Covers (counts : List UInt16) (plan : List SlotAssignment) : Prop where
  slot : ∀ (i : Nat) (a : SlotAssignment), plan[i]? = some a → a.timeSlot.toNat = i
  pins : plan.flatMap SlotAssignment.pins = List.range (pinCount counts)
  total : ∀ a ∈ plan, a.total.toNat = pinCount counts
  count : ∀ a ∈ plan, a.count ∈ counts

theorem plan?_covers {counts : List UInt16} (hsize : counts.length ≤ maxBatch)
    (hsum : pinCount counts ≤ 65535) : ∃ plan, plan? counts = some plan ∧ Covers counts plan := by
  obtain ⟨plan, hplan, hlength, hplace⟩ := plan?_of_le hsize
  have hassign : assign (SlotPlan.total counts) 0 0 counts = plan :=
    Option.some.inj ((plan?_of_size hsize).symm.trans hplan)
  have hzero : (0 : UInt16).toNat + pinCount counts ≤ 65535 := by simpa using hsum
  refine ⟨plan, hplan, ?_, ?_, ?_, ?_⟩
  · intro i a ha
    have hi : i < plan.length := (List.getElem?_eq_some_iff.mp ha).1
    have hbyte : i < 256 := Nat.lt_of_lt_of_le (hlength ▸ hi) hsize
    rw [(hplace i a ha).1, UInt8.toNat_ofNat_of_lt' hbyte]
  · rw [← hassign, flatMap_pins_assign _ _ hzero, List.range_eq_range']
    rfl
  · intro a ha
    obtain ⟨i, hi⟩ := List.mem_iff_getElem?.mp ha
    rw [(hplace i a hi).2.1, toNat_total, Nat.min_eq_right hsum]
  · intro a ha
    obtain ⟨i, hi⟩ := List.mem_iff_getElem?.mp ha
    exact List.mem_of_getElem? (hplace i a hi).2.2

end SlotPlan

/-! ## What a slave reports of its pins -/

namespace TestWindow

/-- A row has the bit of its pin set and no other. -/
theorem bit_row {total pin : Nat} (h : pin < total) (k : Nat) :
    (row ((total + 7) / 8) total pin).bit k = decide (k = pin) := by
  by_cases hwidth : k / 8 < (total + 7) / 8
  · have hbyte : (row ((total + 7) / 8) total pin)[k / 8]? =
        some (if pin / 8 = k / 8 then UInt8.ofNat (2 ^ (pin % 8)) else 0) := by
      simp [row, hwidth, h]
    rw [Bytes.bit, hbyte, Option.getD_some]
    by_cases hpin : pin / 8 = k / 8
    · have hpow : 2 ^ (pin % 8) < 2 ^ 8 :=
        Nat.pow_lt_pow_right (by decide) (Nat.mod_lt _ (by decide))
      rw [if_pos hpin, UInt8.toNat_ofNat_of_lt' hpow, Nat.testBit_two_pow, decide_eq_decide]
      omega
    · have hne : k ≠ pin := fun heq => hpin (heq ▸ rfl)
      simp [if_neg hpin, hne]
  · have hbeyond : (row ((total + 7) / 8) total pin)[k / 8]? = none := by
      rw [List.getElem?_eq_none_iff, length_row]
      omega
    have hne : k ≠ pin := by omega
    simp [Bytes.bit, hbeyond, hne]

theorem bitmap_windowOf (interval : UInt8) (a : SlotAssignment) :
    (Master.windowOf interval a).bitmap =
      a.pins.flatMap (row ((a.total.toNat + 7) / 8) a.total.toNat) := by
  rw [bitmap, SlotAssignment.pins, List.range'_eq_map_range, List.flatMap_map]
  rfl

theorem readings_windowOf (interval : UInt8) (a : SlotAssignment) :
    (Master.windowOf interval a).readings =
      a.pins.flatMap fun pin => Word.le16 (UInt16.ofNat (min 65535 pin)) := by
  rw [readings, SlotAssignment.pins, List.range'_eq_map_range, List.flatMap_map]
  rfl

end TestWindow

namespace SlotPlan

variable {counts : List UInt16} {plan : List SlotAssignment} {interval : UInt8}

/-- Slaves hold the windows that the plan gives them, each in its turn. -/
def Stored (window? : SlaveNode → Option TestWindow) (interval : UInt8) :
    List SlaveNode → List SlotAssignment → Prop :=
  List.Forall₂ fun n a => window? n = some (Master.windowOf interval a)

/-- Reports put together from what each pin of a plan gives. -/
theorem Stored.flatMap_report {window? : SlaveNode → Option TestWindow} {slaves : List SlaveNode}
    (h : Stored window? interval slaves plan) {report : SlaveNode → Bytes} {ofPin : Nat → Bytes}
    (hreport : ∀ n, ∀ a ∈ plan, window? n = some (Master.windowOf interval a) →
      report n = a.pins.flatMap ofPin) :
    slaves.flatMap report = (plan.flatMap SlotAssignment.pins).flatMap ofPin := by
  induction h with
  | nil => rfl
  | @cons n a slaves plan hfirst _ ih =>
    rw [List.flatMap_cons, List.flatMap_cons, List.flatMap_append,
      hreport n a (List.mem_cons_self ..) hfirst,
      ih fun n' a' ha' => hreport n' a' (List.mem_cons_of_mem a ha')]

theorem Covers.conductionLength_le (h : Covers counts plan)
    (hfits : ∀ c ∈ counts, c.toNat * ((pinCount counts + 7) / 8) ≤ maxReportLength)
    {a : SlotAssignment} (ha : a ∈ plan) :
    (Master.windowOf interval a).conductionLength ≤ maxReportLength := by
  show a.count.toNat * ((a.total.toNat + 7) / 8) ≤ _
  rw [h.total a ha]
  exact hfits a.count (h.count a ha)

/-- The conduction reports are the rows of the pins. -/
theorem Covers.bitmaps (h : Covers counts plan)
    (hfits : ∀ c ∈ counts, c.toNat * ((pinCount counts + 7) / 8) ≤ maxReportLength)
    {slaves : List SlaveNode} (hslaves : Stored SlaveNode.conduction? interval slaves plan) :
    slaves.flatMap SlaveNode.bitmap = ((List.range (pinCount counts)).map
      (TestWindow.row ((pinCount counts + 7) / 8) (pinCount counts))).flatten := by
  rw [← List.flatMap_def, ← h.pins]
  apply hslaves.flatMap_report
  intro n a ha hstored
  simp only [SlaveNode.bitmap_eq, hstored, if_pos (h.conductionLength_le hfits ha),
    TestWindow.bitmap_windowOf, h.total a ha]

/-- The resistance reports are the numbers of the pins. -/
theorem Covers.readings (h : Covers counts plan) (hsum : pinCount counts ≤ 65535)
    {slaves : List SlaveNode} (hslaves : Stored SlaveNode.resistance? interval slaves plan) :
    slaves.flatMap SlaveNode.readings =
      (List.range (pinCount counts)).flatMap fun pin => Word.le16 (UInt16.ofNat pin) := by
  have hreport : ∀ n : SlaveNode, ∀ a ∈ plan,
      n.resistance? = some (Master.windowOf interval a) →
        n.readings = a.pins.flatMap fun pin => Word.le16 (UInt16.ofNat (min 65535 pin)) := by
    intro n a _ hstored
    rw [SlaveNode.readings, hstored]
    exact TestWindow.readings_windowOf interval a
  rw [hslaves.flatMap_report hreport, h.pins]
  apply List.flatMap_congr
  intro pin hpin
  have hword : pin < pinCount counts := List.mem_range.mp hpin
  rw [Nat.min_eq_right (by omega)]

end SlotPlan

/-- The slaves of a batch report every pin of the harness once. A batch of counts that a
word can add up has a plan, whose slots count up. If the conduction reports fit the link,
every slave stores the window of its assignment when it is told, and the reports of slaves
that store these windows, one behind the other, are a row for each pin, with the bit of the
pin set and no other. The readings are the numbers of the pins in the same way. -/
theorem plan_reports_cover {counts : List UInt16} (interval : UInt8)
    (hsize : counts.length ≤ 256) (hsum : SlotPlan.pinCount counts ≤ 65535) :
    ∃ plan, SlotPlan.plan? counts = some plan ∧
      (∀ (i : Nat) (a : SlotAssignment), plan[i]? = some a → a.timeSlot.toNat = i) ∧
      ((∀ c ∈ counts, c.toNat * ((SlotPlan.pinCount counts + 7) / 8) ≤ maxReportLength) →
        (∀ n : SlaveNode, ∀ a ∈ plan,
          (n.obey (.configureConduction (Master.windowOf interval a))).1.conduction? =
            some (Master.windowOf interval a)) ∧
        ∀ slaves : List SlaveNode, SlotPlan.Stored SlaveNode.conduction? interval slaves plan →
          ∃ rows : List Bytes, slaves.flatMap SlaveNode.bitmap = rows.flatten ∧
            rows.length = SlotPlan.pinCount counts ∧
            ∀ (r : Nat) (row : Bytes), rows[r]? = some row →
              row.length = (SlotPlan.pinCount counts + 7) / 8 ∧
              ∀ k, Bytes.bit row k = decide (k = r)) ∧
      ((∀ c ∈ counts, 2 * c.toNat ≤ maxReportLength) →
        (∀ n : SlaveNode, ∀ a ∈ plan,
          (n.obey (.configureResistance (Master.windowOf interval a))).1.resistance? =
            some (Master.windowOf interval a)) ∧
        ∀ slaves : List SlaveNode, SlotPlan.Stored SlaveNode.resistance? interval slaves plan →
          slaves.flatMap SlaveNode.readings =
            (List.range (SlotPlan.pinCount counts)).flatMap fun pin =>
              Word.le16 (UInt16.ofNat pin)) := by
  obtain ⟨plan, hplan, hcovers⟩ := SlotPlan.plan?_covers hsize hsum
  refine ⟨plan, hplan, hcovers.slot, fun hfits => ⟨?_, ?_⟩, fun hfits => ⟨?_, ?_⟩⟩
  · intro n a ha
    rw [SlaveNode.obey_conduction (hcovers.conductionLength_le hfits ha)]
  · intro slaves hslaves
    refine ⟨_, hcovers.bitmaps hfits hslaves, by simp, ?_⟩
    intro r row hrow
    rw [List.getElem?_map, Option.map_eq_some_iff] at hrow
    obtain ⟨pin, hpin, rfl⟩ := hrow
    obtain ⟨hr, rfl⟩ := List.getElem?_eq_some_iff.mp hpin
    rw [List.getElem_range]
    exact ⟨TestWindow.length_row _ _ _, TestWindow.bit_row (by simpa using hr)⟩
  · intro n a ha
    have hwindow : (Master.windowOf interval a).resistanceLength ≤ maxReportLength :=
      hfits a.count (hcovers.count a ha)
    rw [SlaveNode.obey_resistance hwindow]
  · intro slaves hslaves
    exact hcovers.readings hsum hslaves

/-- The slaves of a batch of two, no and nine pins. -/
def elevenPins : List SlaveNode :=
  [⟨0, 10, 11, 0, 2⟩, ⟨1, 10, 11, 2, 0⟩, ⟨2, 10, 11, 2, 9⟩].map fun w : TestWindow =>
    { id := ⟨w.timeSlot.toUInt32⟩, conduction? := some w, resistance? := some w }

theorem plan_reports_cover_eleven :
    (∃ rows : List Bytes, elevenPins.flatMap SlaveNode.bitmap = rows.flatten ∧ rows.length = 11 ∧
      ∀ (r : Nat) (row : Bytes), rows[r]? = some row →
        row.length = 2 ∧ ∀ k, Bytes.bit row k = decide (k = r)) ∧
      elevenPins.flatMap SlaveNode.readings =
        [0, 0, 1, 0, 2, 0, 3, 0, 4, 0, 5, 0, 6, 0, 7, 0, 8, 0, 9, 0, 10, 0] := by
  obtain ⟨plan, hplan, -, hconduction, hresistance⟩ :=
    @plan_reports_cover [2, 0, 9] 10 (by decide) (by decide)
  have hthree : SlotPlan.plan? [2, 0, 9] =
      some [⟨0, 11, 0, 2, false⟩, ⟨1, 11, 2, 0, false⟩, ⟨2, 11, 2, 9, true⟩] := by decide
  obtain rfl := Option.some.inj (hplan.symm.trans hthree)
  have hrows : ∀ c ∈ ([2, 0, 9] : List UInt16),
      c.toNat * ((SlotPlan.pinCount [2, 0, 9] + 7) / 8) ≤ maxReportLength := by
    simp [SlotPlan.pinCount, maxReportLength]
  have hreadings : ∀ c ∈ ([2, 0, 9] : List UInt16), 2 * c.toNat ≤ maxReportLength := by
    simp [maxReportLength]
  exact ⟨(hconduction hrows).2 elevenPins (.cons rfl (.cons rfl (.cons rfl .nil))),
    (hresistance hreadings).2 elevenPins (.cons rfl (.cons rfl (.cons rfl .nil)))⟩

end HarnessLink
