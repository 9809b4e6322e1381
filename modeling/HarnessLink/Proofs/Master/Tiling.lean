import HarnessLink.Proofs.Slave.Coverage

/-!
# Slot plans tile the harness

Sums stop at the largest word, in whatever order they reach it: the number of pins in all
and the first pin of each device are the true sums, cut off there. While the pins of a
batch can be told by a word nothing is cut off, and each range of pins starts where the
range before it ends.
-/
namespace HarnessLink

namespace SlotPlan

/-- The assignment `a` is that of the device at index `i`. -/
structure Place (counts : List UInt16) (i : Nat) (a : SlotAssignment) : Prop where
  timeSlot : a.timeSlot.toNat = i
  total : a.total.toNat = min 65535 (pinCount counts)
  start : a.start.toNat = min 65535 (pinCount (counts.take i))
  count : counts[i]? = some a.count
  isLast : a.isLast = true ↔ i + 1 = counts.length

theorem place_of_getElem? {counts : List UInt16} (h : counts.length ≤ 256) {i : Nat}
    {a : SlotAssignment} (ha : (assign (total counts) 0 0 counts)[i]? = some a) :
    Place counts i a := by
  rw [getElem?_assign, Option.map_eq_some_iff] at ha
  obtain ⟨count, hcount, rfl⟩ := ha
  have hi : i < counts.length := (List.getElem?_eq_some_iff.mp hcount).1
  refine ⟨?_, toNat_total counts, ?_, hcount, decide_eq_true_iff⟩
  · rw [Nat.zero_add]
    exact UInt8.toNat_ofNat_of_lt' (Nat.lt_of_lt_of_le hi h)
  · rw [toNat_foldl_addWords]
    exact congrArg (min 65535) (Nat.zero_add _)

/-! ## Ranges one behind the other -/

/-- The ranges of the assignments lie between `lo` and `hi`, each starting where the one
before it ends. -/
inductive Tiles (hi : Nat) : Nat → List SlotAssignment → Prop
  | done : Tiles hi hi []
  | next (a : SlotAssignment) {rest : List SlotAssignment} :
    Tiles hi (a.start.toNat + a.count.toNat) rest → Tiles hi a.start.toNat (a :: rest)

/-- While nothing is cut off, the next device starts behind the pins of this one. -/
theorem tiles_assign (total : UInt16) (index : Nat) {start : UInt16} {counts : List UInt16}
    (h : start.toNat + pinCount counts ≤ 65535) :
    Tiles (start.toNat + pinCount counts) start.toNat (assign total index start counts) := by
  induction counts generalizing index start with
  | nil => exact .done
  | cons count rest ih =>
    rw [pinCount_cons, ← Nat.add_assoc] at h ⊢
    have hnext := toNat_addWords_of_le (Nat.le_trans (Nat.le_add_right _ _) h)
    have hrest := @ih (index + 1) (addWords start count)
    rw [hnext] at hrest
    exact .next ⟨_, _, start, count, _⟩ (hrest h)

namespace Tiles

variable {lo hi : Nat} {plan : List SlotAssignment}

theorem le (h : Tiles hi lo plan) : lo ≤ hi := by
  induction h with
  | done => exact Nat.le_refl _
  | next a _ ih => exact Nat.le_trans (Nat.le_add_right _ _) ih

theorem le_start (h : Tiles hi lo plan) : ∀ a ∈ plan, lo ≤ a.start.toNat := by
  induction h with
  | done => simp
  | next first _ ih =>
    intro a ha
    cases ha with
    | head => exact Nat.le_refl _
    | tail _ ha => exact Nat.le_trans (Nat.le_add_right _ _) (ih a ha)

/-- A device further on starts behind the pins of every device before it. -/
theorem pairwise (h : Tiles hi lo plan) :
    plan.Pairwise fun a b => a.start.toNat + a.count.toNat ≤ b.start.toNat := by
  induction h with
  | done => exact .nil
  | next _ hrest ih => exact .cons hrest.le_start ih

/-- Every pin in between is a pin of some device, and no other is. -/
theorem exists_pin_iff (h : Tiles hi lo plan) (pin : Nat) :
    (∃ a ∈ plan, pin ∈ a.pins) ↔ lo ≤ pin ∧ pin < hi := by
  induction h with
  | done =>
    simp only [List.not_mem_nil, false_and, exists_false, false_iff]
    omega
  | next a hrest ih =>
    have hle := hrest.le
    rw [List.exists_mem_cons_iff, ih, SlotAssignment.pins, List.mem_range'_1]
    omega

end Tiles

/-- A batch has a plan exactly if its devices can be told apart by a byte. The plan has one
assignment for each count, in order, with sums that stop at the largest word. If they do
not have to stop, every device learns the true number of pins, no two ranges of pins
overlap, they are in order, and every pin of the harness is in one of them. -/
theorem plan?_tiles (counts : List UInt16) :
    match plan? counts with
    | none => 256 < counts.length
    | some plan =>
      counts.length ≤ 256 ∧ plan.length = counts.length ∧
        (∀ (i : Nat) (a : SlotAssignment), plan[i]? = some a → Place counts i a) ∧
        (pinCount counts ≤ 65535 →
          (∀ a ∈ plan, a.total.toNat = pinCount counts) ∧
          (plan.Pairwise fun a b => a.start.toNat + a.count.toNat ≤ b.start.toNat) ∧
          ∀ pin, (∃ a ∈ plan, a.start.toNat ≤ pin ∧ pin < a.start.toNat + a.count.toNat) ↔
            pin < pinCount counts) := by
  by_cases hsize : counts.length ≤ 256
  · rw [plan?_of_size hsize]
    have hplace : ∀ (i : Nat) (a : SlotAssignment),
        (assign (total counts) 0 0 counts)[i]? = some a → Place counts i a :=
      fun _ _ => place_of_getElem? hsize
    refine ⟨hsize, length_assign _ _ _ _, hplace, fun hsum => ?_⟩
    have htiles : Tiles (pinCount counts) 0 (assign (total counts) 0 0 counts) := by
      have hzero : (0 : UInt16).toNat + pinCount counts = pinCount counts := Nat.zero_add _
      have hassign := tiles_assign (total counts) 0 (hzero.symm ▸ hsum)
      rwa [hzero] at hassign
    refine ⟨?_, htiles.pairwise, fun pin => ?_⟩
    · intro a ha
      obtain ⟨i, hi⟩ := List.mem_iff_getElem?.mp ha
      rw [(hplace i a hi).total, Nat.min_eq_right hsum]
    · simpa [SlotAssignment.pins, List.mem_range'_1] using htiles.exists_pin_iff pin
  · have hlarge : plan? counts = none := if_pos (Nat.not_le.mp hsize)
    rw [hlarge]
    exact Nat.not_le.mp hsize

/-- Pins past the largest word are cut off in every sum. -/
example : plan? [65535, 2, 0] =
    some [⟨0, 65535, 0, 65535, false⟩, ⟨1, 65535, 65535, 2, false⟩,
      ⟨2, 65535, 65535, 0, true⟩] := by
  decide

end SlotPlan

end HarnessLink
