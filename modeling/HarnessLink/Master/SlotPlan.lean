import HarnessLink.Bytes
import HarnessLink.Json.Basic

/-!
# Slot plans

A batch of devices shares one numbering of harness pins. Each device gets the
next time slot and the next pins, in the order of the batch, and every device
learns how many pins there are in all. Slots are one byte, so a batch has at
most 256 devices; numbers stop at the largest word.
-/
namespace HarnessLink

/-- The place of one device in a batch. -/
structure SlotAssignment where
  timeSlot : UInt8
  total : UInt16
  /-- The first pin of the device. -/
  start : UInt16
  count : UInt16
  isLast : Bool
  deriving DecidableEq

def SlotAssignment.json (a : SlotAssignment) : Json :=
  .object [("time_slot", .byte a.timeSlot), ("total", .word a.total), ("start", .word a.start),
    ("count", .word a.count), ("is_last", .boolean a.isLast)]

namespace SlotPlan

def maxBatch : Nat := 256

/-- A sum that stops at the largest word. -/
def addWords (a b : UInt16) : UInt16 := UInt16.ofNat (min 65535 (a.toNat + b.toNat))

def total (counts : List UInt16) : UInt16 := counts.foldl addWords 0

/-- The slot of this number, as far as a byte can count it. -/
def slot? (index : Nat) : Option UInt8 := if index < 256 then some (UInt8.ofNat index) else none

/-- Assignments from slot `index` and pin `start` on, up to the device at `last`. None if
the slots run out. -/
def assign? (total : UInt16) (last : Nat) :
    Nat → UInt16 → List UInt16 → Option (List SlotAssignment)
  | _, _, [] => some []
  | index, start, count :: rest => do
    let timeSlot ← slot? index
    let later ← assign? total last (index + 1) (addWords start count) rest
    return ⟨timeSlot, total, start, count, index = last⟩ :: later

/-- The assignments of a batch, in its order; none when it is too large. -/
def plan? (counts : List UInt16) : Option (List SlotAssignment) :=
  if maxBatch < counts.length then none
  else assign? (total counts) (counts.length - 1) 0 0 counts

/-- Assignments from slot `index` and pin `start` on, where slots do not run out. -/
def assign (total : UInt16) : Nat → UInt16 → List UInt16 → List SlotAssignment
  | _, _, [] => []
  | index, start, count :: rest =>
    ⟨UInt8.ofNat index, total, start, count, rest.isEmpty⟩ ::
      assign total (index + 1) (addWords start count) rest

@[simp] theorem length_assign (total : UInt16) (index : Nat) (start : UInt16)
    (counts : List UInt16) : (assign total index start counts).length = counts.length := by
  induction counts generalizing index start with
  | nil => rfl
  | cons count rest ih => simp [assign, ih]

/-- Slots do not run out in a batch that ends within a byte. -/
theorem assign?_eq (total : UInt16) {last index : Nat} (start : UInt16) {counts : List UInt16}
    (hfits : index + counts.length ≤ 256) (hlast : last = index + (counts.length - 1)) :
    assign? total last index start counts = some (assign total index start counts) := by
  induction counts generalizing index start with
  | nil => rfl
  | cons count rest ih =>
    simp only [List.length_cons] at hfits hlast
    have hslot : slot? index = some (UInt8.ofNat index) := if_pos (by omega)
    have hisLast : decide (index = last) = rest.isEmpty := by cases rest <;> simp [hlast]
    have hlater : assign? total last (index + 1) (addWords start count) rest =
        some (assign total (index + 1) (addWords start count) rest) := by
      cases rest with
      | nil => rfl
      | cons next rest =>
        simp only [List.length_cons] at hfits hlast ih
        exact ih _ (by omega) (by omega)
    rw [assign?, hslot, hlater, hisLast]
    rfl

/-- A batch that is not too large has a plan. -/
theorem plan?_of_size {counts : List UInt16} (h : counts.length ≤ maxBatch) :
    plan? counts = some (assign (total counts) 0 0 counts) := by
  rw [plan?, if_neg (Nat.not_lt.mpr h)]
  exact assign?_eq (total counts) 0 (by rwa [Nat.zero_add]) (Nat.zero_add _).symm

end SlotPlan

end HarnessLink
