import HarnessLink.Packet.Body

/-!
# Test reports

What a slave reports for the pins of its window. A conduction report has a row
for each of its own pins and a bit for each pin of the harness; the bit of the
row's own pin is set. A resistance report has a two-byte reading for each
channel, the channel's number in the harness. Reports are limited so that each
of them fits one frame of the link.
-/
namespace HarnessLink

/-- The largest report that fits one link frame of 256 chunks of 242 bytes: frame
header, message id, slave id, status and length take the rest. -/
def maxReportLength : Nat := 242 * 256 - (7 + 1 + 4 + 2 + 2)

namespace TestWindow

/-- Bytes of a row with one bit for each pin of the harness. -/
def rowWidth (w : TestWindow) : Nat := (w.total.toNat + 7) / 8

def conductionLength (w : TestWindow) : Nat := w.count.toNat * w.rowWidth

def resistanceLength (w : TestWindow) : Nat := 2 * w.count.toNat

/-- Set a bit of the byte at `i`, if there is one. -/
def setBit? (bytes : Bytes) (i bit : Nat) : Option Bytes :=
  bytes[i]?.map fun b => bytes.set i (b ||| UInt8.ofNat (Nat.pow 2 bit))

/-- Mark the pin of row `i`. A pin past the harness is not marked. -/
def markRow? (w : TestWindow) (report : Bytes) (i : Nat) : Option Bytes :=
  let pin := w.start.toNat + i
  if pin < w.total.toNat then setBit? report (i * w.rowWidth + pin / 8) (pin % 8) else some report

/-- The conduction report, marked row by row. None if a mark fell outside. -/
def markRows? (w : TestWindow) : Option Bytes :=
  (List.range w.count.toNat).foldlM w.markRow? (List.replicate w.conductionLength 0)

/-- A row of `width` bytes with the bit of `pin` set. A pin past the harness sets
no bit. -/
def row (width total pin : Nat) : Bytes :=
  (List.range width).map fun i =>
    if pin < total ∧ pin / 8 = i then UInt8.ofNat (Nat.pow 2 (pin % 8)) else 0

/-- The conduction report as the rows of its pins. -/
def bitmap (w : TestWindow) : Bytes :=
  (List.range w.count.toNat).flatMap fun i =>
    row w.rowWidth w.total.toNat (w.start.toNat + i)

/-- The resistance report. Numbers stop at the largest word. -/
def readings (w : TestWindow) : Bytes :=
  (List.range w.count.toNat).flatMap fun i =>
    Word.le16 (UInt16.ofNat (min 65535 (w.start.toNat + i)))

@[simp] theorem length_row (width total pin : Nat) : (row width total pin).length = width := by
  simp [row]

/-- The first rows are as long as so many rows. -/
theorem length_rows (w : TestWindow) (k : Nat) :
    ((List.range k).flatMap fun i =>
      row w.rowWidth w.total.toNat (w.start.toNat + i)).length = k * w.rowWidth := by
  simp only [List.length_flatMap, length_row, List.map_const', List.length_range,
    List.sum_replicate_nat]

theorem length_bitmap (w : TestWindow) : w.bitmap.length = w.conductionLength :=
  w.length_rows w.count.toNat

theorem length_readings (w : TestWindow) : w.readings.length = w.resistanceLength := by
  simp only [readings, resistanceLength, List.length_flatMap, Word.length_le16, List.map_const',
    List.length_range, List.sum_replicate_nat, Nat.mul_comm]

/-- The bytes around the one whose bit is set stay as they are. -/
theorem setBit?_append {front bytes : Bytes} (back : Bytes) {i : Nat} (bit : Nat)
    (hi : i < bytes.length) :
    setBit? (front ++ bytes ++ back) (front.length + i) bit =
      (setBit? bytes i bit).map fun bytes => front ++ bytes ++ back := by
  simp only [setBit?, List.append_assoc, List.getElem?_append_right (Nat.le_add_right _ _),
    Nat.add_sub_cancel_left, List.getElem?_append_left hi, Option.map_map]
  apply congrArg (Option.map · _)
  funext b
  simp [hi]

/-- A row of zeros with its pin marked. -/
theorem setBit?_zeros {width total pin : Nat} (hpin : pin < total) (hwidth : pin / 8 < width) :
    setBit? (List.replicate width 0) (pin / 8) (pin % 8) = some (row width total pin) := by
  have hzero : (List.replicate width (0 : UInt8))[pin / 8]? = some 0 := by simp [hwidth]
  rw [setBit?, hzero, Option.map_some]
  apply congrArg some
  apply List.ext_getElem
  · simp
  · intro i h₁ h₂
    simp [row, List.getElem_set, hpin]

theorem row_of_past {total pin : Nat} (h : total ≤ pin) (width : Nat) :
    row width total pin = List.replicate width 0 := by
  simp [row, Nat.not_lt.mpr h, List.map_const']

/-- Marking a row changes its zeros into the row of its pin. -/
theorem markRow?_zeros (w : TestWindow) {front : Bytes} {i : Nat}
    (hfront : front.length = i * w.rowWidth) (back : Bytes) :
    w.markRow? (front ++ List.replicate w.rowWidth 0 ++ back) i =
      some (front ++ row w.rowWidth w.total.toNat (w.start.toNat + i) ++ back) := by
  rw [markRow?]
  split
  · next hpin =>
    have hwidth : (w.start.toNat + i) / 8 < w.rowWidth := by
      rw [rowWidth]
      omega
    rw [← hfront, setBit?_append back _ (by simpa using hwidth), setBit?_zeros hpin hwidth,
      Option.map_some]
  · next hpin => rw [row_of_past (Nat.not_lt.mp hpin)]

/-- The first rows are marked and the others are zeros. -/
theorem markRows_front (w : TestWindow) {k : Nat} (hk : k ≤ w.count.toNat) :
    (List.range k).foldlM w.markRow? (List.replicate w.conductionLength 0) =
      some (((List.range k).flatMap fun i =>
          row w.rowWidth w.total.toNat (w.start.toNat + i)) ++
        List.replicate ((w.count.toNat - k) * w.rowWidth) 0) := by
  induction k with
  | zero => simp [conductionLength]
  | succ k ih =>
    have hleft : w.count.toNat - k = w.count.toNat - (k + 1) + 1 := by omega
    have hzeros : List.replicate ((w.count.toNat - k) * w.rowWidth) (0 : UInt8) =
        List.replicate w.rowWidth 0 ++
          List.replicate ((w.count.toNat - (k + 1)) * w.rowWidth) 0 := by
      rw [List.replicate_append_replicate, hleft, Nat.succ_mul, Nat.add_comm]
    rw [List.range_succ, List.foldlM_append, ih (by omega), hzeros, ← List.append_assoc]
    simp only [Option.bind_eq_bind, Option.bind_some, List.foldlM_cons, List.foldlM_nil,
      w.markRow?_zeros (w.length_rows k), List.flatMap_append, List.flatMap_singleton]
    rfl

/-- No mark falls outside the report, and the marks make up its rows. -/
theorem markRows?_eq (w : TestWindow) : w.markRows? = some w.bitmap := by
  rw [markRows?, markRows_front w (Nat.le_refl _), Nat.sub_self, Nat.zero_mul,
    List.replicate_zero, List.append_nil, bitmap]

theorem isSome_markRows? (w : TestWindow) : w.markRows?.isSome = true := by
  rw [markRows?_eq]
  rfl

end TestWindow

end HarnessLink
