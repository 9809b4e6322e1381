import HarnessLink.Proofs.Slave.Coverage
import HarnessLink.Proofs.Slave.Reports

/-!
# The bits of a conduction report

A slave holds any window whose report fits the link, not only those of a slot plan: its pins
may lie past the harness, in part or all of them, and the harness may have no pins. The
report has a row for each pin of the window nonetheless, and the only bit that a row can
have is that of its pin.
-/
namespace HarnessLink

/-- Bytes that are all zero have no bit set. -/
theorem Bytes.bit_zeros (n k : Nat) : Bytes.bit (List.replicate n 0) k = false := by
  rw [bit, List.getElem?_replicate]
  split <;> exact Nat.zero_testBit _

namespace TestWindow

/-- A row has the bit of its pin set if the harness has the pin, and no other. -/
theorem bit_row_eq (total pin k : Nat) :
    (row ((total + 7) / 8) total pin).bit k = decide (k = pin ∧ k < total) := by
  by_cases h : pin < total
  · have hiff : k = pin ↔ k = pin ∧ k < total := ⟨fun hk => ⟨hk, hk ▸ h⟩, And.left⟩
    rw [bit_row h, decide_eq_decide.mpr hiff]
  · have hnot : ¬(k = pin ∧ k < total) := fun hk => h (hk.1 ▸ hk.2)
    rw [row_of_past (Nat.not_lt.mp h), Bytes.bit_zeros, decide_eq_false hnot]

/-- The bytes of a row, in the report. -/
theorem drop_take_bitmap (w : TestWindow) {r : Nat} (hr : r < w.count.toNat) :
    (w.bitmap.drop (r * w.rowWidth)).take w.rowWidth =
      row w.rowWidth w.total.toNat (w.start.toNat + r) := by
  have hlength : r < (List.range w.count.toNat).length := by rwa [List.length_range]
  have hrange : List.range w.count.toNat =
      List.range r ++ r :: (List.range w.count.toNat).drop (r + 1) := by
    calc List.range w.count.toNat
        = (List.range w.count.toNat).take r ++ (List.range w.count.toNat).drop r :=
          (List.take_append_drop r _).symm
      _ = _ := by
          rw [List.take_range, Nat.min_eq_left (Nat.le_of_lt hr),
            List.drop_eq_getElem_cons hlength, List.getElem_range]
  rw [bitmap, hrange, List.flatMap_append, List.flatMap_cons,
    List.drop_left' (w.length_rows r), List.take_left' (length_row _ _ _)]

end TestWindow

namespace SlaveNode

/-- A slave can hold a window if its report fits the link, and no other window. -/
theorem holds_iff (w : TestWindow) :
    (∃ n : SlaveNode, n.Reachable ∧ n.conduction? = some w) ↔
      w.conductionLength ≤ maxReportLength := by
  constructor
  · rintro ⟨n, hn, hw⟩
    exact hn.reportsFit.conduction w hw
  · intro h
    refine ⟨_, (Reachable.new ⟨0⟩).process
      ⟨.device ⟨0⟩, .masterToSlave (.configureConduction w)⟩, ?_⟩
    rw [process_order, obey_conduction h]

/-- The report of a window that a slave holds. -/
theorem Reachable.bitmap_eq {n : SlaveNode} (hn : n.Reachable) {w : TestWindow}
    (hw : n.conduction? = some w) : n.bitmap = w.bitmap := by
  simp only [SlaveNode.bitmap_eq, hw, if_pos (hn.reportsFit.conduction w hw)]

/-- A slave can hold exactly the windows whose report fits the link. None of the marks of
such a window falls outside its report. The report has a row for each pin of the window,
with a bit for each pin of the harness, and bit `b` of row `r` is set exactly if the row is
that of pin `b` and the harness has this pin. -/
theorem bitmap_exact :
    (∀ w : TestWindow, (∃ n : SlaveNode, n.Reachable ∧ n.conduction? = some w) ↔
      w.count.toNat * ((w.total.toNat + 7) / 8) ≤ maxReportLength) ∧
    ∀ n : SlaveNode, n.Reachable → ∀ w : TestWindow, n.conduction? = some w →
      let width := (w.total.toNat + 7) / 8
      w.markRows? = some n.bitmap ∧ n.bitmap.length = w.count.toNat * width ∧
      ∀ r < w.count.toNat, ∀ b,
        Bytes.bit ((n.bitmap.drop (r * width)).take width) b =
          decide (b = w.start.toNat + r ∧ b < w.total.toNat) := by
  refine ⟨holds_iff, fun n hn w hw => ?_⟩
  intro width
  rw [hn.bitmap_eq hw]
  refine ⟨w.markRows?_eq, w.length_bitmap, fun r hr b => ?_⟩
  have hrow : (w.bitmap.drop (r * width)).take width =
      TestWindow.row width w.total.toNat (w.start.toNat + r) := w.drop_take_bitmap hr
  rw [hrow, TestWindow.bit_row_eq]

/-- Four pins from the last but one that a word can tell on, in the largest harness: one of
them is in the harness, the others are past it. -/
theorem bitmap_exact_past_the_end :
    ∃ n : SlaveNode, n.Reachable ∧ n.conduction? = some ⟨0, 10, 65535, 65534, 4⟩ ∧
      n.bitmap.length = 32768 ∧
      (∀ b, Bytes.bit (n.bitmap.take 8192) b = decide (b = 65534)) ∧
      ∀ r, 0 < r → r < 4 → ∀ b, Bytes.bit ((n.bitmap.drop (r * 8192)).take 8192) b = false := by
  obtain ⟨n, hn, hw⟩ := (bitmap_exact.1 ⟨0, 10, 65535, 65534, 4⟩).mpr (by decide)
  obtain ⟨-, hlength, hbits⟩ := bitmap_exact.2 n hn _ hw
  refine ⟨n, hn, hw, hlength, fun b => ?_, fun r hpos hr b => ?_⟩
  · refine (hbits 0 (by decide) b).trans (decide_eq_decide.mpr ⟨And.left, fun hb => ⟨hb, ?_⟩⟩)
    exact hb ▸ (by decide : 65534 < 65535)
  · refine (hbits r hr b).trans (decide_eq_false fun hb => ?_)
    have hpast : b = 65534 + r ∧ b < 65535 := hb
    omega

end SlaveNode

end HarnessLink
