import HarnessLink.Cli.Run
import HarnessLink.Proofs.Packet.Layouts
import HarnessLink.Proofs.Packet.Spelling

/-!
# Texts that spell a frame

Which texts are read as the bytes of a frame. The reader sees the bytes of a text and takes two of
them at a time, so it could cut a character in two. It never reads such a piece: a byte below 128 is
a character of its own, and only such bytes are separators, digits, signs or the letters of a mark.
A frame is spelled by two characters for each byte, each pair a number of its own, when separators
and one mark in front are left out. Digits alone spell a frame in this way, and every other
spelling of one has a plus sign.
-/
namespace HarnessLink

/-! ## Bytes of characters -/

namespace Text

/-- The bytes of characters, one character after the other. -/
def utf8 (cs : List Char) : Bytes := cs.flatMap String.utf8EncodeChar

@[simp] theorem utf8_cons (c : Char) (cs : List Char) :
    utf8 (c :: cs) = String.utf8EncodeChar c ++ utf8 cs := List.flatMap_cons

theorem utf8_toList (s : String) : s.toUTF8.data.toList = utf8 s.toList := by
  rw [String.toUTF8, ← String.utf8Encode_toList, List.utf8Encode, List.data_toByteArray]
  rfl

theorem encode_narrow {c : Char} (h : c.toNat < 128) :
    String.utf8EncodeChar c = [UInt8.ofNat c.toNat] :=
  if_pos (Nat.le_of_lt_succ h)

/-- A character that takes up more than one byte has no byte that is a character of its own. -/
theorem encode_wide {c : Char} (h : 128 ≤ c.toNat) :
    String.utf8EncodeChar c ≠ [] ∧ ∀ b ∈ String.utf8EncodeChar c, 128 ≤ b.toNat := by
  have hwide : ¬ c.val.toNat ≤ 127 := Nat.not_le.mpr h
  simp only [String.utf8EncodeChar, if_neg hwide]
  split_ifs
  all_goals
    refine ⟨List.cons_ne_nil _ _, ?_⟩
    simp only [List.mem_cons, List.not_mem_nil, or_false, forall_eq_or_imp, forall_eq,
      UInt8.toNat_ofNat']
    omega

/-- The byte of a narrow character tells the character. -/
theorem ofNat_narrow {c : Char} (h : c.toNat < 128) :
    Char.ofNat (UInt8.ofNat c.toNat).toNat = c := by
  rw [UInt8.toNat_ofNat', Nat.mod_eq_of_lt (Nat.lt_trans h (by decide)), Char.ofNat_toNat]

theorem utf8_eq_nil {cs : List Char} (h : utf8 cs = []) : cs = [] := by
  cases cs with
  | nil => rfl
  | cons c cs =>
    have hsize := c.utf8Size_pos
    rw [utf8_cons, List.append_eq_nil_iff, ← List.length_eq_zero_iff,
      String.length_utf8EncodeChar] at h
    omega

/-- A first byte below 128 is the first character. -/
theorem exists_of_utf8_eq_cons {cs : List Char} {b : UInt8} {bs : Bytes} (h : utf8 cs = b :: bs)
    (hb : b.toNat < 128) : ∃ rest, cs = Char.ofNat b.toNat :: rest ∧ bs = utf8 rest := by
  cases cs with
  | nil => cases h
  | cons c rest =>
    rw [utf8_cons] at h
    rcases Nat.lt_or_ge c.toNat 128 with hc | hc
    · rw [encode_narrow hc] at h
      obtain ⟨rfl, rfl⟩ := List.cons.inj h
      exact ⟨rest, by rw [ofNat_narrow hc], rfl⟩
    · obtain ⟨hne, hbytes⟩ := encode_wide hc
      obtain ⟨first, more, hfirst⟩ := List.exists_cons_of_ne_nil hne
      rw [hfirst] at h hbytes
      obtain ⟨rfl, -⟩ := List.cons.inj h
      exact absurd hb (Nat.not_lt.mpr (hbytes first List.mem_cons_self))

theorem toNat_ofByte (b : UInt8) : (Char.ofNat b.toNat).toNat = b.toNat := by
  have hb := b.toNat_lt
  rw [Char.ofNat, dif_pos (Or.inl (by omega))]
  rfl

/-- Only narrow characters spell a byte. -/
theorem Hex.narrow_of_byte? {a b : Char} {x : UInt8} (h : byte? a b = some x) :
    a.toNat < 128 ∧ b.toNat < 128 := by
  have hcount := byteCount_of_byte? h []
  have ha := a.utf8Size_pos
  have hb := b.utf8Size_pos
  simp only [byteCount_cons, byteCount_nil] at hcount
  have hnarrow : ∀ {c : Char}, c.utf8Size = 1 → c.toNat < 128 := fun hc =>
    Nat.lt_succ_of_le (UInt32.le_iff_toNat_le.mp (Char.utf8Size_eq_one_iff.mp hc))
  exact ⟨hnarrow (by omega), hnarrow (by omega)⟩

end Text

namespace Cli

open Text

namespace FrameText

/-! ## Separators and the mark -/

/-- Characters that may stand between digits. -/
def isGap (c : Char) : Bool := [' ', '\t', '\n', '\x0c', '\r', ':', '-'].contains c

/-- Characters without the mark that may stand in front of them. -/
def unmarked : List Char → List Char
  | '0' :: 'x' :: rest => rest
  | cs => cs

/-- The characters of a text that have to spell the frame. -/
def significant (cs : List Char) : List Char := unmarked (cs.filter fun c => !isGap c)

theorem isSeparator_narrow : ∀ n < 128, isSeparator (UInt8.ofNat n) = isGap (Char.ofNat n) := by
  decide

theorem isSeparator_wide {b : UInt8} (h : 128 ≤ b.toNat) : isSeparator b = false := by
  cases hb : isSeparator b with
  | false => rfl
  | true =>
    simp only [isSeparator, Bool.or_eq_true, decide_eq_true_eq] at hb
    rcases hb with (((((rfl | rfl) | rfl) | rfl) | rfl) | rfl) | rfl
    all_goals exact absurd h (by decide)

theorem isGap_wide {c : Char} (h : 128 ≤ c.toNat) : isGap c = false := by
  cases hc : isGap c with
  | false => rfl
  | true =>
    simp only [isGap, List.contains_iff_mem, List.mem_cons, List.not_mem_nil, or_false] at hc
    rcases hc with rfl | rfl | rfl | rfl | rfl | rfl | rfl
    all_goals exact absurd h (by decide)

/-- Separators are left out of the bytes as they are left out of the characters. -/
theorem filter_utf8 (cs : List Char) :
    (utf8 cs).filter (fun b => !isSeparator b) = utf8 (cs.filter fun c => !isGap c) := by
  induction cs with
  | nil => rfl
  | cons c cs ih =>
    rw [utf8_cons, List.filter_append, ih]
    rcases Nat.lt_or_ge c.toNat 128 with hc | hc
    · have hsame := isSeparator_narrow c.toNat hc
      rw [Char.ofNat_toNat] at hsame
      rw [encode_narrow hc]
      cases hgap : isGap c with
      | true => simp [hsame, hgap]
      | false => simp [hsame, hgap, encode_narrow hc]
    · have hkept : (String.utf8EncodeChar c).filter (fun b => !isSeparator b) =
          String.utf8EncodeChar c :=
        List.filter_eq_self.mpr fun b hb => by rw [isSeparator_wide ((encode_wide hc).2 b hb)]; rfl
      rw [hkept, List.filter_cons_of_pos (by rw [isGap_wide hc]; rfl), utf8_cons]

/-- The mark is dropped from the bytes as it is dropped from the characters. -/
theorem dropMark_utf8 (cs : List Char) : dropMark (utf8 cs) = utf8 (unmarked cs) := by
  unfold dropMark
  split
  · next rest hbytes =>
    obtain ⟨more, rfl, hmore⟩ := exists_of_utf8_eq_cons hbytes (by decide)
    obtain ⟨last, rfl, rfl⟩ := exists_of_utf8_eq_cons hmore.symm (by decide)
    rfl
  · next hother =>
    unfold unmarked
    split
    · next rest => exact absurd rfl (hother (utf8 rest))
    · rfl

theorem digits_eq (text : String) : digits text = utf8 (significant text.toList) := by
  rw [digits, utf8_toList, filter_utf8, dropMark_utf8, significant]

/-! ## Pairs -/

/-- Each two characters are a number, the byte at their place. -/
def Pairs (pairs : List (List Char)) (frame : Bytes) : Prop :=
  List.Forall₂ (fun pair b => pair.length = 2 ∧ Hex.Spells pair b.toNat) pairs frame

/-- What is read in pairs, with no byte left over, are pairs of characters. -/
theorem pairs_of_readPairs : ∀ {cs : List Char} {frame : Bytes} (bs : Bytes), utf8 cs = bs →
    bs.length % 2 = 0 → readPairs bs = .ok frame →
      ∃ pairs, cs = pairs.flatten ∧ Pairs pairs frame
  | _, _, [], hbytes, _, h => by
    cases h
    exact ⟨[], utf8_eq_nil hbytes, .nil⟩
  | _, _, [_], _, heven, _ => by cases heven
  | cs, frame, a :: b :: bs, hbytes, heven, h => by
    rw [readPairs] at h
    split at h
    · next x hx =>
      obtain ⟨frame, hread, rfl⟩ := ok_of_map h
      obtain ⟨ha, hb⟩ := Hex.narrow_of_byte? hx
      rw [toNat_ofByte] at ha hb
      obtain ⟨more, rfl, hmore⟩ := exists_of_utf8_eq_cons hbytes ha
      obtain ⟨rest, rfl, hrest⟩ := exists_of_utf8_eq_cons hmore.symm hb
      rw [List.length_cons, List.length_cons] at heven
      obtain ⟨pairs, rfl, hpairs⟩ := pairs_of_readPairs bs hrest.symm (by omega) hread
      exact ⟨[Char.ofNat a.toNat, Char.ofNat b.toNat] :: pairs, rfl,
        .cons ⟨rfl, Hex.byte?_eq_some_iff.mp hx⟩ hpairs⟩
    · cases h

/-- Pairs of characters take up two bytes each and are read one after the other. -/
theorem readPairs_of_pairs {pairs : List (List Char)} {frame : Bytes} (h : Pairs pairs frame) :
    (utf8 pairs.flatten).length = 2 * frame.length ∧
      readPairs (utf8 pairs.flatten) = .ok frame := by
  induction h with
  | nil => exact ⟨rfl, rfl⟩
  | @cons pair b pairs frame hpair _ ih =>
    obtain ⟨hlength, hspelled⟩ := hpair
    obtain ⟨c, d, rfl⟩ := List.length_eq_two.mp hlength
    obtain ⟨hcount, hread⟩ := ih
    have hbyte := Hex.byte?_eq_some_iff.mpr hspelled
    obtain ⟨hc, hd⟩ := Hex.narrow_of_byte? hbyte
    have hbytes : utf8 (([c, d] :: pairs).flatten) =
        UInt8.ofNat c.toNat :: UInt8.ofNat d.toNat :: utf8 pairs.flatten := by
      rw [List.flatten_cons, List.cons_append, List.cons_append, List.nil_append, utf8_cons,
        utf8_cons, encode_narrow hc, encode_narrow hd]
      rfl
    rw [hbytes]
    constructor
    · rw [List.length_cons, List.length_cons, List.length_cons, hcount]
      omega
    · rw [readPairs, ofNat_narrow hc, ofNat_narrow hd, hbyte, hread]
      rfl

/-- The text has two characters for each byte of the frame, which has one at least. -/
def SpelledBy (frame : Bytes) (text : String) : Prop :=
  frame ≠ [] ∧ ∃ pairs, significant text.toList = pairs.flatten ∧ Pairs pairs frame

theorem read_eq_ok_iff {text : String} {frame : Bytes} :
    read text = .ok frame ↔ SpelledBy frame text := by
  unfold read SpelledBy
  rw [digits_eq]
  constructor
  · intro h
    dsimp only at h
    split at h
    · cases h
    split at h
    · cases h
    · next hne heven =>
      obtain ⟨pairs, hchars, hpairs⟩ := pairs_of_readPairs _ rfl (by omega) h
      refine ⟨?_, pairs, hchars, hpairs⟩
      rintro rfl
      cases hpairs
      rw [hchars] at hne
      exact hne rfl
  · rintro ⟨hne, pairs, hchars, hpairs⟩
    obtain ⟨hlength, hread⟩ := readPairs_of_pairs hpairs
    have hpositive := List.length_pos_of_ne_nil hne
    have hnonempty : (utf8 pairs.flatten).isEmpty = false := by
      rw [List.isEmpty_eq_false_iff, ← List.length_pos_iff_ne_nil]
      omega
    dsimp only
    rw [hchars, hnonempty, if_neg (by decide), if_neg (by omega), hread]

/-! ## Digits alone -/

/-- The bytes that digits spell, two for each byte and the high one first. -/
def joined : List Nat → Bytes
  | high :: low :: rest => UInt8.ofNat (16 * high + low) :: joined rest
  | _ => []

/-- The text is an even number of digits, of either case and two at least, when separators and a
mark in front are left out. -/
def HasDigits (text : String) (ds : List Nat) : Prop :=
  ds ≠ [] ∧ ds.length % 2 = 0 ∧ List.Forall₂ Hex.Denotes (significant text.toList) ds

/-- An even number of digits are pairs. -/
theorem pairs_of_denotes : ∀ {cs : List Char} (ds : List Nat), ds.length % 2 = 0 →
    List.Forall₂ Hex.Denotes cs ds → ∃ pairs, cs = pairs.flatten ∧ Pairs pairs (joined ds)
  | _, [], _, h => ⟨[], List.forall₂_nil_right_iff.mp h, .nil⟩
  | _, [_], heven, _ => by cases heven
  | _, m :: n :: ds, heven, h => by
    obtain _ | ⟨hc, _ | ⟨hd, hrest⟩⟩ := h
    rw [List.length_cons, List.length_cons] at heven
    obtain ⟨pairs, rfl, hpairs⟩ := pairs_of_denotes ds (by omega) hrest
    have hbyte := Hex.byte?_of_denotes hc hd
    exact ⟨_ :: pairs, rfl, .cons ⟨rfl, Hex.byte?_eq_some_iff.mp hbyte⟩ hpairs⟩

/-- Pairs without a plus sign are digits. -/
theorem denotes_of_pairs {pairs : List (List Char)} {frame : Bytes} (h : Pairs pairs frame)
    (hplain : '+' ∉ pairs.flatten) :
    ∃ ds, ds.length = 2 * frame.length ∧ List.Forall₂ Hex.Denotes pairs.flatten ds ∧
      frame = joined ds := by
  induction h with
  | nil => exact ⟨[], rfl, .nil, rfl⟩
  | @cons pair b pairs frame hpair _ ih =>
    obtain ⟨hlength, hspelled⟩ := hpair
    obtain ⟨c, d, rfl⟩ := List.length_eq_two.mp hlength
    rw [List.flatten_cons, List.mem_append, not_or] at hplain
    obtain ⟨hfirst, hrest⟩ := hplain
    obtain ⟨ds, hcount, hdigits, rfl⟩ := ih hrest
    have hunsigned : c ≠ '+' := by
      rintro rfl
      exact hfirst List.mem_cons_self
    obtain ⟨m, n, hm, hn, hvalue⟩ := hspelled.pair.resolve_right hunsigned
    refine ⟨m :: n :: ds, ?_, .cons hm (.cons hn hdigits), ?_⟩
    · rw [List.length_cons, List.length_cons, List.length_cons, hcount]
      omega
    · rw [joined, ← hvalue, UInt8.ofNat_toNat]

/-- Digits spell the bytes that they are joined to. -/
theorem HasDigits.spelledBy {text : String} {ds : List Nat} (h : HasDigits text ds) :
    SpelledBy (joined ds) text := by
  obtain ⟨hne, heven, hdigits⟩ := h
  obtain ⟨pairs, hchars, hpairs⟩ := pairs_of_denotes ds heven hdigits
  refine ⟨?_, pairs, hchars, hpairs⟩
  match ds, hne, heven with
  | [_], _, heven => cases heven
  | _ :: _ :: _, _, _ => exact List.cons_ne_nil _ _

/-- A spelling without a plus sign is digits. -/
theorem SpelledBy.hasDigits {frame : Bytes} {text : String} (h : SpelledBy frame text)
    (hplain : '+' ∉ significant text.toList) : ∃ ds, HasDigits text ds ∧ frame = joined ds := by
  obtain ⟨hne, pairs, hchars, hpairs⟩ := h
  rw [hchars] at hplain
  obtain ⟨ds, hcount, hdigits, rfl⟩ := denotes_of_pairs hpairs hplain
  have hpositive := List.length_pos_of_ne_nil hne
  refine ⟨ds, ⟨?_, by omega, by rwa [hchars]⟩, rfl⟩
  rintro rfl
  exact hne rfl

/-! ## Frames that were written -/

theorem pairs_bytes (frame : Bytes) : Pairs (frame.map Hex.byte) frame := by
  induction frame with
  | nil => exact .nil
  | cons b frame ih => exact .cons ⟨rfl, Hex.byte?_eq_some_iff.mp (Hex.byte?_digits b)⟩ ih

/-- Written bytes have no mark in front: its second letter is no digit. -/
theorem unmarked_bytes (frame : Bytes) : unmarked (Hex.bytes frame) = Hex.bytes frame := by
  unfold unmarked
  split
  · next rest hmark =>
    cases frame with
    | nil => cases hmark
    | cons b frame =>
      have hx : Hex.digit b.toNat = 'x' := (List.cons.inj (List.cons.inj hmark).2).1
      have hdigit := (Hex.denotes_digit b.toNat).digit?
      rw [hx] at hdigit
      cases hdigit
  · rfl

/-- The digits of a frame spell it, with any separators between them. -/
theorem spelledBy_of_write {frame : Bytes} {text : String} (hne : frame ≠ [])
    (h : text.toList.filter (fun c => !isGap c) = (write frame).toList) :
    SpelledBy frame text := by
  refine ⟨hne, frame.map Hex.byte, ?_, pairs_bytes frame⟩
  rw [significant, h, write, String.toList_ofList, unmarked_bytes, Hex.bytes, List.flatMap_def]

theorem frameOf_eq_ok_iff {text : String} {frame : Bytes} :
    frameOf text = .ok frame ↔ SpelledBy frame text := by
  rw [← read_eq_ok_iff, frameOf]
  cases read text <;> simp [Except.mapError]

/-- An even number of digits, two at least, are read as the bytes that they spell, with any
separators between them and one mark in front. A text that is read as a frame is such digits,
unless plus signs stand in front of the digits of some bytes, and each text that is not read is
refused as bad data. The digits of a frame are read as that frame, wherever separators are put
between them. -/
theorem frameOf_digits (text : String) :
    (∀ ds, HasDigits text ds → frameOf text = .ok (joined ds)) ∧
    (∀ frame, frameOf text = .ok frame → (∃ ds, HasDigits text ds ∧ frame = joined ds) ∨
      '+' ∈ significant text.toList ∧ SpelledBy frame text) ∧
    (∀ failure, frameOf text = .error failure → failure.code = Exit.badData) ∧
    ∀ frame, frame ≠ [] → text.toList.filter (fun c => !isGap c) = (write frame).toList →
      frameOf text = .ok frame := by
  refine ⟨fun ds h => frameOf_eq_ok_iff.mpr h.spelledBy, fun frame hread => ?_,
    fun failure hrefused => ?_, fun frame hne h => frameOf_eq_ok_iff.mpr (spelledBy_of_write hne h)⟩
  · have hspelled := frameOf_eq_ok_iff.mp hread
    by_cases hplus : '+' ∈ significant text.toList
    · exact Or.inr ⟨hplus, hspelled⟩
    · exact Or.inl (hspelled.hasDigits hplus)
  · unfold frameOf at hrefused
    cases hread : read text with
    | ok frame =>
      rw [hread] at hrefused
      cases hrefused
    | error fault =>
      rw [hread] at hrefused
      obtain rfl := Except.error.inj hrefused
      rfl

/-- Digits of both cases behind a mark, with a separator in the middle of a byte. -/
theorem frameOf_digits_marked :
    HasDigits "0x aB:c\n-D" [10, 11, 12, 13] ∧ frameOf "0x aB:c\n-D" = .ok [0xAB, 0xCD] := by
  have hchars : significant "0x aB:c\n-D".toList = ['a', 'B', 'c', 'D'] := by decide +kernel
  have hdigits : HasDigits "0x aB:c\n-D" [10, 11, 12, 13] := by
    refine ⟨by decide, by decide, ?_⟩
    rw [hchars]
    exact .cons (Hex.denotes_digitLower 10) (.cons (Hex.denotes_digit 11)
      (.cons (Hex.denotes_digitLower 12) (.cons (Hex.denotes_digit 13) .nil)))
  exact ⟨hdigits, (frameOf_digits _).1 _ hdigits⟩

/-- A plus sign takes the place of a digit, so a frame with a digit that is missing is read. -/
theorem frameOf_plus :
    frameOf "ABCD+000000A0000FFFFFFFF0000000000" =
      .ok [0xAB, 0xCD, 0, 0, 0, 0x0A, 0, 0, 0xFF, 0xFF, 0xFF, 0xFF, 0, 0, 0, 0, 0] ∧
      ¬ ∃ ds, HasDigits "ABCD+000000A0000FFFFFFFF0000000000" ds := by
  refine ⟨by decide +kernel, ?_⟩
  rintro ⟨ds, -, -, hdigits⟩
  have hplus : '+' ∈ significant "ABCD+000000A0000FFFFFFFF0000000000".toList := by decide +kernel
  exact Hex.forall_of_denotes Hex.Denotes.ne_plus hdigits _ hplus rfl

end FrameText

end Cli

end HarnessLink
