import HarnessLink.Packet.Error
import Mathlib.Data.List.Forall2

/-!
# Texts of device ids

The text of a device id reads back as the id, so two ids with one text are the same. Both come
from the digits: a digit of either case reads as its value, and none of them is a blank, a
separator or a sign, so neither the trimming nor the dropping of separators takes one away.
-/
namespace HarnessLink

/-! ## Digits -/

namespace Text

namespace Hex

/-- The character is the digit of a value, in either case. -/
def Denotes (c : Char) (d : Nat) : Prop := d < 16 ∧ (c = digit d ∨ c = digitLower d)

theorem digit_mod (n : Nat) : digit (n % 16) = digit n := by
  simp only [digit, Nat.mod_mod]

theorem denotes_digit (n : Nat) : Denotes (digit n) (n % 16) :=
  ⟨Nat.mod_lt n (by decide), Or.inl (digit_mod n).symm⟩

theorem denotes_digitLower (n : Nat) : Denotes (digitLower n) (n % 16) :=
  ⟨Nat.mod_lt n (by decide), Or.inr (by simp only [digitLower, Nat.mod_mod])⟩

namespace Denotes

variable {c : Char} {d : Nat}

/-- What holds of the thirty-two digits holds of every digit. -/
theorem elim {P : Char → Nat → Prop} (h : Denotes c d)
    (hcapital : ∀ n < 16, P (digit n) n) (hlower : ∀ n < 16, P (digitLower n) n) : P c d := by
  obtain ⟨hd, rfl | rfl⟩ := h
  · exact hcapital d hd
  · exact hlower d hd

theorem digit? (h : Denotes c d) : Hex.digit? c = some d :=
  h.elim (P := fun c d => Hex.digit? c = some d) (by decide) (by decide)

theorem not_blank (h : Denotes c d) : isBlank c = false :=
  h.elim (P := fun c _ => isBlank c = false) (by decide) (by decide)

theorem not_separator (h : Denotes c d) : DeviceId.isSeparator c = false :=
  h.elim (P := fun c _ => DeviceId.isSeparator c = false) (by decide) (by decide)

theorem ne_plus (h : Denotes c d) : c ≠ '+' :=
  h.elim (P := fun c _ => c ≠ '+') (by decide) (by decide)

end Denotes

/-- The number that digits stand for, most significant first. -/
def valueOf (ds : List Nat) : Nat := ds.foldl (fun n d => 16 * n + d) 0

/-- Digits are read by their values, behind any number that stands before them. -/
theorem digits?_of_denotes {cs : List Char} {ds : List Nat} (h : List.Forall₂ Denotes cs ds)
    (n : Nat) : digits? cs n = some (ds.foldl (fun n d => 16 * n + d) n) := by
  induction h generalizing n with
  | nil => rfl
  | cons hc _ ih =>
    simp only [digits?, hc.digit?, Option.bind_some, ih, List.foldl_cons]

/-- What holds of each digit holds of all characters that are digits. -/
theorem forall_of_denotes {P : Char → Prop} (hP : ∀ {c d}, Denotes c d → P c) {cs : List Char}
    {ds : List Nat} (h : List.Forall₂ Denotes cs ds) : ∀ c ∈ cs, P c :=
  ((List.forall₂_and_left cs ds).mp (h.imp fun _ _ hc => ⟨hP hc, hc⟩)).1

theorem not_blank_of_denotes {cs : List Char} {ds : List Nat} (h : List.Forall₂ Denotes cs ds) :
    ∀ c ∈ cs, isBlank c = false :=
  forall_of_denotes Denotes.not_blank h

theorem number?_of_denotes {cs : List Char} {ds : List Nat} (h : List.Forall₂ Denotes cs ds)
    (hne : ds ≠ []) : number? cs = some (valueOf ds) := by
  cases h with
  | nil => exact absurd rfl hne
  | @cons c d cs ds hc hrest =>
    have hunsigned : number? (c :: cs) = digits? (c :: cs) 0 := by
      unfold number?
      split
      · next hnil => exact absurd hnil (List.cons_ne_nil c cs)
      · next hsigned => exact absurd (List.cons.inj hsigned).1 hc.ne_plus
      · rfl
    rw [hunsigned, digits?_of_denotes (.cons hc hrest), valueOf]

/-- What is read as a digit takes up one byte. -/
theorem utf8Size_of_digit? {c : Char} {d : Nat} (h : digit? c = some d) : c.utf8Size = 1 := by
  have hascii : c ≤ 'f' ∨ c ≤ '9' ∨ c ≤ 'F' := by
    unfold digit? at h
    split at h
    · next hc => exact Or.inr (Or.inl hc.2)
    split at h
    · next hc => exact Or.inl hc.2
    split at h
    · next hc => exact Or.inr (Or.inr hc.2)
    · cases h
  rw [Char.utf8Size_eq_one_iff]
  rcases hascii with hc | hc | hc <;> exact UInt32.le_trans hc (by decide)

theorem byteCount_of_digits? {cs : List Char} {before n : Nat} (h : digits? cs before = some n) :
    byteCount cs = cs.length := by
  induction cs generalizing before with
  | nil => rfl
  | cons c cs ih =>
    obtain ⟨d, hd, hrest⟩ := Option.bind_eq_some_iff.mp h
    rw [byteCount_cons, utf8Size_of_digit? hd, ih hrest, List.length_cons, Nat.add_comm]

/-- What is read as a number takes up one byte for each of its characters. -/
theorem byteCount_of_number? {cs : List Char} {n : Nat} (h : number? cs = some n) :
    byteCount cs = cs.length := by
  unfold number? at h
  split at h
  · cases h
  · split at h
    · cases h
    · rw [byteCount_cons, byteCount_of_digits? h, List.length_cons, Nat.add_comm]
      rfl
  · exact byteCount_of_digits? h

theorem byteCount_of_byte? {a b : Char} {x : UInt8} (h : byte? a b = some x) (rest : List Char) :
    byteCount (a :: b :: rest) = byteCount rest + 2 := by
  obtain ⟨n, hnumber, -⟩ := Option.map_eq_some_iff.mp h
  have hpair := byteCount_of_number? hnumber
  simp only [byteCount_cons, byteCount_nil, List.length_cons, List.length_nil] at hpair ⊢
  omega

/-- The two digits of a byte spell it. -/
theorem byte?_digits (b : UInt8) : byte? (digit (b.toNat / 16)) (digit b.toNat) = some b := by
  have hspelled : List.Forall₂ Denotes [digit (b.toNat / 16), digit b.toNat]
      [b.toNat / 16 % 16, b.toNat % 16] :=
    .cons (denotes_digit _) (.cons (denotes_digit _) .nil)
  have hvalue : valueOf [b.toNat / 16 % 16, b.toNat % 16] = b.toNat := by
    have hb := b.toNat_lt
    simp only [valueOf, List.foldl_cons, List.foldl_nil]
    omega
  rw [byte?, number?_of_denotes hspelled (List.cons_ne_nil _ _), hvalue, Option.map_some,
    UInt8.ofNat_toNat]

end Hex

/-! ## Blanks -/

/-- Blanks around a text are trimmed, and nothing else is when there is none in it. -/
theorem trim_blanks {front cs back : List Char} (hfront : ∀ c ∈ front, isBlank c = true)
    (hcs : ∀ c ∈ cs, isBlank c = false) (hback : ∀ c ∈ back, isBlank c = true) :
    trim (front ++ (cs ++ back)) = cs := by
  have hkept : ∀ (cs rest : List Char), cs ≠ [] → (∀ c ∈ cs, isBlank c = false) →
      (cs ++ rest).dropWhile isBlank = cs ++ rest := by
    rintro (_ | ⟨c, cs⟩) rest hne hcs
    · exact absurd rfl hne
    · exact List.dropWhile_cons_of_neg (by simp [hcs c])
  rw [trim, List.dropWhile_append_of_pos hfront]
  rcases eq_or_ne cs [] with rfl | hne
  · rw [List.nil_append, ← List.append_nil back, List.dropWhile_append_of_pos hback]
    rfl
  · have hlast := hkept cs.reverse [] (by simpa using hne) (by simpa using hcs)
    rw [List.append_nil] at hlast
    rw [hkept cs back hne hcs, List.reverse_append,
      List.dropWhile_append_of_pos (by simpa using hback), hlast, List.reverse_reverse]

/-- A text without blanks is not trimmed. -/
theorem trim_of_not_blank {cs : List Char} (h : ∀ c ∈ cs, isBlank c = false) : trim cs = cs := by
  have htrim := trim_blanks (List.forall_mem_nil _) h (List.forall_mem_nil _)
  rwa [List.nil_append, List.append_nil] at htrim

end Text

/-! ## Device ids -/

namespace DeviceId

open Text

/-- A character of an id's text is a dash or a digit. -/
theorem mem_chars {id : DeviceId} {c : Char} (h : c ∈ id.chars) :
    c = '-' ∨ ∃ n, c = Hex.digit n := by
  simp only [chars, wire, Word.le32, List.map_cons, List.map_nil, Hex.byte, List.intercalate,
    List.intersperse, List.flatten_cons, List.flatten_nil, List.append_nil, List.cons_append,
    List.nil_append, List.mem_cons, List.not_mem_nil, or_false] at h
  rcases h with h | h | h | h | h | h | h | h | h | h | h
  all_goals first | exact Or.inl h | exact Or.inr ⟨_, h⟩

theorem significant_chars (id : DeviceId) :
    significant id.chars = id.wire.flatMap Hex.byte := by
  have hblank : ∀ c ∈ id.chars, isBlank c = false := by
    intro c hc
    obtain rfl | ⟨n, rfl⟩ := mem_chars hc
    · decide
    · exact (Hex.denotes_digit n).not_blank
  have hdigit : ∀ n, isSeparator (Hex.digit n) = false :=
    fun n => (Hex.denotes_digit n).not_separator
  have hdash : isSeparator '-' = true := by decide
  rw [significant, trim_of_not_blank hblank]
  simp [chars, wire, Word.le32, Hex.byte, List.intercalate, hdigit, hdash]

/-- The pair at an index is read as the byte that it spells. -/
theorem byteAt?_eq_some_iff (front : List Char) {cs : List Char} {i : Nat} {x : UInt8}
    (hfront : byteCount front = 2 * i) :
    byteAt? (front ++ cs) i = some x ↔
      ∃ a b rest, cs = a :: b :: rest ∧ Hex.byte? a b = some x := by
  unfold byteAt? Hex.byte?
  rw [← hfront]
  constructor
  · intro h
    obtain ⟨n, hread, rfl⟩ := Option.map_eq_some_iff.mp h
    obtain ⟨pair, hslice, hnumber⟩ := Option.bind_eq_some_iff.mp hread
    obtain ⟨hcount, rest, rfl⟩ := eq_append_of_slice? hslice
    have hlength : pair.length = 2 := by rw [← Hex.byteCount_of_number? hnumber, hcount]
    obtain ⟨a, b, rfl⟩ := List.length_eq_two.mp hlength
    exact ⟨a, b, rest, rfl, by rw [hnumber, Option.map_some]⟩
  · rintro ⟨a, b, rest, rfl, hread⟩
    have hslice := slice?_append front [a, b] rest
    rw [Hex.byteCount_of_byte? hread, byteCount_nil, Nat.zero_add, List.cons_append,
      List.cons_append, List.nil_append] at hslice
    rw [hslice, Option.bind_some, hread]

/-- An id is read from four pairs that spell its bytes, in the order of the wire. -/
theorem ofDigits?_eq_some_iff {cs : List Char} {id : DeviceId} :
    ofDigits? cs = some id ↔ ∃ a b c d e f g k w x y z, cs = [a, b, c, d, e, f, g, k] ∧
      Hex.byte? a b = some w ∧ Hex.byte? c d = some x ∧ Hex.byte? e f = some y ∧
      Hex.byte? g k = some z ∧ ofWire w x y z = id := by
  unfold ofDigits?
  constructor
  · intro h
    split at h
    · next hcount =>
      simp only [Option.bind_eq_bind, Option.bind_eq_some_iff, Option.pure_def,
        Option.some.injEq] at h
      obtain ⟨w, hfirst, x, hsecond, y, hthird, z, hfourth, rfl⟩ := h
      obtain ⟨a, b, rest, rfl, hw⟩ := (byteAt?_eq_some_iff [] rfl).mp hfirst
      obtain ⟨c, d, rest, rfl, hx⟩ := (byteAt?_eq_some_iff [a, b]
        (by rw [Hex.byteCount_of_byte? hw, byteCount_nil])).mp hsecond
      obtain ⟨e, f, rest, rfl, hy⟩ := (byteAt?_eq_some_iff [a, b, c, d]
        (by rw [Hex.byteCount_of_byte? hw, Hex.byteCount_of_byte? hx, byteCount_nil])).mp hthird
      obtain ⟨g, k, rest, rfl, hz⟩ := (byteAt?_eq_some_iff [a, b, c, d, e, f]
        (by rw [Hex.byteCount_of_byte? hw, Hex.byteCount_of_byte? hx,
          Hex.byteCount_of_byte? hy, byteCount_nil])).mp hfourth
      rw [Hex.byteCount_of_byte? hw, Hex.byteCount_of_byte? hx, Hex.byteCount_of_byte? hy,
        Hex.byteCount_of_byte? hz] at hcount
      obtain rfl := byteCount_eq_zero.mp (by omega : byteCount rest = 0)
      exact ⟨a, b, c, d, e, f, g, k, w, x, y, z, rfl, hw, hx, hy, hz, rfl⟩
    · cases h
  · rintro ⟨a, b, c, d, e, f, g, k, w, x, y, z, rfl, hw, hx, hy, hz, rfl⟩
    have hfirst := (byteAt?_eq_some_iff [] (i := 0) rfl).mpr
      ⟨a, b, [c, d, e, f, g, k], rfl, hw⟩
    have hsecond := (byteAt?_eq_some_iff [a, b] (i := 1)
      (by rw [Hex.byteCount_of_byte? hw, byteCount_nil])).mpr ⟨c, d, [e, f, g, k], rfl, hx⟩
    have hthird := (byteAt?_eq_some_iff [a, b, c, d] (i := 2)
      (by rw [Hex.byteCount_of_byte? hw, Hex.byteCount_of_byte? hx, byteCount_nil])).mpr
        ⟨e, f, [g, k], rfl, hy⟩
    have hfourth := (byteAt?_eq_some_iff [a, b, c, d, e, f] (i := 3)
      (by rw [Hex.byteCount_of_byte? hw, Hex.byteCount_of_byte? hx,
        Hex.byteCount_of_byte? hy, byteCount_nil])).mpr ⟨g, k, [], rfl, hz⟩
    simp only [List.cons_append, List.nil_append] at hfirst hsecond hthird hfourth
    have hcount : byteCount [a, b, c, d, e, f, g, k] = 8 := by
      rw [Hex.byteCount_of_byte? hw, Hex.byteCount_of_byte? hx, Hex.byteCount_of_byte? hy,
        Hex.byteCount_of_byte? hz, byteCount_nil]
    rw [if_pos hcount, hfirst, hsecond, hthird, hfourth]
    rfl

theorem ofDigits?_bytes (id : DeviceId) : ofDigits? (id.wire.flatMap Hex.byte) = some id := by
  rw [ofDigits?_eq_some_iff]
  exact ⟨_, _, _, _, _, _, _, _, _, _, _, _, rfl, Hex.byte?_digits _, Hex.byte?_digits _,
    Hex.byte?_digits _, Hex.byte?_digits _, congrArg DeviceId.mk (Word.ofLe32_bytes id.word)⟩

theorem ofText_text (id : DeviceId) : ofText id.text = .ok id := by
  have hread : ofText? id.text = some id := by
    rw [ofText?, text, String.toList_ofList, significant_chars, ofDigits?_bytes]
  rw [ofText, hread]

/-- Two ids of one text are the same. -/
theorem text_inj {a b : DeviceId} : a.text = b.text ↔ a = b := by
  constructor
  · intro h
    have hread : ofText a.text = ofText b.text := congrArg ofText h
    rw [ofText_text, ofText_text] at hread
    exact Except.ok.inj hread
  · exact congrArg text

/-- Ids are told apart by their texts in a list. -/
theorem mem_map_text {id : DeviceId} {ids : List DeviceId} :
    id.text ∈ ids.map text ↔ id ∈ ids := by
  simp only [List.mem_map, text_inj, exists_eq_right]

end DeviceId

end HarnessLink
