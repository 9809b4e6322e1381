import HarnessLink.Proofs.Packet.DeviceText

/-!
# Texts that spell a number or an id

Which texts are read as a number in hexadecimal digits, and which as the id of a device. A number
is spelled by one digit or more, of either case, behind at most one plus sign. An id is spelled by
two characters for each of its bytes, in the order of the wire and each pair a number of its own,
when blanks at the ends and all separators are left out. Eight digits spell an id in this way, and
every other spelling of one has a plus sign.
-/
namespace HarnessLink

namespace Text.Hex

/-- A character that is read as a digit is the digit of its value. -/
theorem denotes_of_digit? {c : Char} {d : Nat} (h : digit? c = some d) : Denotes c d := by
  have hbounds : ∀ {a b : Char}, a ≤ c ∧ c ≤ b → a.toNat ≤ c.toNat ∧ c.toNat ≤ b.toNat := by
    intro a b hc
    simpa [Char.le_def, UInt32.le_iff_toNat_le] using hc
  unfold digit? at h
  unfold Denotes digit digitLower
  split at h
  · next hc =>
    obtain ⟨hlow, hhigh⟩ := hbounds hc
    simp only [Char.reduceToNat, Option.some.injEq] at hlow hhigh h
    have hd : d % 16 < 10 := by omega
    have hsame : 48 + d % 16 = c.toNat := by omega
    refine ⟨by omega, Or.inl ?_⟩
    rw [if_pos hd, hsame, Char.ofNat_toNat]
  split at h
  · next hc =>
    obtain ⟨hlow, hhigh⟩ := hbounds hc
    simp only [Char.reduceToNat, Option.some.injEq] at hlow hhigh h
    have hd : ¬ d % 16 < 10 := by omega
    have hsame : 87 + d % 16 = c.toNat := by omega
    refine ⟨by omega, Or.inr ?_⟩
    rw [if_neg hd, hsame, Char.ofNat_toNat]
  split at h
  · next hc =>
    obtain ⟨hlow, hhigh⟩ := hbounds hc
    simp only [Char.reduceToNat, Option.some.injEq] at hlow hhigh h
    have hd : ¬ d % 16 < 10 := by omega
    have hsame : 55 + d % 16 = c.toNat := by omega
    refine ⟨by omega, Or.inl ?_⟩
    rw [if_neg hd, hsame, Char.ofNat_toNat]
  · cases h

/-- What is read as digits are digits, and the number is their value behind the digits before. -/
theorem denoted_of_digits? {cs : List Char} {before n : Nat} (h : digits? cs before = some n) :
    ∃ ds, List.Forall₂ Denotes cs ds ∧ n = ds.foldl (fun n d => 16 * n + d) before := by
  induction cs generalizing before with
  | nil => exact ⟨[], .nil, (Option.some.inj h).symm⟩
  | cons c cs ih =>
    rw [digits?] at h
    obtain ⟨d, hd, hrest⟩ := Option.bind_eq_some_iff.mp h
    obtain ⟨ds, denoted, hvalue⟩ := ih hrest
    exact ⟨d :: ds, .cons (denotes_of_digit? hd) denoted, hvalue⟩

/-- The characters are a number: digits, at least one, behind at most one plus sign. -/
inductive Spells : List Char → Nat → Prop
  | digits {cs : List Char} {ds : List Nat} (denoted : List.Forall₂ Denotes cs ds)
      (nonempty : ds ≠ []) : Spells cs (valueOf ds)
  | plus {cs : List Char} {ds : List Nat} (denoted : List.Forall₂ Denotes cs ds)
      (nonempty : ds ≠ []) : Spells ('+' :: cs) (valueOf ds)

/-- Numbers are read, and nothing else is. -/
theorem number?_eq_some_iff {cs : List Char} {n : Nat} : number? cs = some n ↔ Spells cs n := by
  have hdigits : ∀ {cs}, cs ≠ [] → digits? cs 0 = some n →
      ∃ ds, List.Forall₂ Denotes cs ds ∧ ds ≠ [] ∧ valueOf ds = n := by
    intro cs hne hread
    obtain ⟨ds, denoted, hvalue⟩ := denoted_of_digits? hread
    refine ⟨ds, denoted, ?_, hvalue.symm⟩
    rintro rfl
    exact hne (List.forall₂_nil_right_iff.mp denoted)
  constructor
  · intro h
    unfold number? at h
    split at h
    · cases h
    · next rest =>
      split at h
      · cases h
      · next hrest =>
        obtain ⟨ds, denoted, hne, rfl⟩ := hdigits (by simpa using hrest) h
        exact .plus denoted hne
    · next hempty _ =>
      obtain ⟨ds, denoted, hne, rfl⟩ := hdigits hempty h
      exact .digits denoted hne
  · intro h
    cases h with
    | digits denoted hne => exact number?_of_denotes denoted hne
    | plus denoted hne =>
      cases denoted with
      | nil => exact absurd rfl hne
      | cons hc hrest => exact digits?_of_denotes (.cons hc hrest) 0

/-- Two characters are read as the byte that they spell. -/
theorem byte?_eq_some_iff {a b : Char} {x : UInt8} :
    byte? a b = some x ↔ Spells [a, b] x.toNat := by
  have hlt : ∀ {n}, Spells [a, b] n → n < 256 := by
    intro n hspelled
    cases hspelled with
    | digits denoted _ =>
      obtain _ | ⟨ha, _ | ⟨hb, _ | _⟩⟩ := denoted
      have := ha.1
      have := hb.1
      simp only [valueOf, List.foldl_cons, List.foldl_nil]
      omega
    | plus denoted _ =>
      obtain _ | ⟨hb, _ | _⟩ := denoted
      have := hb.1
      simp only [valueOf, List.foldl_cons, List.foldl_nil]
      omega
  unfold byte?
  constructor
  · intro h
    obtain ⟨n, hn, rfl⟩ := Option.map_eq_some_iff.mp h
    have hspelled := number?_eq_some_iff.mp hn
    rwa [UInt8.toNat_ofNat', Nat.mod_eq_of_lt (hlt hspelled)]
  · intro h
    rw [number?_eq_some_iff.mpr h, Option.map_some, UInt8.ofNat_toNat]

/-- A pair that is a byte is two digits, unless a plus sign stands in front of one. -/
theorem Spells.pair {a b : Char} {n : Nat} (h : Spells [a, b] n) :
    (∃ d e, Denotes a d ∧ Denotes b e ∧ n = 16 * d + e) ∨ a = '+' := by
  cases h with
  | digits denoted _ =>
    obtain _ | ⟨ha, _ | ⟨hb, _ | _⟩⟩ := denoted
    exact Or.inl ⟨_, _, ha, hb, by simp only [valueOf, List.foldl_cons, List.foldl_nil]; omega⟩
  | plus denoted _ => exact Or.inr rfl

theorem byte?_of_denotes {a b : Char} {d e : Nat} (ha : Denotes a d) (hb : Denotes b e) :
    byte? a b = some (UInt8.ofNat (16 * d + e)) := by
  rw [byte?, number?_of_denotes (.cons ha (.cons hb .nil)) (List.cons_ne_nil _ _), Option.map_some]
  simp [valueOf]

end Text.Hex

namespace DeviceId

open Text

/-- The text has two characters for each byte of the id. -/
def SpelledBy (id : DeviceId) (s : String) : Prop :=
  ∃ pairs, significant s.toList = pairs.flatten ∧
    List.Forall₂ (fun pair b => pair.length = 2 ∧ Hex.Spells pair b.toNat) pairs id.wire

theorem ofText_eq_ok_iff_ofDigits? {s : String} {id : DeviceId} :
    ofText s = .ok id ↔ ofDigits? (significant s.toList) = some id := by
  unfold ofText ofText?
  cases ofDigits? (significant s.toList) <;> simp

/-- A text is read as the id that it spells. -/
theorem ofText_eq_ok_iff {s : String} {id : DeviceId} : ofText s = .ok id ↔ id.SpelledBy s := by
  rw [ofText_eq_ok_iff_ofDigits?]
  constructor
  · intro h
    obtain ⟨a, b, c, d, e, f, g, k, w, x, y, z, hchars, hw, hx, hy, hz, rfl⟩ :=
      ofDigits?_eq_some_iff.mp h
    rw [Hex.byte?_eq_some_iff] at hw hx hy hz
    refine ⟨[[a, b], [c, d], [e, f], [g, k]], hchars, ?_⟩
    have hwire : (ofWire w x y z).wire = [w, x, y, z] := by
      unfold ofWire wire
      rw [Word.le32_ofLe32]
    rw [hwire]
    exact .cons ⟨rfl, hw⟩ (.cons ⟨rfl, hx⟩ (.cons ⟨rfl, hy⟩ (.cons ⟨rfl, hz⟩ .nil)))
  · rintro ⟨pairs, hchars, hpairs⟩
    obtain ⟨w, x, y, z, hwire, hid⟩ : ∃ w x y z, id.wire = [w, x, y, z] ∧ ofWire w x y z = id :=
      ⟨_, _, _, _, rfl, congrArg DeviceId.mk (Word.ofLe32_bytes id.word)⟩
    rw [hwire] at hpairs
    obtain _ | ⟨⟨hlength, hw⟩, _ | ⟨⟨hlength₁, hx⟩, _ | ⟨⟨hlength₂, hy⟩,
      _ | ⟨⟨hlength₃, hz⟩, _ | _⟩⟩⟩⟩ := hpairs
    obtain ⟨a, b, rfl⟩ := List.length_eq_two.mp hlength
    obtain ⟨c, d, rfl⟩ := List.length_eq_two.mp hlength₁
    obtain ⟨e, f, rfl⟩ := List.length_eq_two.mp hlength₂
    obtain ⟨g, k, rfl⟩ := List.length_eq_two.mp hlength₃
    rw [← Hex.byte?_eq_some_iff] at hw hx hy hz
    rw [ofDigits?_eq_some_iff]
    exact ⟨a, b, c, d, e, f, g, k, w, x, y, z, hchars, hw, hx, hy, hz, hid⟩

/-! ## Digits alone -/

/-- The number whose bytes are spelled by two digits each, least significant byte first. -/
def littleEndian : List Nat → Nat
  | high :: low :: rest => 16 * high + low + 256 * littleEndian rest
  | _ => 0

/-- The text is eight digits, of either case, when blanks at the ends and all separators are left
out. -/
def HasDigits (s : String) (ds : List Nat) : Prop :=
  ds.length = 8 ∧ List.Forall₂ Hex.Denotes (significant s.toList) ds

/-- Eight digits are read as the id whose bytes they spell. -/
theorem ofText_of_hasDigits {s : String} {ds : List Nat} (h : HasDigits s ds) :
    ∃ id, ofText s = .ok id ∧ id.word.toNat = littleEndian ds := by
  obtain ⟨hlength, hdigits⟩ := h
  generalize hchars : significant s.toList = cs at hdigits
  match ds, hlength with
  | [a, b, c, d, e, f, g, k], _ =>
    obtain _ | ⟨ha, _ | ⟨hb, _ | ⟨hc, _ | ⟨hd, _ | ⟨he, _ | ⟨hf, _ | ⟨hg, _ | ⟨hk, hnil⟩⟩⟩⟩⟩⟩⟩⟩ :=
      hdigits
    cases hnil
    refine ⟨_, ofText_eq_ok_iff_ofDigits?.mpr (ofDigits?_eq_some_iff.mpr
      ⟨_, _, _, _, _, _, _, _, _, _, _, _, hchars, Hex.byte?_of_denotes ha hb,
        Hex.byte?_of_denotes hc hd, Hex.byte?_of_denotes he hf, Hex.byte?_of_denotes hg hk, rfl⟩),
      ?_⟩
    have := ha.1
    have := hb.1
    have := hc.1
    have := hd.1
    have := he.1
    have := hf.1
    have := hg.1
    have := hk.1
    simp only [ofWire, Word.ofLe32, UInt32.toNat_ofNat', UInt8.toNat_ofNat', littleEndian]
    omega

/-- A text that is read as an id and holds no plus sign is eight digits. -/
theorem hasDigits_of_ofText {s : String} {id : DeviceId} (h : ofText s = .ok id)
    (hplain : '+' ∉ significant s.toList) :
    ∃ ds, HasDigits s ds ∧ id.word.toNat = littleEndian ds := by
  obtain ⟨c₁, c₂, c₃, c₄, c₅, c₆, c₇, c₈, w, x, y, z, hchars, hw, hx, hy, hz, rfl⟩ :=
    ofDigits?_eq_some_iff.mp (ofText_eq_ok_iff_ofDigits?.mp h)
  rw [hchars] at hplain
  have hpair : ∀ {c d : Char} {b : UInt8}, Hex.byte? c d = some b →
      c ∈ [c₁, c₂, c₃, c₄, c₅, c₆, c₇, c₈] →
      ∃ m n, Hex.Denotes c m ∧ Hex.Denotes d n ∧ b.toNat = 16 * m + n := by
    intro c d b hread hmem
    refine (Hex.byte?_eq_some_iff.mp hread).pair.resolve_right ?_
    rintro rfl
    exact hplain hmem
  obtain ⟨d₁, d₂, h₁, h₂, hw⟩ := hpair hw (by simp)
  obtain ⟨d₃, d₄, h₃, h₄, hx⟩ := hpair hx (by simp)
  obtain ⟨d₅, d₆, h₅, h₆, hy⟩ := hpair hy (by simp)
  obtain ⟨d₇, d₈, h₇, h₈, hz⟩ := hpair hz (by simp)
  refine ⟨[d₁, d₂, d₃, d₄, d₅, d₆, d₇, d₈], ⟨rfl, ?_⟩, ?_⟩
  · rw [hchars]
    exact .cons h₁ (.cons h₂ (.cons h₃ (.cons h₄ (.cons h₅ (.cons h₆ (.cons h₇ (.cons h₈ .nil)))))))
  · have := w.toNat_lt
    have := x.toNat_lt
    have := y.toNat_lt
    have := z.toNat_lt
    simp only [ofWire, Word.ofLe32, UInt32.toNat_ofNat', littleEndian]
    omega

/-- Eight digits are read as the id whose bytes they spell. A text that is read as an id is eight
digits, unless plus signs stand in front of the digits of some bytes, and each text that is not
read is refused as no id. -/
theorem ofText_digits (s : String) :
    (∀ ds, HasDigits s ds → ∃ id, ofText s = .ok id ∧ id.word.toNat = littleEndian ds) ∧
    (∀ id, ofText s = .ok id → (∃ ds, HasDigits s ds ∧ id.word.toNat = littleEndian ds) ∨
      '+' ∈ significant s.toList ∧ id.SpelledBy s) ∧
    ∀ e, ofText s = .error e → e = .invalidDeviceId s := by
  refine ⟨fun ds => ofText_of_hasDigits, fun id hread => ?_, fun e hrefused => ?_⟩
  · by_cases hplus : '+' ∈ significant s.toList
    · exact Or.inr ⟨hplus, ofText_eq_ok_iff.mp hread⟩
    · exact Or.inl (hasDigits_of_ofText hread hplus)
  · unfold ofText at hrefused
    split at hrefused
    · cases hrefused
    · exact (Except.error.inj hrefused).symm

/-- Plus signs take the places of digits, so a mistyped id is read as another one. -/
theorem ofText_plus :
    ofText "+1-32-48-5B" = .ok ⟨0x5B483201⟩ ∧ ¬ ∃ ds, HasDigits "+1-32-48-5B" ds := by
  refine ⟨by decide +kernel, ?_⟩
  rintro ⟨ds, -, hdigits⟩
  have hchars : significant "+1-32-48-5B".toList = ['+', '1', '3', '2', '4', '8', '5', 'B'] := by
    decide +kernel
  rw [hchars] at hdigits
  cases hdigits with
  | cons hfirst _ => exact hfirst.ne_plus rfl

end DeviceId

end HarnessLink
