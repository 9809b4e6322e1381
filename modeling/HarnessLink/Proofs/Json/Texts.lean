import HarnessLink.Json.Typed
import HarnessLink.Proofs.Json.Records
import Mathlib.Data.List.TakeDrop
import Mathlib.Tactic.IntervalCases

/-!
# Reading what is written

The compact form of a value reads back. Every reader is told what it gives of the text that is
written for a value, whatever stands behind it as long as that ends the value.
-/
namespace HarnessLink.Json

/-! ## Strings -/

/-- The number of a control is read of the four digits that it is escaped with. -/
theorem readHex4_control {n : Nat} (h : n < 32) (s : List Char) :
    ∃ hs, readHex4 ('0' :: '0' :: Text.Hex.digitLower (n / 16) :: Text.Hex.digitLower n :: s) =
      .ok (n, ⟨s, hs⟩) := by
  have hzero : Text.Hex.digit? '0' = some 0 := by decide
  have hdigits : ['0', '0', Text.Hex.digitLower (n / 16), Text.Hex.digitLower n].mapM
      Text.Hex.digit? = some [0, 0, n / 16 % 16, n % 16] := by
    simp [hzero, (Text.Hex.denotes_digitLower _).digit?]
  have hvalue : ((0 * 16 + 0) * 16 + n / 16 % 16) * 16 + n % 16 = n := by omega
  refine ⟨by simp only [List.length_cons]; omega, ?_⟩
  simp only [readHex4, hdigits, hvalue]

theorem readEscape_control {c : Char} (h : c.toNat < 32) (s : List Char) :
    ∃ hs, readEscape ('u' :: '0' :: '0' :: Text.Hex.digitLower (c.toNat / 16) ::
      Text.Hex.digitLower c.toNat :: s) = .ok (c, ⟨s, hs⟩) := by
  obtain ⟨hs, hhex⟩ := readHex4_control h s
  have htrail : isTrail c.toNat = false := by simp [isTrail]; omega
  have hlead : isLead c.toNat = false := by simp [isLead]; omega
  have hpoint : readCodePoint ('0' :: '0' :: Text.Hex.digitLower (c.toNat / 16) ::
      Text.Hex.digitLower c.toNat :: s) = .ok (c, ⟨s, hs⟩) := by
    simp [readCodePoint, hhex, htrail, hlead]
  exact ⟨_, by rw [readEscape, hpoint]; rfl⟩

/-- An escape that is read as a character. -/
theorem readChars_of_readEscape {s rest : List Char} {c : Char} {hs : rest.length ≤ s.length}
    (h : readEscape s = .ok (c, ⟨rest, hs⟩)) :
    readChars ('\\' :: s) = (readChars rest).map fun (cs, r) => (c :: cs, r) := by
  rw [readChars, h]

theorem readEscape_letter {letter c : Char} (hletter : letter ≠ 'u')
    (hlookup : escapeLetters.lookup letter = some c) (s : List Char) :
    ∃ hs, readEscape (letter :: s) = .ok (c, ⟨s, hs⟩) := by
  refine ⟨by simp only [List.length_cons]; omega, ?_⟩
  rw [readEscape, hlookup]
  exact hletter

theorem readChars_plain {c : Char} (hquote : c ≠ '\x22') (hbackslash : c ≠ '\\')
    (hcontrol : ¬ c.toNat < 32) (s : List Char) :
    readChars (c :: s) = (readChars s).map fun (cs, r) => (c :: cs, r) := by
  rw [readChars, if_neg hcontrol]
  · exact hquote
  · exact hbackslash

/-- A character is read of what it is escaped as. -/
theorem readChars_escape (c : Char) (s : List Char) :
    readChars (escape c ++ s) = (readChars s).map fun (cs, r) => (c :: cs, r) := by
  have letter {letter c : Char} (hletter : letter ≠ 'u')
      (hlookup : escapeLetters.lookup letter = some c) :
      readChars ('\\' :: letter :: s) = (readChars s).map fun (cs, r) => (c :: cs, r) := by
    obtain ⟨hs, hread⟩ := readEscape_letter hletter hlookup s
    exact readChars_of_readEscape hread
  unfold escape
  split
  · exact letter (by decide) (by decide)
  · exact letter (by decide) (by decide)
  · exact letter (by decide) (by decide)
  · exact letter (by decide) (by decide)
  · exact letter (by decide) (by decide)
  · exact letter (by decide) (by decide)
  · exact letter (by decide) (by decide)
  · next hquote hbackslash _ _ _ _ _ =>
    by_cases hcontrol : c.toNat < 32
    · obtain ⟨hs, hread⟩ := readEscape_control hcontrol s
      rw [if_pos hcontrol]
      exact readChars_of_readEscape hread
    · rw [if_neg hcontrol]
      exact readChars_plain hquote hbackslash hcontrol s

theorem readString_written (s : String) (rest : List Char) :
    readString (s.toList.flatMap escape ++ '\x22' :: rest) = .ok (s, rest) := by
  have hchars (cs : List Char) :
      readChars (cs.flatMap escape ++ '\x22' :: rest) = .ok (cs, rest) := by
    induction cs with
    | nil => rw [List.flatMap_nil, List.nil_append, readChars]
    | cons c cs ih =>
      rw [List.flatMap_cons, List.append_assoc, readChars_escape, ih]
      rfl
  rw [readString, hchars]
  simp [Except.map]

/-! ## What stands behind a value -/

/-- A text that ends the value before it. -/
def Delimited (rest : List Char) : Prop :=
  ∀ c ∈ rest.head?, c = ',' ∨ c = ']' ∨ c = '\x7d'

theorem delimited_nil : Delimited [] := by simp [Delimited]

theorem delimited_cons {c : Char} (h : c = ',' ∨ c = ']' ∨ c = '\x7d') (rest : List Char) :
    Delimited (c :: rest) := by
  simpa [Delimited] using h

/-- A reader gives this of a text, and leaves what stands behind it. -/
def Reads (read : List Char → Except Stop (α × List Char)) (text : List Char) (a : α) : Prop :=
  ∀ rest, Delimited rest → read (text ++ rest) = .ok (a, rest)

/-- A text that begins a value other than null. -/
def Begins (text : List Char) : Prop :=
  ∃ c rest, text = c :: rest ∧ isGap c = false ∧ c ≠ ']' ∧ c ≠ 'n'

theorem dropGaps_cons {c : Char} (h : isGap c = false) (s : List Char) :
    dropGaps (c :: s) = c :: s := by
  rw [dropGaps, List.dropWhile_cons_of_neg (by simp [h])]

theorem Begins.dropGaps {text : List Char} (h : Begins text) (rest : List Char) :
    dropGaps (text ++ rest) = text ++ rest := by
  obtain ⟨c, text, rfl, hgap, -⟩ := h
  exact dropGaps_cons hgap _

/-! ## Texts and options -/

theorem begins_stringChars (s : String) : Begins (stringChars s) :=
  ⟨'\x22', _, rfl, by decide, by decide, by decide⟩

theorem reads_textAs (expected s : String) : Reads (readTextAs expected) (stringChars s) s := by
  intro rest _
  have hstring := readString_written s rest
  rw [readTextAs, atValue, (begins_stringChars s).dropGaps]
  simpa [stringChars] using hstring

theorem reads_text (s : String) : Reads readText (stringChars s) s := reads_textAs _ s

/-- A value that may be null and is not. -/
theorem Reads.optional {read : List Char → Except Stop (α × List Char)} {text : List Char} {a : α}
    (h : Reads read text a) (hbegins : Begins text) : Reads (readOptional read) text (some a) := by
  intro rest hrest
  have hread := h rest hrest
  obtain ⟨c, text, rfl, hgap, -, hnull⟩ := hbegins
  rw [readOptional, List.cons_append, dropGaps_cons hgap]
  split
  · next heq => exact absurd (List.cons.inj heq).1 hnull
  · rw [← List.cons_append, hread]
    rfl

/-! ## Numbers -/

theorem takeDigits_delimited {digits rest : List Char} (hdigits : ∀ c ∈ digits, c.isDigit = true)
    (hrest : Delimited rest) : takeDigits (digits ++ rest) = (digits, rest) := by
  have hstop : takeDigits rest = ([], rest) := by
    cases rest with
    | nil => rfl
    | cons c rest =>
      obtain rfl | rfl | rfl := hrest c rfl
      · rfl
      · rfl
      · rfl
  rw [takeDigits, List.span_eq_takeWhile_dropWhile] at hstop ⊢
  obtain ⟨htake, hdrop⟩ := Prod.mk.inj hstop
  rw [List.takeWhile_append_of_pos hdigits, List.dropWhile_append_of_pos hdigits, htake, hdrop,
    List.append_nil]

theorem readAfterWhole_delimited (n : Numeral) (ended : Fault) {rest : List Char}
    (hrest : Delimited rest) : readAfterWhole n ended rest = .ok (n, rest) := by
  cases rest with
  | nil => rfl
  | cons c rest =>
    obtain rfl | rfl | rfl := hrest c rfl
    · rfl
    · rfl
    · rfl

theorem exists_toDigits (n : Nat) :
    ∃ c cs, Nat.toDigits 10 n = c :: cs ∧ ∀ d ∈ c :: cs, d.isDigit = true := by
  have hdigits : ∀ d ∈ Nat.toDigits 10 n, d.isDigit = true := fun d hd =>
    Nat.isDigit_of_mem_toDigits (by decide) (by decide) hd
  cases hcs : Nat.toDigits 10 n with
  | nil => exact absurd hcs Nat.toDigits_ne_nil
  | cons c cs => exact ⟨c, cs, rfl, hcs ▸ hdigits⟩

theorem ne_of_isDigit {c d : Char} (hc : c.isDigit = true) (hd : d.isDigit = false) : c ≠ d := by
  rintro rfl
  rw [hc] at hd
  cases hd

/-- Only the number zero is written with a zero in front. -/
theorem head?_toDigits {n : Nat} (h : 0 < n) : (Nat.toDigits 10 n).head? ≠ some '0' := by
  induction n using Nat.strongRecOn with
  | ind n ih =>
    by_cases hn : n < 10
    · rw [Nat.toDigits_of_lt_base hn]
      interval_cases n <;> decide
    · have hhead := ih (n / 10) (by omega) (by omega)
      obtain ⟨c, cs, hcs, -⟩ := exists_toDigits (n / 10)
      rw [Nat.toDigits_of_base_le (by decide) (by omega), hcs]
      rwa [hcs] at hhead

/-- The digits of a number are its whole part, and nothing else of a number stands behind them. -/
theorem readNumeral_written (n : Nat) (ended : Fault) {rest : List Char} (hrest : Delimited rest) :
    readNumeral false ended (Nat.toDigits 10 n ++ rest) =
      .ok ({ negative := false, whole := Nat.toDigits 10 n }, rest) := by
  by_cases hzero : n = 0
  · subst hzero
    have hafter := readAfterWhole_delimited { negative := false, whole := ['0'] } ended hrest
    rw [Nat.toDigits_zero, List.singleton_append]
    cases rest with
    | nil => exact hafter
    | cons c rest =>
      obtain rfl | rfl | rfl := hrest c rfl
      · exact hafter
      · exact hafter
      · exact hafter
  · have hhead := head?_toDigits (Nat.pos_of_ne_zero hzero)
    obtain ⟨c, cs, hcs, hdigits⟩ := exists_toDigits n
    have htake := takeDigits_delimited hdigits hrest
    rw [hcs] at hhead ⊢
    rw [List.cons_append] at htake ⊢
    rw [readNumeral, if_pos (hdigits c List.mem_cons_self), htake]
    · exact readAfterWhole_delimited _ ended hrest
    · rintro rfl
      exact hhead rfl

theorem digitsValue_toDigits (n : Nat) : digitsValue 0 (Nat.toDigits 10 n) = n := by
  have hvalue := Nat.ofDigitChars_ten_toDigits (n := n)
  rw [Nat.ofDigitChars_eq_foldl] at hvalue
  exact hvalue

theorem readNumber_written {n : Nat} (h : n ≤ significandLimit) {rest : List Char}
    (hrest : Delimited rest) :
    readNumber false (Nat.toDigits 10 n ++ rest) = .ok (natural n, rest) := by
  have hvalue : Numeral.value { negative := false, whole := Nat.toDigits 10 n } rest =
      .ok (natural n) := by
    simp [Numeral.value, digitsValue_toDigits, h]
  simp only [readNumber, readNumeral_written n _ hrest, bind, Except.bind, hvalue]
  rfl

theorem chars_natural (n : Nat) : (natural n).chars = Nat.toDigits 10 n := by
  have htext : toString (n : Int) = toString n := rfl
  rw [natural, chars, htext, Nat.toString_eq_ofList_toDigits, String.toList_ofList]

theorem readScalar_natural {n : Nat} (h : n ≤ significandLimit) {rest : List Char}
    (hrest : Delimited rest) : readScalar ((natural n).chars ++ rest) = .ok (natural n, rest) := by
  have hread := readNumber_written h hrest
  obtain ⟨c, cs, hcs, hdigits⟩ := exists_toDigits n
  have hdigit : c.isDigit = true := hdigits c List.mem_cons_self
  rw [hcs, List.cons_append] at hread
  rw [chars_natural, hcs, List.cons_append, readScalar, if_pos hdigit, hread]
  -- A digit begins no word, no sign and no string.
  all_goals exact ne_of_isDigit hdigit (by decide)

theorem begins_natural (n : Nat) : Begins (natural n).chars := by
  obtain ⟨c, cs, hcs, hdigits⟩ := exists_toDigits n
  have hdigit : c.isDigit = true := hdigits c List.mem_cons_self
  refine ⟨c, cs, (chars_natural n).trans hcs, ?_, ?_, ?_⟩
  · simp [isGap, ne_of_isDigit hdigit]
  · exact ne_of_isDigit hdigit (by decide)
  · exact ne_of_isDigit hdigit (by decide)

theorem reads_byte (b : UInt8) : Reads readByte (byte b).chars b := by
  intro rest hrest
  have hlimit : b.toNat ≤ significandLimit := b.toNat_lt.le.trans (by decide)
  have hscalar := readScalar_natural hlimit hrest
  have hbyte := byteOf_byte b
  obtain ⟨c, cs, hcs, hdigits⟩ := exists_toDigits b.toNat
  have hdigit : c.isDigit = true := hdigits c List.mem_cons_self
  rw [byte] at hbyte
  rw [readByte, atValue, byte, (begins_natural _).dropGaps]
  rw [chars_natural, hcs, List.cons_append] at hscalar ⊢
  simp only [bind, Except.bind]
  split
  · next heq => exact absurd (List.cons.inj heq).1 (ne_of_isDigit hdigit (by decide))
  · next heq => exact absurd (List.cons.inj heq).1 (ne_of_isDigit hdigit (by decide))
  · simp only [hscalar, hbyte]
    rfl

/-! ## Lists -/

/-- Items with commas in front of them. -/
def moreItems (items : List Json) : List Char := items.flatMap fun v => ',' :: v.chars

theorem itemChars_cons (v : Json) (items : List Json) :
    itemChars (v :: items) = v.chars ++ moreItems items := by
  induction items generalizing v with
  | nil => simp [itemChars, moreItems]
  | cons w items ih => simp [itemChars, ih, moreItems]

theorem length_le_moreItems (items : List Json) : items.length ≤ (moreItems items).length := by
  induction items with
  | nil => exact Nat.le_refl 0
  | cons v items ih =>
    simp only [moreItems, List.flatMap_cons, List.length_append, List.length_cons] at ih ⊢
    omega

/-- A comma goes on to the next item. -/
theorem nextItem_behind {text : List Char} (h : Begins text) (rest : List Char) :
    nextItem false (',' :: (text ++ rest)) = .ok (some (text ++ rest), text ++ rest) := by
  have hgaps := h.dropGaps rest
  obtain ⟨c, text, rfl, -, hclosed, -⟩ := h
  unfold nextItem
  rw [dropGaps_cons (by decide)]
  split
  · next heq => cases heq
  · next heq => exact absurd (List.cons.inj heq).1 (by decide)
  · next heq =>
    obtain ⟨rfl, rfl⟩ := List.cons.inj heq
    rw [if_neg Bool.false_ne_true, if_pos rfl, hgaps, List.cons_append]
    split
    · next heq => cases heq
    · next heq => exact absurd (List.cons.inj heq).1 hclosed
    · rfl

theorem nextItem_first {text : List Char} (h : Begins text) (rest : List Char) :
    nextItem true (text ++ rest) = .ok (some (text ++ rest), text ++ rest) := by
  have hgaps := h.dropGaps rest
  obtain ⟨c, text, rfl, -, hclosed, -⟩ := h
  unfold nextItem
  rw [hgaps, List.cons_append]
  split
  · next heq => cases heq
  · next heq => exact absurd (List.cons.inj heq).1 hclosed
  · next heq =>
    obtain ⟨rfl, rfl⟩ := List.cons.inj heq
    rfl

section

variable {α : Type} {item : List Char → Except Stop (α × List Char)} {f : α → Json}

theorem delimited_items (items : List Json) (rest : List Char) :
    Delimited (moreItems items ++ ']' :: rest) := by
  cases items with
  | nil => exact delimited_cons (.inr (.inl rfl)) rest
  | cons v items => exact delimited_cons (.inl rfl) _

/-- The items behind the first. -/
theorem readItems_behind (hreads : ∀ a, Reads item (f a).chars a)
    (hbegins : ∀ a, Begins (f a).chars) (as : List α) (rest : List Char) {fuel : Nat}
    (hfuel : as.length < fuel) :
    readItems item fuel false (moreItems (as.map f) ++ ']' :: rest) = .ok (as, rest) := by
  induction as generalizing fuel with
  | nil =>
    obtain ⟨fuel, rfl⟩ := Nat.exists_eq_add_one.mpr hfuel
    rfl
  | cons a as ih =>
    obtain ⟨fuel, rfl⟩ := Nat.exists_eq_add_one.mpr (Nat.zero_lt_of_lt hfuel)
    have hrest : readItems item fuel false (moreItems (as.map f) ++ ']' :: rest) =
        .ok (as, rest) := ih (by simpa using hfuel)
    have hread := hreads a _ (delimited_items (as.map f) rest)
    rw [List.map_cons, moreItems, List.flatMap_cons, List.cons_append, List.cons_append,
      List.append_assoc, ← moreItems, readItems, nextItem_behind (hbegins a)]
    simp only [bind, Except.bind, hread, hrest]
    rfl

/-- The items of an array that was written. -/
theorem readArray_written (hreads : ∀ a, Reads item (f a).chars a)
    (hbegins : ∀ a, Begins (f a).chars) (as : List α) (rest : List Char) :
    readArray item (itemChars (as.map f) ++ ']' :: rest) = .ok (as, rest) := by
  cases as with
  | nil => rfl
  | cons a as =>
    have hread := hreads a _ (delimited_items (as.map f) rest)
    have hlength := length_le_moreItems (as.map f)
    rw [List.length_map] at hlength
    rw [readArray, List.map_cons, itemChars_cons, List.append_assoc, readItems,
      nextItem_first (hbegins a)]
    simp only [bind, Except.bind, hread]
    rw [readItems_behind hreads hbegins]
    · rfl
    · simp only [List.length_append, List.length_cons]
      obtain ⟨c, text, htext, -⟩ := hbegins a
      rw [htext, List.length_cons]
      omega

end

theorem chars_string (s : String) : (string s).chars = stringChars s := by rw [chars]

theorem chars_object (fields : List (String × Json)) (rest : List Char) :
    (object fields).chars ++ rest = '\x7b' :: (fieldChars fields ++ '\x7d' :: rest) := by
  simp [chars]

theorem begins_array (items : List Json) : Begins (array items).chars :=
  ⟨'[', itemChars items ++ [']'], by rw [chars, List.cons_append], by decide, by decide, by decide⟩

theorem reads_texts (names : List String) :
    Reads readTexts (array (names.map string)).chars names := by
  intro rest _
  have harray := readArray_written (fun s => chars_string s ▸ reads_text s)
    (fun s => chars_string s ▸ begins_stringChars s) names rest
  rw [readTexts, atValue, (begins_array _).dropGaps, chars]
  simpa using harray

/-! ## Fields -/

/-- Fields with commas in front of them. -/
def moreFields (fields : List (String × Json)) : List Char :=
  fields.flatMap fun (name, v) => ',' :: (stringChars name ++ ':' :: v.chars)

theorem fieldChars_cons (name : String) (v : Json) (fields : List (String × Json)) :
    fieldChars ((name, v) :: fields) =
      stringChars name ++ ':' :: (v.chars ++ moreFields fields) := by
  induction fields generalizing name v with
  | nil => simp [fieldChars, moreFields]
  | cons f fields ih => simp [fieldChars, ih, moreFields]

theorem length_le_moreFields (fields : List (String × Json)) :
    fields.length ≤ (moreFields fields).length := by
  induction fields with
  | nil => exact Nat.le_refl 0
  | cons f fields ih =>
    simp only [moreFields, List.flatMap_cons, List.length_append, List.length_cons] at ih ⊢
    omega

/-- Fields take at least one character each. -/
theorem length_lt_fieldChars (fields : List (String × Json)) (rest : List Char) :
    fields.length < (fieldChars fields ++ rest).length + 1 := by
  rcases fields with _ | ⟨⟨name, v⟩, fields⟩
  · exact Nat.succ_pos _
  · have hlength := length_le_moreFields fields
    simp only [fieldChars_cons, List.length_append, List.length_cons]
    omega

section

variable {σ : Type} {field : σ → String → List Char → Except Stop (σ × List Char)}

/-- A reader of fields takes these fields, one by one, from a state to another. -/
inductive Fills (field : σ → String → List Char → Except Stop (σ × List Char)) :
    List (String × Json) → σ → σ → Prop
  | nil (d : σ) : Fills field [] d d
  | cons {name : String} {v : Json} {fields : List (String × Json)} {d d₁ d₂ : σ}
    (first : ∀ rest, Delimited rest → field d name (':' :: (v.chars ++ rest)) = .ok (d₁, rest))
    (more : Fills field fields d₁ d₂) : Fills field ((name, v) :: fields) d d₂

theorem Fills.append {fields more : List (String × Json)} {d d₁ d₂ : σ}
    (h : Fills field fields d d₁) (h' : Fills field more d₁ d₂) :
    Fills field (fields ++ more) d d₂ := by
  induction h with
  | nil d => exact h'
  | cons first rest ih => exact .cons first (ih h')

/-- A field that is there if there is a value for it. -/
theorem Fills.option {name : String} {f : α → Json} (put : Option (Option α) → σ)
    (hsome : ∀ a rest, Delimited rest →
      field (put none) name (':' :: ((f a).chars ++ rest)) = .ok (put (some (some a)), rest))
    (a? : Option α) :
    Fills field (a?.map fun a => (name, f a)).toList (put none) (put (a?.map some)) := by
  cases a? with
  | none => exact .nil _
  | some a => exact .cons (hsome a) (.nil _)

theorem delimited_fields (fields : List (String × Json)) (rest : List Char) :
    Delimited (moreFields fields ++ '\x7d' :: rest) := by
  cases fields with
  | nil => exact delimited_cons (.inr (.inr rfl)) rest
  | cons f fields => exact delimited_cons (.inl rfl) _

/-- A field that is next, and what is behind it. -/
theorem readFields_cons {name : String} {v : Json} {d d₁ : σ} {s rest : List Char} {first : Bool}
    (hnext : nextField first s = .ok (some (stringChars name ++ ':' :: (v.chars ++ rest)),
      stringChars name ++ ':' :: (v.chars ++ rest)))
    (hfield : field d name (':' :: (v.chars ++ rest)) = .ok (d₁, rest)) (fuel : Nat) :
    readFields field (fuel + 1) first d s = readFields field fuel false d₁ rest := by
  have hname : (stringChars name ++ ':' :: (v.chars ++ rest)).drop 1 =
      name.toList.flatMap escape ++ '\x22' :: ':' :: (v.chars ++ rest) := by
    simp [stringChars]
  have hstring := readString_written name (':' :: (v.chars ++ rest))
  rw [readFields, hnext]
  simp only [bind, Except.bind, hname, hstring, hfield]

/-- The fields behind the first. -/
theorem readFields_behind {fields : List (String × Json)} {d d' : σ} (h : Fills field fields d d')
    (rest : List Char) {fuel : Nat} (hfuel : fields.length < fuel) :
    readFields field fuel false d (moreFields fields ++ '\x7d' :: rest) =
      .ok (d', '\x7d' :: rest) := by
  induction h generalizing fuel with
  | nil d =>
    obtain ⟨fuel, rfl⟩ := Nat.exists_eq_add_one.mpr hfuel
    rfl
  | @cons name v fields d d₁ d₂ first more ih =>
    obtain ⟨fuel, rfl⟩ := Nat.exists_eq_add_one.mpr (Nat.zero_lt_of_lt hfuel)
    have htext : moreFields ((name, v) :: fields) ++ '\x7d' :: rest = ',' ::
        (stringChars name ++ ':' :: (v.chars ++ (moreFields fields ++ '\x7d' :: rest))) := by
      simp [moreFields]
    rw [htext, readFields_cons rfl (first _ (delimited_fields fields rest))]
    exact ih (by simpa using hfuel)

/-- The fields of an object that was written. -/
theorem readFields_written {fields : List (String × Json)} {d d' : σ} (h : Fills field fields d d')
    (rest : List Char) {fuel : Nat} (hfuel : fields.length < fuel) :
    readFields field fuel true d (fieldChars fields ++ '\x7d' :: rest) =
      .ok (d', '\x7d' :: rest) := by
  cases h with
  | nil =>
    obtain ⟨fuel, rfl⟩ := Nat.exists_eq_add_one.mpr hfuel
    rfl
  | @cons name v fields _ d₁ _ first more =>
    obtain ⟨fuel, rfl⟩ := Nat.exists_eq_add_one.mpr (Nat.zero_lt_of_lt hfuel)
    have htext : fieldChars ((name, v) :: fields) ++ '\x7d' :: rest =
        stringChars name ++ ':' :: (v.chars ++ (moreFields fields ++ '\x7d' :: rest)) := by
      simp [fieldChars_cons]
    rw [htext, readFields_cons rfl (first _ (delimited_fields fields rest))]
    exact readFields_behind more rest (by simpa using hfuel)

end

end HarnessLink.Json
