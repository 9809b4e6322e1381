import HarnessLink.Packet.Body

/-!
# Layouts give back what they write

A layout writes some values and refuses the others. A faithful layout writes
exactly the values that fit, each in as many bytes as its size says, and reading
those bytes gives the value again and leaves what stands behind them. The law is
kept by every way of putting layouts together, so that a body needs no argument
of its own.
-/
namespace HarnessLink

/-- Both steps of a computation that succeeds succeed. -/
theorem ok_of_bind {ε α β : Type} {x : Except ε α} {f : α → Except ε β} {b : β}
    (h : x >>= f = .ok b) : ∃ a, x = .ok a ∧ f a = .ok b := by
  cases x with
  | error e => cases h
  | ok a => exact ⟨a, rfl, h⟩

theorem ok_of_map {ε α β : Type} {x : Except ε α} {f : α → β} {b : β}
    (h : x.map f = .ok b) : ∃ a, x = .ok a ∧ f a = b := by
  cases x with
  | error e => cases h
  | ok a => exact ⟨a, rfl, Except.ok.inj h⟩

namespace Layout

/-- The layout writes the values that fit and no others, in `size` bytes, and
reads them again whatever follows. -/
structure Faithful (l : Layout α) (fits : α → Prop) (size : α → Nat) : Prop where
  written : ∀ a, fits a → ∃ bytes, l.write a = .ok bytes ∧ bytes.length = size a ∧
    ∀ rest, l.read (bytes ++ rest) = .ok (a, rest)
  refused : ∀ a, ¬ fits a → ∃ e, l.write a = .error e

/-- Every value is written, and always in `n` bytes. -/
def Fixed (l : Layout α) (n : Nat) : Prop :=
  l.Faithful (fun _ => True) fun _ => n

/-- A layout that never refuses is faithful if what it writes is read again. -/
theorem fixed_of_write {l : Layout α} {n : Nat} (wire : α → Bytes)
    (hwrite : ∀ a, l.write a = .ok (wire a)) (hlength : ∀ a, (wire a).length = n)
    (hread : ∀ a rest, l.read (wire a ++ rest) = .ok (a, rest)) : l.Fixed n := by
  refine ⟨?_, ?_⟩
  · intro a _
    exact ⟨wire a, hwrite a, hlength a, hread a⟩
  · intro a h
    exact absurd trivial h

/-! ## Words -/

theorem u8_fixed : u8.Fixed 1 := by
  apply fixed_of_write fun b => [b]
  · intro b
    rfl
  · intro b
    rfl
  · intro b rest
    rfl

theorem read_u16 (w : UInt16) (rest : Bytes) : u16.read (Word.le16 w ++ rest) = .ok (w, rest) := by
  show Except.ok (Word.ofLe16 _ _, rest) = _
  rw [Word.ofLe16_bytes]

theorem u16_fixed : u16.Fixed 2 := by
  apply fixed_of_write Word.le16
  · intro w
    rfl
  · exact Word.length_le16
  · exact read_u16

theorem u32_fixed : u32.Fixed 4 := by
  apply fixed_of_write Word.le32
  · intro w
    rfl
  · exact Word.length_le32
  · intro w rest
    show Except.ok (Word.ofLe32 _ _ _ _, rest) = _
    rw [Word.ofLe32_bytes]

theorem u32be_fixed : u32be.Fixed 4 := by
  apply fixed_of_write Word.be32
  · intro w
    rfl
  · exact Word.length_be32
  · intro w rest
    show Except.ok (Word.ofBe32 _ _ _ _, rest) = _
    rw [Word.ofBe32_bytes]

/-! ## Layouts put together -/

theorem Faithful.via {l : Layout α} {fits : α → Prop} {size : α → Nat} (h : l.Faithful fits size)
    {build : α → β} {view : β → α} (hview : ∀ b, build (view b) = b) :
    (l.via build view).Faithful (fun b => fits (view b)) fun b => size (view b) := by
  refine ⟨?_, fun b => h.refused (view b)⟩
  intro b hfits
  obtain ⟨bytes, hwrite, hlength, hread⟩ := h.written (view b) hfits
  refine ⟨bytes, hwrite, hlength, ?_⟩
  intro rest
  show (l.read (bytes ++ rest)).map _ = _
  rw [hread]
  show Except.ok (build (view b), rest) = _
  rw [hview]

theorem Faithful.pair {l : Layout α} {m : Layout β} {fits : α → Prop} {fits' : β → Prop}
    {size : α → Nat} {size' : β → Nat} (h : l.Faithful fits size) (h' : m.Faithful fits' size') :
    (l.pair m).Faithful (fun v => fits v.1 ∧ fits' v.2) fun v => size v.1 + size' v.2 := by
  refine ⟨?_, ?_⟩
  · rintro ⟨a, b⟩ ⟨hfits, hfits'⟩
    obtain ⟨front, hwrite, hlength, hread⟩ := h.written a hfits
    obtain ⟨back, hwrite', hlength', hread'⟩ := h'.written b hfits'
    refine ⟨front ++ back, ?_, ?_, ?_⟩
    · show (l.write a >>= fun x => m.write b >>= fun y => pure (x ++ y)) = _
      rw [hwrite, hwrite']
      rfl
    · rw [List.length_append, hlength, hlength']
    · intro rest
      show (l.read _ >>= fun x => m.read x.2 >>= fun y => pure ((x.1, y.1), y.2)) = _
      rw [List.append_assoc, hread]
      show (m.read (back ++ rest) >>= fun y => pure ((a, y.1), y.2)) = _
      rw [hread']
      rfl
  · rintro ⟨a, b⟩ h₀
    show ∃ e, (l.write a >>= fun x => m.write b >>= fun y => pure (x ++ y)) = .error e
    by_cases hfits : fits a
    · obtain ⟨e, he⟩ := h'.refused b fun hfits' => h₀ ⟨hfits, hfits'⟩
      obtain ⟨front, hwrite, -, -⟩ := h.written a hfits
      refine ⟨e, ?_⟩
      rw [hwrite, he]
      rfl
    · obtain ⟨e, he⟩ := h.refused a hfits
      refine ⟨e, ?_⟩
      rw [he]
      rfl

/-- The same law with what fits and how long it is said in other words. -/
theorem Faithful.congr {l : Layout α} {fits fits' : α → Prop} {size size' : α → Nat}
    (h : l.Faithful fits size) (hfits : ∀ a, fits a ↔ fits' a) (hsize : ∀ a, size a = size' a) :
    l.Faithful fits' size' := by
  obtain rfl : fits = fits' := funext fun a => propext (hfits a)
  obtain rfl : size = size' := funext hsize
  exact h

theorem Fixed.via {l : Layout α} {n : Nat} (h : l.Fixed n) {build : α → β} {view : β → α}
    (hview : ∀ b, build (view b) = b) : (l.via build view).Fixed n :=
  Faithful.via h hview

theorem Fixed.pair {l : Layout α} {m : Layout β} {n k : Nat} (h : l.Fixed n) (h' : m.Fixed k) :
    (l.pair m).Fixed (n + k) :=
  (Faithful.pair h h').congr (fun _ => and_self_iff) fun _ => rfl

/-- A fixed part in front of a body that may be refused. -/
theorem Fixed.pair_faithful {l : Layout α} {m : Layout β} {n : Nat} {fits : β → Prop}
    {size : β → Nat} (h : l.Fixed n) (h' : m.Faithful fits size) :
    (l.pair m).Faithful (fun v => fits v.2) fun v => n + size v.2 :=
  (Faithful.pair h h').congr (fun v => iff_of_eq (true_and (fits v.2))) fun _ => rfl

theorem deviceId_fixed : deviceId.Fixed 4 :=
  u32_fixed.via fun _ => rfl

theorem status_fixed : status.Fixed 2 :=
  u16_fixed.via fun _ => rfl

theorem flag_fixed : flag.Fixed 1 := by
  apply u8_fixed.via
  intro on
  cases on <;> rfl

/-! ## Blobs and lists -/

theorem blob_faithful (what : String) :
    (blob what).Faithful (fun data => data.length ≤ 65535) fun data => 2 + data.length := by
  refine ⟨?_, ?_⟩
  · intro data h
    have hcount : (UInt16.ofNat data.length).toNat = data.length := by
      rw [UInt16.toNat_ofNat']
      omega
    refine ⟨Word.le16 (UInt16.ofNat data.length) ++ data, if_pos h, ?_, ?_⟩
    · rw [List.length_append, Word.length_le16]
    · intro rest
      show (u16.read _ >>= _) = _
      rw [List.append_assoc, read_u16]
      show (if (List.take _ (data ++ rest)).length = _ then _ else _) = _
      rw [hcount, List.take_left, List.drop_left, if_pos rfl]
      rfl
  · intro data h
    exact ⟨_, if_neg h⟩

/-- Values of a fixed size, one behind the other. -/
theorem Fixed.many {entry : Layout α} {n : Nat} (h : entry.Fixed n) (values : List α) :
    ∃ parts, values.mapM entry.write = .ok parts ∧ parts.flatten.length = n * values.length ∧
      ∀ rest, entry.readMany values.length (parts.flatten ++ rest) = .ok (values, rest) := by
  induction values with
  | nil => exact ⟨[], rfl, rfl, fun rest => rfl⟩
  | cons a values ih =>
    obtain ⟨bytes, hwrite, hlength, hread⟩ := h.written a trivial
    obtain ⟨parts, hparts, hlengths, hreads⟩ := ih
    refine ⟨bytes :: parts, ?_, ?_, ?_⟩
    · rw [List.mapM_cons, hwrite, hparts]
      rfl
    · rw [List.flatten_cons, List.length_append, hlength, hlengths, List.length_cons]
      rw [Nat.mul_succ, Nat.add_comm]
    · intro rest
      rw [List.flatten_cons, List.append_assoc]
      show (entry.read _ >>= fun x => entry.readMany values.length x.2 >>= fun y =>
        pure (x.1 :: y.1, y.2)) = _
      rw [hread]
      show (entry.readMany values.length (parts.flatten ++ rest) >>= fun y =>
        pure (a :: y.1, y.2)) = _
      rw [hreads]
      rfl

theorem Fixed.counted {entry : Layout α} {n : Nat} (h : entry.Fixed n) (what : String) :
    (counted what entry).Faithful (fun values => values.length ≤ 255)
      fun values => 1 + n * values.length := by
  refine ⟨?_, ?_⟩
  · intro values hfits
    have hcount : (UInt8.ofNat values.length).toNat = values.length := by
      rw [UInt8.toNat_ofNat']
      omega
    obtain ⟨parts, hparts, hlength, hread⟩ := h.many values
    refine ⟨UInt8.ofNat values.length :: parts.flatten, ?_, ?_, ?_⟩
    · show (if values.length ≤ 255 then values.mapM entry.write >>= _ else _) = _
      rw [if_pos hfits, hparts]
      rfl
    · rw [List.length_cons, hlength, Nat.add_comm]
    · intro rest
      show entry.readMany (UInt8.ofNat values.length).toNat (parts.flatten ++ rest) = _
      rw [hcount, hread]
  · intro values hfits
    exact ⟨_, if_neg hfits⟩

/-! ## Bodies of messages -/

theorem readBody_of_read {l : Layout α} {body : Bytes} {a : α} {rest : Bytes}
    (h : l.read body = .ok (a, rest)) (name : String) : l.readBody name body = .ok a := by
  unfold readBody
  rw [h]

end Layout

end HarnessLink
