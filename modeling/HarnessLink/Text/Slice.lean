/-!
# Pieces of a text by bytes

In UTF-8 a character takes up one byte or more. A text can be cut behind a number of bytes only
where no character stands across the cut.
-/
namespace HarnessLink.Text

/-- The bytes that characters take up. -/
def byteCount : List Char → Nat
  | [] => 0
  | c :: rest => c.utf8Size + byteCount rest

/-- The characters that take up the first `n` bytes, and those behind them. -/
def splitBytes? : Nat → List Char → Option (List Char × List Char)
  | 0, cs => some ([], cs)
  | _ + 1, [] => none
  | n + 1, c :: rest =>
    if c.utf8Size ≤ n + 1 then
      (splitBytes? (n + 1 - c.utf8Size) rest).map fun (front, rest) => (c :: front, rest)
    else none

/-- The characters that take up the bytes from `start` up to `stop`. -/
def slice? (start stop : Nat) (cs : List Char) : Option (List Char) := do
  let (_, rest) ← splitBytes? start cs
  let (middle, _) ← splitBytes? (stop - start) rest
  return middle

@[simp] theorem byteCount_nil : byteCount [] = 0 := rfl

@[simp] theorem byteCount_cons (c : Char) (rest : List Char) :
    byteCount (c :: rest) = c.utf8Size + byteCount rest := rfl

theorem byteCount_eq_zero {cs : List Char} : byteCount cs = 0 ↔ cs = [] := by
  cases cs <;> simp [Nat.ne_of_gt (Char.utf8Size_pos _)]

/-- A text can be cut behind any of its characters. -/
theorem splitBytes?_append (front rest : List Char) :
    splitBytes? (byteCount front) (front ++ rest) = some (front, rest) := by
  induction front with
  | nil => simp [splitBytes?]
  | cons c front ih =>
    obtain ⟨n, hn⟩ : ∃ n, byteCount (c :: front) = n + 1 :=
      Nat.exists_eq_add_one.mpr (Nat.add_pos_left c.utf8Size_pos _)
    have hrest : n + 1 - c.utf8Size = byteCount front := by
      rw [← hn, byteCount_cons, Nat.add_sub_cancel_left]
    have hle : c.utf8Size ≤ n + 1 := by
      rw [← hn, byteCount_cons]
      exact Nat.le_add_right _ _
    rw [hn, List.cons_append, splitBytes?, if_pos hle, hrest, ih]
    rfl

/-- What a text is cut into is the text, and the front takes up that many bytes. -/
theorem eq_append_of_splitBytes? {n : Nat} {cs front rest : List Char}
    (h : splitBytes? n cs = some (front, rest)) : cs = front ++ rest ∧ byteCount front = n := by
  induction cs generalizing n front with
  | nil =>
    cases n with
    | zero =>
      cases h
      exact ⟨rfl, rfl⟩
    | succ n => cases h
  | cons c cs ih =>
    cases n with
    | zero =>
      cases h
      exact ⟨rfl, rfl⟩
    | succ n =>
      rw [splitBytes?] at h
      split at h
      · next hle =>
        obtain ⟨⟨front, rest⟩, hsplit, hcons⟩ := Option.map_eq_some_iff.mp h
        cases hcons
        obtain ⟨rfl, hcount⟩ := ih hsplit
        exact ⟨rfl, by rw [byteCount_cons, hcount]; omega⟩
      · cases h

/-- The bytes behind a front of the text are those of what stands there. -/
theorem slice?_append (front middle rest : List Char) :
    slice? (byteCount front) (byteCount front + byteCount middle) (front ++ (middle ++ rest)) =
      some middle := by
  simp [slice?, splitBytes?_append]

/-- A slice behind a front of the text is what stands there. -/
theorem eq_append_of_slice? {n : Nat} {front cs middle : List Char}
    (h : slice? (byteCount front) (byteCount front + n) (front ++ cs) = some middle) :
    byteCount middle = n ∧ ∃ rest, cs = middle ++ rest := by
  simp only [slice?, splitBytes?_append, Nat.add_sub_cancel_left, Option.bind_eq_bind,
    Option.bind_some, Option.bind_eq_some_iff] at h
  obtain ⟨⟨middle, rest⟩, hsplit, hmiddle⟩ := h
  cases hmiddle
  obtain ⟨rfl, hcount⟩ := eq_append_of_splitBytes? hsplit
  exact ⟨hcount, rest, rfl⟩

end HarnessLink.Text
