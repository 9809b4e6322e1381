import HarnessLink.Frame.Fragment
import Mathlib.Tactic.SplitIfs

/-!
# Scanning a stream in parts

What the front of received bytes is, case by case. A decision that is made on the
bytes at hand stays the same when more bytes follow, and bytes that are kept decide
nothing alone, so a scan may be cut anywhere and go on with the bytes that it kept.
-/
namespace HarnessLink.Fragment

/-- A whole header decides at once whether its length is one, and with its length
whether the chunk is there. -/
theorem lead_header (maxChunk : Nat) (l0 l1 slot kind index flag : UInt8) (body : Bytes) :
    lead maxChunk (0xAB :: 0xCD :: l0 :: l1 :: slot :: kind :: index :: flag :: body) =
      if maxChunk < (Word.ofLe16 l0 l1).toNat then .noise
      else if (Word.ofLe16 l0 l1).toNat ≤ body.length then
        .complete ⟨slot, kind, index, flag ≠ 0, body.take (Word.ofLe16 l0 l1).toNat⟩
          (body.drop (Word.ofLe16 l0 l1).toNat)
      else .incomplete := by
  have hlen : (body.take (Word.ofLe16 l0 l1).toNat).length = (Word.ofLe16 l0 l1).toNat ↔
      (Word.ofLe16 l0 l1).toNat ≤ body.length := by
    rw [List.length_take]
    omega
  simp only [lead, hlen, and_self, if_true]

theorem lead_other (maxChunk : Nat) {a b : UInt8} (tail : Bytes) (h : ¬(a = 0xAB ∧ b = 0xCD)) :
    lead maxChunk (a :: b :: tail) = .noise := by
  simp only [lead, if_neg h]

/-- What stands at the front of received bytes: too little for a header, no
delimiter, or a whole header. -/
inductive Front : Bytes → Prop where
  | empty : Front []
  | half : Front [0xAB]
  | single (a : UInt8) (h : a ≠ 0xAB) : Front [a]
  | other (a b : UInt8) (tail : Bytes) (h : ¬(a = 0xAB ∧ b = 0xCD)) : Front (a :: b :: tail)
  | short (tail : Bytes) (h : tail.length < 6) : Front (0xAB :: 0xCD :: tail)
  | header (l0 l1 slot kind index flag : UInt8) (body : Bytes) :
      Front (0xAB :: 0xCD :: l0 :: l1 :: slot :: kind :: index :: flag :: body)

theorem front (bytes : Bytes) : Front bytes := by
  match bytes with
  | [] => exact .empty
  | [a] =>
    by_cases ha : a = 0xAB
    · rw [ha]
      exact .half
    · exact .single a ha
  | a :: b :: tail =>
    by_cases hab : a = 0xAB ∧ b = 0xCD
    · obtain ⟨rfl, rfl⟩ := hab
      match tail with
      | l0 :: l1 :: slot :: kind :: index :: flag :: body =>
        exact .header l0 l1 slot kind index flag body
      | [] | [_] | [_, _] | [_, _, _] | [_, _, _, _] | [_, _, _, _, _] =>
        exact .short _ (by simp)
    · exact .other a b tail hab

theorem lead_short (maxChunk : Nat) {tail : Bytes} (h : tail.length < 6) :
    lead maxChunk (0xAB :: 0xCD :: tail) = .incomplete := by
  match tail with
  | [] | [_] | [_, _] | [_, _, _] | [_, _, _, _] | [_, _, _, _, _] => rfl
  | _ :: _ :: _ :: _ :: _ :: _ :: _ =>
    simp only [List.length_cons] at h
    omega

/-- Noise stays noise when more bytes follow. -/
theorem lead_noise_append {maxChunk : Nat} {bytes : Bytes} (more : Bytes)
    (h : lead maxChunk bytes = .noise) : lead maxChunk (bytes ++ more) = .noise := by
  cases front bytes with
  | empty => simp [lead] at h
  | half => simp [lead] at h
  | single a ha =>
    cases more with
    | nil => exact h
    | cons b more => exact lead_other maxChunk more fun hab => ha hab.1
  | other a b tail hab => exact lead_other maxChunk (tail ++ more) hab
  | short tail ht =>
    rw [lead_short maxChunk ht] at h
    cases h
  | header l0 l1 slot kind index flag body =>
    simp only [List.cons_append, lead_header] at h ⊢
    split_ifs at h ⊢ with hlong
    rfl

/-- A fragment that is all there stays what it is when more bytes follow. -/
theorem lead_complete_append {maxChunk : Nat} {bytes rest : Bytes} {f : Fragment} (more : Bytes)
    (h : lead maxChunk bytes = .complete f rest) :
    lead maxChunk (bytes ++ more) = .complete f (rest ++ more) := by
  cases front bytes with
  | empty => simp [lead] at h
  | half => simp [lead] at h
  | single a ha => simp [lead, ha] at h
  | other a b tail hab =>
    rw [lead_other maxChunk tail hab] at h
    cases h
  | short tail ht =>
    rw [lead_short maxChunk ht] at h
    cases h
  | header l0 l1 slot kind index flag body =>
    simp only [List.cons_append, lead_header] at h ⊢
    split_ifs at h with hlong hbody
    obtain ⟨rfl, rfl⟩ := Lead.complete.inj h
    have hmore : (Word.ofLe16 l0 l1).toNat ≤ (body ++ more).length := by
      rw [List.length_append]
      omega
    rw [if_neg hlong, if_pos hmore, List.take_append_of_le_length hbody,
      List.drop_append_of_le_length hbody]

theorem scan_of_complete {maxChunk : Nat} {bytes rest : Bytes} {f : Fragment}
    (h : lead maxChunk bytes = .complete f rest) : scan maxChunk bytes = .found f rest := by
  cases bytes with
  | nil => simp [lead] at h
  | cons b tail => simp only [scan, h]

/-- A fragment that was found is found again when more bytes follow. -/
theorem scan_found_append {maxChunk : Nat} {bytes rest : Bytes} {f : Fragment} (more : Bytes)
    (h : scan maxChunk bytes = .found f rest) :
    scan maxChunk (bytes ++ more) = .found f (rest ++ more) := by
  induction bytes with
  | nil => simp [scan] at h
  | cons b tail ih =>
    simp only [List.cons_append]
    rw [scan] at h ⊢
    cases hlead : lead maxChunk (b :: tail) with
    | noise =>
      rw [hlead] at h
      have hmore := lead_noise_append more hlead
      rw [List.cons_append] at hmore
      rw [hmore]
      exact ih h
    | incomplete =>
      rw [hlead] at h
      cases h
    | complete g after =>
      rw [hlead] at h
      obtain ⟨rfl, rfl⟩ := Scan.found.inj h
      have hmore := lead_complete_append more hlead
      rw [List.cons_append] at hmore
      rw [hmore]

/-- A scan that ran out of bytes goes on with those that it kept, as if it had seen
all of them at once. -/
theorem scan_waiting_append {maxChunk : Nat} {bytes kept : Bytes} (more : Bytes)
    (h : scan maxChunk bytes = .waiting kept) :
    scan maxChunk (bytes ++ more) = scan maxChunk (kept ++ more) := by
  -- Both scans skip the same noise up to the front that was incomplete.
  induction bytes with
  | nil =>
    obtain rfl := Scan.waiting.inj h
    rfl
  | cons b tail ih =>
    rw [scan] at h
    cases hlead : lead maxChunk (b :: tail) with
    | noise =>
      rw [hlead] at h
      have hmore := lead_noise_append more hlead
      rw [List.cons_append] at hmore ⊢
      rw [scan, hmore]
      exact ih h
    | incomplete =>
      rw [hlead] at h
      obtain rfl := Scan.waiting.inj h
      rfl
    | complete g after =>
      rw [hlead] at h
      cases h

/-- Bytes that are kept hold no fragment. -/
theorem scan_kept {maxChunk : Nat} {bytes kept : Bytes} (h : scan maxChunk bytes = .waiting kept) :
    scan maxChunk kept = .waiting kept := by
  have happend := scan_waiting_append [] h
  rw [List.append_nil, List.append_nil, h] at happend
  exact happend.symm

theorem scanAll_of_waiting {maxChunk : Nat} {bytes kept : Bytes}
    (h : scan maxChunk bytes = .waiting kept) : scanAll maxChunk bytes = ([], kept) := by
  rw [scanAll]
  split
  · next h' =>
    rw [h] at h'
    obtain rfl := Scan.waiting.inj h'
    rfl
  · next h' =>
    rw [h] at h'
    cases h'

theorem scanAll_of_found {maxChunk : Nat} {bytes rest : Bytes} {f : Fragment}
    (h : scan maxChunk bytes = .found f rest) :
    scanAll maxChunk bytes = (f :: (scanAll maxChunk rest).1, (scanAll maxChunk rest).2) := by
  rw [scanAll]
  split
  · next h' =>
    rw [h] at h'
    cases h'
  · next h' =>
    rw [h] at h'
    obtain ⟨rfl, rfl⟩ := Scan.found.inj h'
    rfl

/-- Only the first scan tells two lists of bytes apart. -/
theorem scanAll_congr {maxChunk : Nat} {bytes bytes' : Bytes}
    (h : scan maxChunk bytes = scan maxChunk bytes') :
    scanAll maxChunk bytes = scanAll maxChunk bytes' := by
  cases hscan : scan maxChunk bytes' with
  | waiting kept => rw [scanAll_of_waiting (h.trans hscan), scanAll_of_waiting hscan]
  | found f rest => rw [scanAll_of_found (h.trans hscan), scanAll_of_found hscan]

/-- Bytes may be scanned in two parts, the second behind what the first leaves. -/
theorem scanAll_append (maxChunk : Nat) (bytes more : Bytes) :
    scanAll maxChunk (bytes ++ more) =
      ((scanAll maxChunk bytes).1 ++ (scanAll maxChunk ((scanAll maxChunk bytes).2 ++ more)).1,
        (scanAll maxChunk ((scanAll maxChunk bytes).2 ++ more)).2) := by
  induction bytes using scanAll.induct maxChunk with
  | case1 bytes kept h =>
    rw [scanAll_of_waiting h]
    exact scanAll_congr (scan_waiting_append more h)
  | case2 bytes f rest h fragments kept hrest ih =>
    rw [scanAll_of_found (scan_found_append more h), scanAll_of_found h, ih]
    rfl

/-- A whole scan keeps what a scan of it would keep. -/
theorem scan_scanAll (maxChunk : Nat) (bytes : Bytes) :
    scan maxChunk (scanAll maxChunk bytes).2 = .waiting (scanAll maxChunk bytes).2 := by
  induction bytes using scanAll.induct maxChunk with
  | case1 bytes kept h =>
    rw [scanAll_of_waiting h]
    exact scan_kept h
  | case2 bytes f rest h fragments kept hrest ih =>
    rw [scanAll_of_found h]
    exact ih

end HarnessLink.Fragment
