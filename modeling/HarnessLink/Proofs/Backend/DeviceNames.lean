import HarnessLink.Proofs.Backend.Answers
import HarnessLink.Proofs.Backend.Surfaces
import HarnessLink.Proofs.Packet.Spelling

/-!
# Ids of devices by their texts

An id may be written in many ways: a pair of digits for each byte of the wire, each digit of either
case, separators between the pairs or none, and blanks around all of it. Each of them is read as
that id. The text of an id is one of them, so it tells the id, and the devices that an answer to the
backend lists by their texts are the devices that failed.
-/
namespace HarnessLink

namespace Text

namespace Hex

/-- The digits of a byte, the high one first and each of either case. -/
def IsPair (pair : List Char) (b : UInt8) : Prop :=
  List.Forall₂ Denotes pair [b.toNat / 16, b.toNat % 16]

theorem isPair_byte (b : UInt8) : IsPair (byte b) b := by
  have hb := b.toNat_lt
  have hhigh := denotes_digit (b.toNat / 16)
  rw [Nat.mod_eq_of_lt (by omega)] at hhigh
  exact .cons hhigh (.cons (denotes_digit _) .nil)

theorem IsPair.spells {pair : List Char} {b : UInt8} (h : IsPair pair b) :
    pair.length = 2 ∧ Spells pair b.toNat := by
  have hvalue : valueOf [b.toNat / 16, b.toNat % 16] = b.toNat := by
    simp only [valueOf, List.foldl_cons, List.foldl_nil]
    omega
  have hspelled := Spells.digits h (List.cons_ne_nil _ _)
  rw [hvalue] at hspelled
  exact ⟨h.length_eq, hspelled⟩

theorem IsPair.not_separator {pair : List Char} {b : UInt8} (h : IsPair pair b) :
    ∀ c ∈ pair, DeviceId.isSeparator c = false :=
  forall_of_denotes Denotes.not_separator h

end Hex

end Text

open Text

namespace DeviceId

/-! ## Ways to write an id -/

/-- Bytes are written as pairs of digits in order, with separators or nothing between two pairs. -/
inductive Written : Bytes → List Char → Prop
  | last {b : UInt8} {pair : List Char} (digits : Hex.IsPair pair b) : Written [b] pair
  | more {b : UInt8} {bs : Bytes} {pair between cs : List Char} (digits : Hex.IsPair pair b)
      (separated : ∀ c ∈ between, isSeparator c = true) (rest : Written bs cs) :
      Written (b :: bs) (pair ++ (between ++ cs))

/-- The text is a way to write the id: its bytes in the order of the wire, with blanks or nothing
around them. -/
def Renders (id : DeviceId) (s : String) : Prop :=
  ∃ front body back, s.toList = front ++ (body ++ back) ∧ (∀ c ∈ front, isBlank c = true) ∧
    Written id.wire body ∧ ∀ c ∈ back, isBlank c = true

theorem not_blank_of_isSeparator {c : Char} (h : isSeparator c = true) : isBlank c = false := by
  simp only [isSeparator, Bool.or_eq_true, decide_eq_true_eq] at h
  rcases h with rfl | rfl <;> decide

namespace Written

variable {bs : Bytes} {cs : List Char}

theorem not_blank (h : Written bs cs) : ∀ c ∈ cs, isBlank c = false := by
  induction h with
  | last digits => exact Hex.not_blank_of_denotes digits
  | more digits separated _ ih =>
    intro c hc
    rcases List.mem_append.mp hc with hc | hc
    · exact Hex.not_blank_of_denotes digits c hc
    rcases List.mem_append.mp hc with hc | hc
    · exact not_blank_of_isSeparator (separated c hc)
    · exact ih c hc

/-- The pairs are left when separators are left out. -/
theorem exists_pairs (h : Written bs cs) :
    ∃ pairs, cs.filter (fun c => !isSeparator c) = pairs.flatten ∧
      List.Forall₂ Hex.IsPair pairs bs := by
  have hkept : ∀ {b pair}, Hex.IsPair pair b → pair.filter (fun c => !isSeparator c) = pair :=
    fun digits => List.filter_eq_self.mpr fun c hc => by rw [digits.not_separator c hc]; rfl
  induction h with
  | @last b pair digits =>
    exact ⟨[pair], by rw [hkept digits, List.flatten_singleton], .cons digits .nil⟩
  | @more b bs pair between cs digits separated _ ih =>
    obtain ⟨pairs, hrest, hpairs⟩ := ih
    have hdropped : between.filter (fun c => !isSeparator c) = [] :=
      List.filter_eq_nil_iff.mpr fun c hc => by rw [separated c hc]; decide
    refine ⟨pair :: pairs, ?_, .cons digits hpairs⟩
    rw [List.filter_append, List.filter_append, hkept digits, hdropped, hrest, List.nil_append,
      List.flatten_cons]

end Written

/-- Each way to write an id is read as that id. -/
theorem ofText_of_renders {id : DeviceId} {s : String} (h : Renders id s) : ofText s = .ok id := by
  obtain ⟨front, body, back, hchars, hfront, written, hback⟩ := h
  obtain ⟨pairs, hpairs, digits⟩ := written.exists_pairs
  refine ofText_eq_ok_iff.mpr ⟨pairs, ?_, digits.imp fun _ _ pair => pair.spells⟩
  rw [significant, hchars, trim_blanks hfront written.not_blank hback, hpairs]

/-- The text of an id is a way to write it. -/
theorem renders_text (id : DeviceId) : Renders id id.text := by
  have hdash : ∀ c ∈ ['-'], isSeparator c = true := List.forall_mem_singleton.mpr (by decide)
  refine ⟨[], id.chars, [], ?_, List.forall_mem_nil _, ?_, List.forall_mem_nil _⟩
  · rw [text, String.toList_ofList, List.nil_append, List.append_nil]
  · exact .more (Hex.isPair_byte _) hdash (.more (Hex.isPair_byte _) hdash
      (.more (Hex.isPair_byte _) hdash (.last (Hex.isPair_byte _))))

/-! ## Failed devices in answers -/

/-- Ids are read from their texts, one after the other. -/
theorem mapM_ofText (ids : List DeviceId) : (ids.map text).mapM ofText = .ok ids := by
  induction ids with
  | nil => rfl
  | cons id ids ih =>
    rw [List.map_cons, List.mapM_cons, ofText_text, ih]
    rfl

end DeviceId

namespace BackendResponse

/-- Answers with one text are the same. -/
theorem text_inj {a b : BackendResponse} (h : a.text = b.text) : a = b := by
  have hread : ∀ r : BackendResponse, read r.json.chars = .ok (r, []) := by
    intro r
    have hr := r.reads_response [] Json.delimited_nil
    rwa [List.append_nil] at hr
  have hchars : a.json.chars = b.json.chars := String.ofList_injective h
  have hsame := hread a
  rw [hchars, hread b] at hsame
  exact (Prod.mk.inj (Except.ok.inj hsame)).1.symm

end BackendResponse

namespace DeviceId

/-- Each way to write an id is read as that id, and the text of an id is one of them, so no two ids
have one text. The list of failed devices in an answer reads back as the devices that failed, in
order, and answers with one text name the same ones. -/
theorem renderings_read :
    (∀ id s, Renders id s → ofText s = .ok id) ∧
    (∀ id : DeviceId, Renders id id.text ∧ ofText id.text = .ok id) ∧
    Function.Injective text ∧
    (∀ name (o : CommandOutcome),
      (BackendResponse.ofOutcome name o).result.failed.mapM ofText = .ok o.failed) ∧
    ∀ name other (o o' : CommandOutcome),
      (BackendResponse.ofOutcome name o).text = (BackendResponse.ofOutcome other o').text →
        o.failed = o'.failed := by
  have hfailed : ∀ name (o : CommandOutcome),
      (BackendResponse.ofOutcome name o).result.failed.mapM ofText = .ok o.failed := by
    intro name o
    rw [BackendResponse.failed_ofOutcome, mapM_ofText]
  refine ⟨fun _ _ => ofText_of_renders, fun id => ⟨renders_text id, ofText_text id⟩,
    fun _ _ => text_inj.mp, hfailed, fun name other o o' h => ?_⟩
  have hsame := hfailed name o
  rw [BackendResponse.text_inj h, hfailed] at hsame
  exact (Except.ok.inj hsame).symm

/-- Digits of both cases and separators of both kinds, with blanks around them. -/
theorem renderings_read_mixed :
    Renders ⟨0x0DBC0AFF⟩ "\u3000fF-0a:Bc0D\n" ∧
      ofText "\u3000fF-0a:Bc0D\n" = .ok ⟨0x0DBC0AFF⟩ := by
  have hrenders : Renders ⟨0x0DBC0AFF⟩ "\u3000fF-0a:Bc0D\n" := by
    refine ⟨['\u3000'], ['f', 'F'] ++ (['-'] ++ (['0', 'a'] ++ ([':'] ++ (['B', 'c'] ++
      ([] ++ ['0', 'D']))))), ['\n'], by decide +kernel, List.forall_mem_singleton.mpr (by decide),
      ?_, List.forall_mem_singleton.mpr (by decide)⟩
    exact .more (.cons (Hex.denotes_digitLower 15) (.cons (Hex.denotes_digit 15) .nil))
        (List.forall_mem_singleton.mpr (by decide))
      (.more (.cons (Hex.denotes_digit 0) (.cons (Hex.denotes_digitLower 10) .nil))
        (List.forall_mem_singleton.mpr (by decide))
      (.more (.cons (Hex.denotes_digit 11) (.cons (Hex.denotes_digitLower 12) .nil))
        (List.forall_mem_nil _)
      (.last (.cons (Hex.denotes_digit 0) (.cons (Hex.denotes_digit 13) .nil)))))
  exact ⟨hrenders, renderings_read.1 _ _ hrenders⟩

end DeviceId

end HarnessLink
