import HarnessLink.Backend.Interface
import HarnessLink.Proofs.Json.Records

/-!
# Structured requests that carry the fields of a message

What a structured request looks like that asks for the same as a message of the backend: it names
the instruction, spells ids and pins as texts, and leaves the clip test of a slave out exactly when
the message has no clip status for it. Such a request stands for the command of the message, and
for none where the message stands for none.
-/
namespace HarnessLink

open Json Text

/-! ## Pins in text -/

/-- What may stand in front of hexadecimal digits. -/
def hexMarks : List (List Char) := [[], ['0', 'x'], ['0', 'X']]

theorem not_blank_of_mem_hexMarks {mark : List Char} (h : mark ∈ hexMarks) :
    ∀ c ∈ mark, isBlank c = false := by
  have hzero : isBlank '0' = false := by decide
  simp only [hexMarks, List.mem_cons, List.not_mem_nil, or_false] at h
  rcases h with rfl | rfl | rfl
  · exact List.forall_mem_nil _
  · exact List.forall_mem_cons.mpr ⟨hzero, List.forall_mem_singleton.mpr (by decide)⟩
  · exact List.forall_mem_cons.mpr ⟨hzero, List.forall_mem_singleton.mpr (by decide)⟩

/-- The text spells the word in digits of either case, most significant first and as many as one
likes, with or without a mark in front. -/
inductive SpellsWord (w : UInt16) : String → Prop
  | digits {mark cs : List Char} {ds : List Nat} (marked : mark ∈ hexMarks)
      (denoted : List.Forall₂ Hex.Denotes cs ds) (nonempty : ds ≠ [])
      (value : Hex.valueOf ds = w.toNat) : SpellsWord w (String.ofList (mark ++ cs))

/-- Digits contain no mark. -/
theorem dropMark_digits {cs : List Char} {ds : List Nat} (h : List.Forall₂ Hex.Denotes cs ds)
    {a b : Char} (hb : ∀ d, ¬ Hex.Denotes b d) : dropMark a b cs = cs := by
  cases h with
  | nil => rfl
  | @cons c d cs ds hc hrest =>
    cases hrest with
    | nil => rfl
    | @cons c' d' cs ds hc' _ =>
      rw [dropMark, if_neg]
      rintro ⟨-, rfl⟩
      exact hb d' hc'

theorem hexWord?_of_spells {w : UInt16} {s : String} (h : SpellsWord w s) :
    hexWord? s = some w := by
  obtain @⟨mark, cs, ds, marked, denoted, hne, value⟩ := h
  have hlower : ∀ d, ¬ Hex.Denotes 'x' d := fun d h => absurd h.digit? (by simp [Hex.digit?])
  have hcapital : ∀ d, ¬ Hex.Denotes 'X' d := fun d h => absurd h.digit? (by simp [Hex.digit?])
  have hblank : ∀ c ∈ mark ++ cs, isBlank c = false := by
    intro c hc
    rcases List.mem_append.mp hc with hc | hc
    · exact not_blank_of_mem_hexMarks marked c hc
    · exact Hex.not_blank_of_denotes denoted c hc
  -- Marks are dropped as often as they come; behind the first one there are only digits.
  have hdrop : dropMark '0' 'X' (dropMark '0' 'x' (mark ++ cs)) = cs := by
    have hkept : ∀ {b}, (∀ d, ¬ Hex.Denotes b d) → dropMark '0' b cs = cs :=
      fun hb => dropMark_digits denoted hb
    simp only [hexMarks, List.mem_cons, List.not_mem_nil, or_false] at marked
    rcases marked with rfl | rfl | rfl
    · rw [List.nil_append, hkept hlower, hkept hcapital]
    · rw [List.cons_append, List.cons_append, List.nil_append, dropMark, if_pos ⟨rfl, rfl⟩,
        hkept hlower, hkept hcapital]
    · rw [List.cons_append, List.cons_append, List.nil_append, dropMark, if_neg (by decide),
        dropMark, if_pos ⟨rfl, rfl⟩, hkept hcapital]
  have hword : w.toNat ≤ 65535 := Nat.le_of_lt_succ w.toNat_lt
  rw [hexWord?, String.toList_ofList, trim_of_not_blank hblank, hdrop,
    Hex.number?_of_denotes denoted hne, value]
  simp only [hword, if_true, UInt16.ofNat_toNat]

/-- Four capital digits behind a mark spell every word. -/
theorem spellsWord_word16 (w : UInt16) : SpellsWord w (Hex.word16 w) := by
  let high := UInt8.ofNat (w.toNat / 256)
  let low := UInt8.ofNat w.toNat
  have denoted : List.Forall₂ Hex.Denotes (Hex.bytes [high, low])
      [high.toNat / 16 % 16, high.toNat % 16, low.toNat / 16 % 16, low.toNat % 16] :=
    .cons (Hex.denotes_digit _) (.cons (Hex.denotes_digit _) (.cons (Hex.denotes_digit _)
      (.cons (Hex.denotes_digit _) .nil)))
  have value : Hex.valueOf [high.toNat / 16 % 16, high.toNat % 16, low.toNat / 16 % 16,
      low.toNat % 16] = w.toNat := by
    have hw := w.toNat_lt
    simp only [Hex.valueOf, List.foldl_cons, List.foldl_nil, high, low, UInt8.toNat_ofNat']
    omega
  have marked : ['0', 'x'] ∈ hexMarks := by decide
  exact .digits marked denoted (List.cons_ne_nil _ _) value

/-- The value gives a set of pins, as a text that spells it or as a number. -/
inductive GivesPins (pins : UInt16) : Json → Prop
  | text {s : String} (spelled : SpellsWord pins s) : GivesPins pins (.string s)
  | number : GivesPins pins (.word pins)

theorem pinsOf_of_gives {pins : UInt16} {v : Json} (h : GivesPins pins v) :
    pinsOf v = .ok pins := by
  cases h with
  | text spelled => simp only [pinsOf, hexWord?_of_spells spelled]
  | number =>
    have hword : pinsOf (.word pins) = (wordOf (.word pins)).mapError _ := rfl
    rw [hword, wordOf_word]
    rfl

/-! ## Entries as objects -/

/-- The object has the fields of a clip test. -/
inductive ClipSetup.Given (c : ClipSetup) : Json → Prop
  | object {fields : List (String × Json)} {pins : Json} (distinct : (fields.map Prod.fst).Nodup)
      (mode : fields.lookup "mode" = some (.byte c.mode)) (pin : fields.lookup "pin" = some pins)
      (given : GivesPins c.pins pins) : Given c (.object fields)

/-- The object has the fields of a slave's configuration, and a clip test exactly when there is a
clip status. -/
inductive SlaveEntry.Given (e : SlaveEntry) : Json → Prop
  | object {fields : List (String × Json)} (distinct : (fields.map Prod.fst).Nodup)
      (id : fields.lookup "id" = some (.string e.id.text))
      (cond : fields.lookup "cond" = some (.byte e.conduction))
      (Z : fields.lookup "Z" = some (.byte e.resistance))
      (bare : e.clipStatus = 0 → fields.lookup "clip" = none)
      (clip : e.clipStatus ≠ 0 → ∃ v, fields.lookup "clip" = some v ∧
        ClipSetup.Given ⟨e.clipMode, e.clipStatus⟩ v) : Given e (.object fields)

/-- The object has the fields of a slave's reset. -/
inductive ResetEntry.Given (e : ResetEntry) : Json → Prop
  | object {fields : List (String × Json)} {pins : Json} (distinct : (fields.map Prod.fst).Nodup)
      (id : fields.lookup "id" = some (.string e.id.text))
      (lock : fields.lookup "lock" = some (.byte e.lock))
      (clip : fields.lookup "clip" = some pins) (given : GivesPins e.clipStatus pins) :
      Given e (.object fields)

theorem ClipSetup.independent : Shape.Independent ClipSetup.shape.fields := by
  simp only [shape, Shape.Independent, List.pairwise_cons, List.forall_mem_cons, List.not_mem_nil,
    false_imp_iff, implies_true, and_true, List.Pairwise.nil]
  exact ⟨by decide, Field.before_of_put rfl rfl fun _ _ _ => rfl⟩

theorem DeviceSetup.independent : Shape.Independent DeviceSetup.shape.fields := by
  simp only [shape, Shape.Independent, List.pairwise_cons, List.forall_mem_cons, List.not_mem_nil,
    false_imp_iff, implies_true, and_true, List.Pairwise.nil]
  and_intros <;> first | decide | exact Field.before_of_put rfl rfl fun _ _ _ => rfl

theorem DeviceReset.independent : Shape.Independent DeviceReset.shape.fields := by
  simp only [shape, Shape.Independent, List.pairwise_cons, List.forall_mem_cons, List.not_mem_nil,
    false_imp_iff, implies_true, and_true, List.Pairwise.nil]
  and_intros <;> first | decide | exact Field.before_of_put rfl rfl fun _ _ _ => rfl

theorem ClipSetup.read_of_given {c : ClipSetup} {v : Json} (h : c.Given v) :
    ClipSetup.shape.read v = .ok c := by
  obtain ⟨distinct, mode, pin, given⟩ := h
  refine Shape.read_object independent distinct ?_ rfl
  simp only [shape]
  rw [Shape.setEach_optional mode (byteOf_byte _),
    Shape.setEach_optional pin (pinsOf_of_gives given)]
  rfl

theorem SlaveEntry.read_of_given {e : SlaveEntry} {v : Json} (h : e.Given v) :
    DeviceSetup.shape.read v = .ok (Backend.setupOf e) := by
  obtain ⟨distinct, id, cond, Z, bare, clip⟩ := h
  refine Shape.read_object DeviceSetup.independent distinct ?_ ?_
  · simp only [DeviceSetup.shape]
    rw [Shape.setEach_needed id (deviceIdOf_text _), Shape.setEach_optional cond (wordOf_byte _),
      Shape.setEach_optional Z (wordOf_byte _)]
    -- Without a clip status the field is missing, and the record has no clip test to begin with.
    by_cases hclip : e.clipStatus = 0
    · rw [Shape.setEach_optional_of_lookup_eq_none (bare hclip)]
      simp only [Backend.setupOf, if_pos hclip]
      rfl
    · obtain ⟨v, hv, given⟩ := clip hclip
      have hread : optionOf ClipSetup.shape.read v = .ok (some ⟨e.clipMode, e.clipStatus⟩) := by
        have hobject : optionOf ClipSetup.shape.read v = (ClipSetup.shape.read v).map some := by
          cases given
          rfl
        rw [hobject, ClipSetup.read_of_given given]
        rfl
      rw [Shape.setEach_optional hv hread]
      simp only [Backend.setupOf, if_neg hclip]
      rfl
  · exact Shape.missing?_needed id

theorem ResetEntry.read_of_given {e : ResetEntry} {v : Json} (h : e.Given v) :
    DeviceReset.shape.read v = .ok (Backend.resetOf e) := by
  obtain ⟨distinct, id, lock, clip, given⟩ := h
  refine Shape.read_object DeviceReset.independent distinct ?_ ?_
  · simp only [DeviceReset.shape]
    rw [Shape.setEach_needed id (deviceIdOf_text _), Shape.setEach_optional lock (byteOf_byte _),
      Shape.setEach_optional clip (pinsOf_of_gives given)]
    rfl
  · exact Shape.missing?_needed id

/-! ## Requests -/

/-- The object asks for what the message asks for: it names the instruction and has its fields,
for a batch one object for each entry. -/
inductive BackendToMaster.AskedBy : BackendToMaster → Json → Prop
  | configure {entries : List SlaveEntry} {fields : List (String × Json)} {params : List Json}
      (distinct : (fields.map Prod.fst).Nodup)
      (inst : fields.lookup "inst" = some (.string "DEV_CONF"))
      (listed : fields.lookup "params" = some (.array params))
      (given : List.Forall₂ SlaveEntry.Given entries params) :
      AskedBy (.configure entries) (.object fields)
  | reset {entries : List ResetEntry} {fields : List (String × Json)} {params : List Json}
      (distinct : (fields.map Prod.fst).Nodup)
      (inst : fields.lookup "inst" = some (.string "DEV_RESET"))
      (listed : fields.lookup "params" = some (.array params))
      (given : List.Forall₂ ResetEntry.Given entries params) :
      AskedBy (.reset entries) (.object fields)
  | selectMode {code : UInt8} {fields : List (String × Json)}
      (distinct : (fields.map Prod.fst).Nodup)
      (inst : fields.lookup "inst" = some (.string "DEV_MODE"))
      (mode : fields.lookup "mode" = some (.byte code)) :
      AskedBy (.selectMode code) (.object fields)
  | control {code : UInt8} {fields : List (String × Json)}
      (distinct : (fields.map Prod.fst).Nodup)
      (inst : fields.lookup "inst" = some (.string "DEV_CTRL"))
      (ctrl : fields.lookup "ctrl" = some (.byte code)) :
      AskedBy (.control code) (.object fields)

/-! ## A request for every message -/

def ClipSetup.asking (c : ClipSetup) : Json :=
  .object [("mode", .byte c.mode), ("pin", .string (Hex.word16 c.pins))]

theorem ClipSetup.given_asking (c : ClipSetup) : c.Given c.asking :=
  .object (by simp) rfl rfl (.text (spellsWord_word16 c.pins))

def SlaveEntry.asking (e : SlaveEntry) : Json :=
  .object <| [("id", .string e.id.text), ("cond", .byte e.conduction),
      ("Z", .byte e.resistance)] ++
    if e.clipStatus = 0 then [] else [("clip", ClipSetup.asking ⟨e.clipMode, e.clipStatus⟩)]

theorem SlaveEntry.given_asking (e : SlaveEntry) : e.Given e.asking := by
  unfold asking
  split
  case isTrue hbare =>
    exact .object (by simp) rfl rfl rfl (fun _ => rfl) fun hclip => absurd hbare hclip
  case isFalse hclip =>
    exact .object (by simp) rfl rfl rfl (fun hbare => absurd hbare hclip)
      fun _ => ⟨_, rfl, ClipSetup.given_asking _⟩

def ResetEntry.asking (e : ResetEntry) : Json :=
  .object [("id", .string e.id.text), ("lock", .byte e.lock),
    ("clip", .string (Hex.word16 e.clipStatus))]

theorem ResetEntry.given_asking (e : ResetEntry) : e.Given e.asking :=
  .object (by simp) rfl rfl rfl (.text (spellsWord_word16 e.clipStatus))

/-- A structured request with the fields of a message; the pins are spelled in four digits. -/
def BackendToMaster.asking : BackendToMaster → Json
  | configure entries => .object [("inst", .string "DEV_CONF"),
      ("params", .array (entries.map SlaveEntry.asking))]
  | selectMode code => .object [("inst", .string "DEV_MODE"), ("mode", .byte code)]
  | reset entries => .object [("inst", .string "DEV_RESET"),
      ("params", .array (entries.map ResetEntry.asking))]
  | control code => .object [("inst", .string "DEV_CTRL"), ("ctrl", .byte code)]
  | listDevices _ => .object [("inst", .string "DEV_QUERY")]

theorem BackendToMaster.asked_asking {request : BackendToMaster}
    (h : ∀ reserve, request ≠ .listDevices reserve) : request.AskedBy request.asking := by
  cases request with
  | configure entries =>
    have given : List.Forall₂ SlaveEntry.Given entries (entries.map SlaveEntry.asking) :=
      List.forall₂_map_right_iff.mpr (List.forall₂_same.mpr fun e _ => e.given_asking)
    exact .configure (by simp) rfl rfl given
  | reset entries =>
    have given : List.Forall₂ ResetEntry.Given entries (entries.map ResetEntry.asking) :=
      List.forall₂_map_right_iff.mpr (List.forall₂_same.mpr fun e _ => e.given_asking)
    exact .reset (by simp) rfl rfl given
  | selectMode code => exact .selectMode (by simp) rfl rfl
  | control code => exact .control (by simp) rfl rfl
  | listDevices reserve => exact absurd rfl (h reserve)

/-! ## Reading requests -/

theorem read_soleField {α : Type} {variant name : String} {read : Json → Except Fault α}
    {blank a : α} {fields : List (String × Json)} {v : Json}
    (distinct : (fields.map Prod.fst).Nodup) (hv : fields.lookup name = some v)
    (hread : read v = .ok a) :
    (soleField variant name read blank).read (.object fields) = .ok a := by
  have hindependent : Shape.Independent (soleField variant name read blank).fields :=
    List.pairwise_singleton ..
  refine Shape.read_object hindependent distinct ?_ ?_
  · exact Shape.setEach_needed hv hread blank
  · exact Shape.missing?_needed hv

namespace Backend

/-- The command of an object is the one of the request that its instruction reads. -/
theorem commandOf_object {i : Instruction} {fields : List (String × Json)}
    (hi : fields.lookup "inst" = some (.string i.name)) {request : BackendRequest}
    (hread : BackendRequest.read i (.object fields) = .ok request) :
    commandOf (.object fields) = request.command := by
  have hname : BackendRequest.instructionOf (.string i.name) = .ok i := by
    rw [BackendRequest.instructionOf, Instruction.ofName?_name]
  have hrequest : BackendRequest.ofJson (.object fields) = .ok request := by
    simp only [BackendRequest.ofJson, BackendRequest.tag, hi, hname, bind, Except.bind, hread]
  rw [commandOf, hrequest]

/-- A structured request stands for the command of the message whose fields it has. -/
theorem commandOf_of_asked {request : BackendToMaster} {v : Json} (h : request.AskedBy v) :
    (commandOf v).toOption = commandFor? request := by
  cases h with
  | @configure entries fields params distinct inst listed given =>
    have hlist : listOf DeviceSetup.shape.read (.array params) = .ok (entries.map setupOf) :=
      listOf_array (given.imp fun _ _ => SlaveEntry.read_of_given)
    have hread : BackendRequest.read .configure (.object fields) =
        .ok (.configure (entries.map setupOf)) := by
      rw [BackendRequest.read, read_soleField distinct listed hlist]
      rfl
    rw [commandOf_object inst hread]
    rfl
  | @reset entries fields params distinct inst listed given =>
    have hlist : listOf DeviceReset.shape.read (.array params) = .ok (entries.map resetOf) :=
      listOf_array (given.imp fun _ _ => ResetEntry.read_of_given)
    have hread : BackendRequest.read .reset (.object fields) =
        .ok (.reset (entries.map resetOf)) := by
      rw [BackendRequest.read, read_soleField distinct listed hlist]
      rfl
    rw [commandOf_object inst hread]
    rfl
  | @selectMode code fields distinct inst mode =>
    have hread : BackendRequest.read .selectMode (.object fields) = .ok (.selectMode code) := by
      rw [BackendRequest.read, read_soleField distinct mode (byteOf_byte code)]
      rfl
    rw [commandOf_object inst hread, BackendRequest.command, commandFor?]
    cases TestMode.ofCode? code <;> rfl
  | @control code fields distinct inst ctrl =>
    have hread : BackendRequest.read .control (.object fields) = .ok (.control code) := by
      rw [BackendRequest.read, read_soleField distinct ctrl (byteOf_byte code)]
      rfl
    rw [commandOf_object inst hread, BackendRequest.command, commandFor?]
    cases RunState.ofCode? code <;> rfl

end Backend

end HarnessLink
