import HarnessLink.Backend.Interface
import HarnessLink.Proofs.Json.Schemas
import HarnessLink.Proofs.Packet.Spelling

/-!
# What structured requests ask for

A structured request asks for a command when it names the instruction and everything that the
command needs is there in the right form: numbers in range, ids and pins that are spelled, a mode
and a state that there are. There is a command for no other request, so one that is wrong
anywhere is wrong as a whole, and a request without ambiguous objects has the command that it
asks for.
-/
namespace HarnessLink

open Json Text

/-! ## Ids and pins -/

namespace Json

/-- A string that spells the id. -/
inductive IsDeviceId : Json → DeviceId → Prop
  | text {s : String} {id : DeviceId} (spelled : id.SpelledBy s) : IsDeviceId (.string s) id

theorem deviceIdOf_meaning : Meaning deviceIdOf IsDeviceId where
  sound v id h := by
    obtain ⟨s, hs, hid⟩ := ok_of_bind h
    obtain rfl := textOf_meaning.sound v s hs
    split at hid
    · next hread =>
      cases hid
      exact .text (DeviceId.ofText_eq_ok_iff.mp hread)
    · cases hid
  complete v id _ h := by
    cases h with
    | @text s id spelled =>
      have htext : textOf (.string s) = .ok s := rfl
      simp only [deviceIdOf, htext, bind, Except.bind, DeviceId.ofText_eq_ok_iff.mpr spelled,
        pure, Except.pure]

/-- The text is the word in hexadecimal digits. Blanks may surround it, and marks may stand before
the digits, those with a small letter first. -/
inductive IsPinText (pins : UInt16) (s : String) : Prop
  | marked {small capital : Nat} {cs : List Char}
      (text : trim s.toList = (List.replicate small ['0', 'x']).flatten ++
        ((List.replicate capital ['0', 'X']).flatten ++ cs))
      (spelled : Hex.Spells cs pins.toNat)

/-- A set of pins: a word, or a text that spells it. -/
inductive IsPins : Json → UInt16 → Prop
  | number {v : Json} {pins : UInt16} (word : IsWord v pins) : IsPins v pins
  | text {s : String} {pins : UInt16} (spelled : IsPinText pins s) : IsPins (.string s) pins

/-- What is dropped is marks. -/
theorem dropMark_eq (a b : Char) (cs : List Char) :
    ∃ count, cs = (List.replicate count [a, b]).flatten ++ dropMark a b cs := by
  fun_induction dropMark a b cs with
  | case1 c d rest hmark ih =>
    obtain ⟨rfl, rfl⟩ := hmark
    obtain ⟨count, hrest⟩ := ih
    refine ⟨count + 1, ?_⟩
    rw [List.replicate_succ, List.flatten_cons, List.append_assoc, ← hrest]
    rfl
  | case2 => exact ⟨0, rfl⟩
  | case3 => exact ⟨0, rfl⟩

/-- Marks are dropped as often as they come. -/
theorem dropMark_marks {a b : Char} {cs : List Char} (h : ¬ [a, b] <+: cs) (count : Nat) :
    dropMark a b ((List.replicate count [a, b]).flatten ++ cs) = cs := by
  induction count with
  | zero =>
    rw [List.replicate_zero, List.flatten_nil, List.nil_append]
    fun_cases dropMark a b cs with
    | case1 c d rest hmark =>
      obtain ⟨rfl, rfl⟩ := hmark
      exact absurd ⟨rest, rfl⟩ h
    | case2 => rfl
    | case3 => rfl
  | succ count ih =>
    rw [List.replicate_succ, List.flatten_cons, List.append_assoc, List.cons_append,
      List.cons_append, List.nil_append, dropMark, if_pos ⟨rfl, rfl⟩]
    exact ih

/-- A number does not begin with a mark. -/
theorem not_mark_of_spells {cs : List Char} {n : Nat} (h : Hex.Spells cs n) {b : Char}
    (hb : Hex.digit? b = none) : ¬ ['0', b] <+: cs := by
  rintro ⟨rest, rfl⟩
  cases h with
  | digits denoted _ =>
    obtain _ | ⟨_, _ | ⟨hdigit, _⟩⟩ := denoted
    rw [hdigit.digit?] at hb
    cases hb

/-- A text is read as the word that it is. -/
theorem hexWord?_eq_some_iff {s : String} {pins : UInt16} :
    hexWord? s = some pins ↔ IsPinText pins s := by
  constructor
  · intro h
    unfold hexWord? at h
    split at h
    · next n hn =>
      split at h
      · next hle =>
        cases h
        obtain ⟨small, hsmall⟩ := dropMark_eq '0' 'x' (trim s.toList)
        obtain ⟨capital, hcapital⟩ := dropMark_eq '0' 'X' (dropMark '0' 'x' (trim s.toList))
        rw [hcapital] at hsmall
        refine .marked hsmall ?_
        have hsame : (UInt16.ofNat n).toNat = n := by
          rw [UInt16.toNat_ofNat']
          omega
        rw [hsame]
        exact Hex.number?_eq_some_iff.mp hn
      · cases h
    · cases h
  · rintro @⟨small, capital, cs, text, spelled⟩
    have hcapital : ¬ ['0', 'x'] <+: (List.replicate capital ['0', 'X']).flatten ++ cs := by
      cases capital with
      | zero => exact not_mark_of_spells spelled (by decide)
      | succ capital =>
        rintro ⟨rest, hrest⟩
        rw [List.replicate_succ, List.flatten_cons] at hrest
        simp at hrest
    have hword : pins.toNat ≤ 65535 := Nat.le_of_lt_succ pins.toNat_lt
    unfold hexWord?
    rw [text, dropMark_marks hcapital, dropMark_marks (not_mark_of_spells spelled (by decide)),
      Hex.number?_eq_some_iff.mpr spelled]
    simp only [hword, if_true, UInt16.ofNat_toNat]

theorem pinsOf_meaning : Meaning pinsOf IsPins where
  sound v pins h := by
    unfold pinsOf at h
    split at h
    · split at h
      · next hword =>
        cases h
        exact .text (hexWord?_eq_some_iff.mp hword)
      · cases h
    · refine .number (wordOf_meaning.sound _ _ ?_)
      cases hword : wordOf v with
      | ok w =>
        rw [hword] at h
        cases h
        rfl
      | error e =>
        rw [hword] at h
        cases h
  complete v pins _ h := by
    cases h with
    | @number v pins word =>
      obtain rfl := word
      have hpins : pinsOf (.word pins) = (wordOf (.word pins)).mapError _ := rfl
      rw [hpins, wordOf_word]
      rfl
    | text spelled => simp only [pinsOf, hexWord?_eq_some_iff.mpr spelled]

/-! ## Parameters -/

/-- A clip test. Mode and pins may be absent. -/
structure IsClipSetup (v : Json) (c : ClipSetup) : Prop where
  record : IsRecord 2 v
  mode : May "mode" 0 IsByte 0 v c.mode
  pin : May "pin" 1 IsPins 0 v c.pins

/-- A device to configure, which has to name it. -/
structure IsDeviceSetup (v : Json) (d : DeviceSetup) : Prop where
  record : IsRecord 4 v
  id : Needs "id" 0 IsDeviceId v d.id
  cond : May "cond" 1 IsWord 0 v d.conduction
  Z : May "Z" 2 IsWord 0 v d.resistance
  clip : May "clip" 3 (IsOption IsClipSetup) none v d.clip?

/-- A device to reset, which has to name it. -/
structure IsDeviceReset (v : Json) (d : DeviceReset) : Prop where
  record : IsRecord 3 v
  id : Needs "id" 0 IsDeviceId v d.id
  lock : May "lock" 1 IsByte 0 v d.lock
  clip : May "clip" 2 IsPins 0 v d.clipLed

end Json

theorem ClipSetup.components :
    Shape.Component shape.fields 0 "mode" false byteOf mode ∧
      Shape.Component shape.fields 1 "pin" false pinsOf pins := by
  and_intros
  all_goals
    refine .of_put rfl rfl rfl rfl (fun _ _ => rfl) ?_
    and_intros <;> first | decide | exact Field.keeps_of_put rfl fun _ _ => rfl

theorem DeviceSetup.components :
    Shape.Component shape.fields 0 "id" true deviceIdOf id ∧
      Shape.Component shape.fields 1 "cond" false wordOf conduction ∧
      Shape.Component shape.fields 2 "Z" false wordOf resistance ∧
      Shape.Component shape.fields 3 "clip" false (optionOf ClipSetup.shape.read) clip? := by
  and_intros
  all_goals
    refine .of_put rfl rfl rfl rfl (fun _ _ => rfl) ?_
    and_intros <;> first | decide | exact Field.keeps_of_put rfl fun _ _ => rfl

theorem DeviceReset.components :
    Shape.Component shape.fields 0 "id" true deviceIdOf id ∧
      Shape.Component shape.fields 1 "lock" false byteOf lock ∧
      Shape.Component shape.fields 2 "clip" false pinsOf clipLed := by
  and_intros
  all_goals
    refine .of_put rfl rfl rfl rfl (fun _ _ => rfl) ?_
    and_intros <;> first | decide | exact Field.keeps_of_put rfl fun _ _ => rfl

theorem queryShape_components :
    Shape.Component queryShape.fields 0 "params" false (listOf textOf) Prod.fst ∧
      Shape.Component queryShape.fields 1 "id" false (listOf textOf) Prod.snd := by
  and_intros
  all_goals
    refine .of_put rfl rfl rfl rfl (fun _ _ => rfl) ?_
    and_intros <;> first | decide | exact Field.keeps_of_put rfl fun _ _ => rfl

theorem soleField_component {α : Type} (variant name : String) (read : Json → Except Fault α)
    (blank : α) :
    Shape.Component (soleField variant name read blank).fields 0 name true read id :=
  .of_put rfl rfl rfl rfl (fun _ _ => rfl) trivial

namespace Json

theorem clipSetup_meaning : Meaning ClipSetup.shape.read IsClipSetup := by
  obtain ⟨mode, pin⟩ := ClipSetup.components
  constructor
  · intro v c h
    constructor
    · exact Shape.isRecord_of_read h
    · exact mode.may byteOf_meaning h
    · exact pin.may pinsOf_meaning h
  · intro v c hv h
    obtain ⟨hmode, hgetmode⟩ := mode.of_may byteOf_meaning hv h.mode
    obtain ⟨hpin, hgetpin⟩ := pin.of_may pinsOf_meaning hv h.pin
    refine Shape.read_of_suits h.record (fun
      | 0 => hmode
      | 1 => hpin
      | _ + 2 => by rintro f ⟨⟩) fun r hr => ?_
    cases r
    cases c
    simp only [ClipSetup.mk.injEq]
    exact ⟨hgetmode _ hr, hgetpin _ hr⟩

theorem deviceSetup_meaning : Meaning DeviceSetup.shape.read IsDeviceSetup := by
  obtain ⟨id, cond, Z, clip⟩ := DeviceSetup.components
  have hclip : Meaning (optionOf ClipSetup.shape.read) (IsOption IsClipSetup) :=
    clipSetup_meaning.option fun c h => by cases h.record
  constructor
  · intro v d h
    constructor
    · exact Shape.isRecord_of_read h
    · exact id.needs deviceIdOf_meaning h
    · exact cond.may wordOf_meaning h
    · exact Z.may wordOf_meaning h
    · exact clip.may hclip h
  · intro v d hv h
    obtain ⟨hid, hgetid⟩ := id.of_needs deviceIdOf_meaning hv h.id
    obtain ⟨hcond, hgetcond⟩ := cond.of_may wordOf_meaning hv h.cond
    obtain ⟨hZ, hgetZ⟩ := Z.of_may wordOf_meaning hv h.Z
    obtain ⟨hclip, hgetclip⟩ := clip.of_may hclip hv h.clip
    refine Shape.read_of_suits h.record (fun
      | 0 => hid
      | 1 => hcond
      | 2 => hZ
      | 3 => hclip
      | _ + 4 => by rintro f ⟨⟩) fun r hr => ?_
    cases r
    cases d
    simp only [DeviceSetup.mk.injEq]
    exact ⟨hgetid _ hr, hgetcond _ hr, hgetZ _ hr, hgetclip _ hr⟩

theorem deviceReset_meaning : Meaning DeviceReset.shape.read IsDeviceReset := by
  obtain ⟨id, lock, clip⟩ := DeviceReset.components
  constructor
  · intro v d h
    constructor
    · exact Shape.isRecord_of_read h
    · exact id.needs deviceIdOf_meaning h
    · exact lock.may byteOf_meaning h
    · exact clip.may pinsOf_meaning h
  · intro v d hv h
    obtain ⟨hid, hgetid⟩ := id.of_needs deviceIdOf_meaning hv h.id
    obtain ⟨hlock, hgetlock⟩ := lock.of_may byteOf_meaning hv h.lock
    obtain ⟨hclip, hgetclip⟩ := clip.of_may pinsOf_meaning hv h.clip
    refine Shape.read_of_suits h.record (fun
      | 0 => hid
      | 1 => hlock
      | 2 => hclip
      | _ + 3 => by rintro f ⟨⟩) fun r hr => ?_
    cases r
    cases d
    simp only [DeviceReset.mk.injEq]
    exact ⟨hgetid _ hr, hgetlock _ hr, hgetclip _ hr⟩

theorem soleField_meaning {α : Type} {read : Json → Except Fault α} {means : Json → α → Prop}
    (h : Meaning read means) (variant name : String) (blank : α) :
    Meaning (soleField variant name read blank).read
      fun v a => IsRecord 1 v ∧ Needs name 0 means v a := by
  have hfield := soleField_component variant name read blank
  constructor
  · exact fun v a hread => ⟨Shape.isRecord_of_read hread, hfield.needs h hread⟩
  · rintro v a hv ⟨hrecord, hneeds⟩
    obtain ⟨hsuits, hget⟩ := hfield.of_needs h hv hneeds
    exact Shape.read_of_suits hrecord (fun
      | 0 => hsuits
      | _ + 1 => by rintro f ⟨⟩) hget

theorem queryShape_meaning : Meaning queryShape.read fun v lists => IsRecord 2 v ∧
    May "params" 0 (IsList IsText) [] v lists.1 ∧ May "id" 1 (IsList IsText) [] v lists.2 := by
  obtain ⟨params, ids⟩ := queryShape_components
  constructor
  · exact fun v lists hread => ⟨Shape.isRecord_of_read hread, params.may textOf_meaning.list hread,
      ids.may textOf_meaning.list hread⟩
  · rintro v lists hv ⟨hrecord, hlisted, hmore⟩
    obtain ⟨hparams, hgetparams⟩ := params.of_may textOf_meaning.list hv hlisted
    obtain ⟨hids, hgetids⟩ := ids.of_may textOf_meaning.list hv hmore
    refine Shape.read_of_suits hrecord (fun
      | 0 => hparams
      | 1 => hids
      | _ + 2 => by rintro f ⟨⟩) fun r hr => ?_
    exact Prod.ext (hgetparams r hr) (hgetids r hr)

end Json

/-! ## Requests -/

/-- The value names the instruction, and these are its parameters: an object has the name in a
field among them, an array in front of them. -/
inductive Instruction.NamedIn (i : Instruction) : Json → Json → Prop
  | object {fields : List (String × Json)}
      (named : fields.lookup "inst" = some (.string i.name)) :
      NamedIn i (.object fields) (.object fields)
  | array (items : List Json) : NamedIn i (.array (.string i.name :: items)) (.array items)

/-- What the texts of a query stand for: all devices when there is none or an asterisk among them,
and otherwise the devices whose ids they spell. -/
inductive QueryTarget.SpelledBy (texts : List String) : QueryTarget → Prop
  | all (h : texts = [] ∨ "*" ∈ texts) : SpelledBy texts .all
  | devices {ids : List DeviceId} (some : texts ≠ []) (named : "*" ∉ texts)
      (spelled : List.Forall₂ (fun s id => DeviceId.SpelledBy id s) texts ids) :
      SpelledBy texts (.devices ids)

/-- The value asks for the command. -/
inductive Backend.Asks (v : Json) : DeviceCommand → Prop
  | configure {params : Json} {devices : List DeviceSetup}
      (named : Instruction.configure.NamedIn v params) (record : IsRecord 1 params)
      (listed : Needs "params" 0 (IsList IsDeviceSetup) params devices) :
      Asks v (.configure devices)
  | selectMode {params : Json} {mode : TestMode}
      (named : Instruction.selectMode.NamedIn v params) (record : IsRecord 1 params)
      (coded : Needs "mode" 0 IsByte params mode.code) : Asks v (.selectMode mode)
  | control {params : Json} {state : RunState}
      (named : Instruction.control.NamedIn v params) (record : IsRecord 1 params)
      (coded : Needs "ctrl" 0 IsByte params state.code) : Asks v (.control state)
  | reset {params : Json} {devices : List DeviceReset}
      (named : Instruction.reset.NamedIn v params) (record : IsRecord 1 params)
      (listed : Needs "params" 0 (IsList IsDeviceReset) params devices) : Asks v (.reset devices)
  | query {params : Json} {texts ids : List String} {target : QueryTarget}
      (named : Instruction.query.NamedIn v params) (record : IsRecord 2 params)
      (listed : May "params" 0 (IsList IsText) [] params texts)
      (more : May "id" 1 (IsList IsText) [] params ids)
      (spelled : target.SpelledBy (texts ++ ids)) : Asks v (.query target)

theorem Instruction.ofName?_eq_some_iff {s : String} {i : Instruction} :
    ofName? s = some i ↔ s = i.name := by
  constructor
  · intro h
    unfold ofName? at h
    have hfound := List.find?_some h
    exact (of_decide_eq_true hfound).symm
  · rintro rfl
    exact ofName?_name i

theorem TestMode.ofCode?_eq_some_iff {code : UInt8} {mode : TestMode} :
    ofCode? code = some mode ↔ code = mode.code := by
  constructor
  · intro h
    unfold ofCode? at h
    have hfound := List.find?_some h
    exact (of_decide_eq_true hfound).symm
  · rintro rfl
    exact ofCode?_code mode

theorem RunState.ofCode?_eq_some_iff {code : UInt8} {state : RunState} :
    ofCode? code = some state ↔ code = state.code := by
  constructor
  · intro h
    unfold ofCode? at h
    have hfound := List.find?_some h
    exact (of_decide_eq_true hfound).symm
  · rintro rfl
    exact ofCode?_code state

namespace BackendRequest

theorem instructionOf_eq_ok_iff {v : Json} {i : Instruction} :
    instructionOf v = .ok i ↔ v = .string i.name := by
  constructor
  · intro h
    unfold instructionOf at h
    split at h
    · split at h
      · next hi =>
        cases h
        rw [Instruction.ofName?_eq_some_iff.mp hi]
      · cases h
    · cases h
  · rintro rfl
    rw [instructionOf, Instruction.ofName?_name]

/-- A request is read from the parameters of the instruction that it names. -/
theorem ofJson_eq_ok_iff {v : Json} {request : BackendRequest} :
    ofJson v = .ok request ↔
      ∃ (i : Instruction) (params : Json), i.NamedIn v params ∧ read i params = .ok request := by
  constructor
  · intro h
    unfold ofJson at h
    split at h
    · next fields =>
      split at h
      · next hlookup =>
        obtain ⟨i, hi, hread⟩ := ok_of_bind h
        rw [instructionOf_eq_ok_iff.mp hi] at hlookup
        exact ⟨i, _, .object hlookup, hread⟩
      · cases h
    · next name items =>
      obtain ⟨i, hi, hread⟩ := ok_of_bind h
      rw [instructionOf_eq_ok_iff.mp hi]
      exact ⟨i, _, .array items, hread⟩
    · cases h
    · cases h
  · rintro ⟨i, params, named, hread⟩
    have hname : instructionOf (.string i.name) = .ok i := instructionOf_eq_ok_iff.mpr rfl
    cases named with
    | object named => simp only [ofJson, tag, named, hname, bind, Except.bind, hread]
    | array items => simp only [ofJson, hname, bind, Except.bind, hread]

/-- The texts of a query are taken for what they stand for. -/
theorem command_query_iff {texts : List String} {command : DeviceCommand} :
    (query texts).command = .ok command ↔
      ∃ target, command = .query target ∧ target.SpelledBy texts := by
  have hread : ∀ {ids}, texts.mapM DeviceId.ofText = .ok ids ↔
      List.Forall₂ (fun s id => DeviceId.SpelledBy id s) texts ids := by
    intro ids
    simp only [← DeviceId.ofText_eq_ok_iff]
    exact ⟨forall₂_of_mapM, mapM_of_forall₂⟩
  unfold BackendRequest.command
  dsimp only
  by_cases hall : texts = [] ∨ "*" ∈ texts
  · rw [if_pos (by simpa using hall)]
    constructor
    · rintro ⟨⟩
      exact ⟨.all, rfl, .all hall⟩
    · rintro ⟨target, rfl, spelled⟩
      cases spelled with
      | all _ => rfl
      | devices some named _ => exact (hall.elim some named).elim
  · rw [if_neg (by simpa using hall)]
    obtain ⟨hsome, hnamed⟩ := not_or.mp hall
    constructor
    · intro h
      split at h
      · next ids hids =>
        cases h
        exact ⟨.devices ids, rfl, .devices hsome hnamed (hread.mp hids)⟩
      · cases h
    · rintro ⟨target, rfl, spelled⟩
      cases spelled with
      | all h => exact absurd h hall
      | devices _ _ spelled => rw [hread.mpr spelled]

end BackendRequest

/-! ## The commands of requests -/

namespace Backend

open BackendRequest

theorem commandOf_eq_ok_iff {v : Json} {command : DeviceCommand} :
    commandOf v = .ok command ↔
      ∃ request, ofJson v = .ok request ∧ request.command = .ok command := by
  unfold commandOf
  cases ofJson v <;> simp

/-- A value is taken for a command only if it asks for it. -/
theorem asks_of_commandOf {v : Json} {command : DeviceCommand} (h : commandOf v = .ok command) :
    Asks v command := by
  obtain ⟨request, hrequest, h⟩ := commandOf_eq_ok_iff.mp h
  obtain ⟨i, params, named, hread⟩ := ofJson_eq_ok_iff.mp hrequest
  cases i with
  | configure =>
    obtain ⟨devices, hdevices, rfl⟩ := ok_of_map hread
    cases h
    obtain ⟨record, listed⟩ := (soleField_meaning deviceSetup_meaning.list ..).sound _ _ hdevices
    exact .configure named record listed
  | reset =>
    obtain ⟨devices, hdevices, rfl⟩ := ok_of_map hread
    cases h
    obtain ⟨record, listed⟩ := (soleField_meaning deviceReset_meaning.list ..).sound _ _ hdevices
    exact .reset named record listed
  | selectMode =>
    obtain ⟨code, hcode, rfl⟩ := ok_of_map hread
    obtain ⟨record, coded⟩ := (soleField_meaning byteOf_meaning ..).sound _ _ hcode
    unfold BackendRequest.command at h
    dsimp only at h
    split at h
    · next mode hmode =>
      cases h
      rw [TestMode.ofCode?_eq_some_iff.mp hmode] at coded
      exact .selectMode named record coded
    · cases h
  | control =>
    obtain ⟨code, hcode, rfl⟩ := ok_of_map hread
    obtain ⟨record, coded⟩ := (soleField_meaning byteOf_meaning ..).sound _ _ hcode
    unfold BackendRequest.command at h
    dsimp only at h
    split at h
    · next state hstate =>
      cases h
      rw [RunState.ofCode?_eq_some_iff.mp hstate] at coded
      exact .control named record coded
    · cases h
  | query =>
    obtain ⟨⟨texts, ids⟩, hlists, rfl⟩ := ok_of_map hread
    obtain ⟨record, listed, more⟩ := queryShape_meaning.sound _ _ hlists
    obtain ⟨target, rfl, spelled⟩ := command_query_iff.mp h
    exact .query named record listed more spelled

/-- The parameters of a value without ambiguous objects are one as well. -/
theorem distinct_of_namedIn {i : Instruction} {v params : Json} (hv : v.Distinct)
    (h : i.NamedIn v params) : params.Distinct := by
  cases h with
  | object _ => exact hv
  | array items =>
    cases hv with
    | array hitems => exact .array fun w hw => hitems w (List.mem_cons_of_mem _ hw)

/-- A value without ambiguous objects is taken for the command that it asks for. -/
theorem commandOf_of_asks {v : Json} (hv : v.Distinct) {command : DeviceCommand}
    (h : Asks v command) : commandOf v = .ok command := by
  -- it is enough that the parameters are read as a request that has this command
  have htaken : ∀ {i params request}, i.NamedIn v params →
      BackendRequest.read i params = .ok request → request.command = .ok command →
      commandOf v = .ok command := fun named hread hcommand =>
    commandOf_eq_ok_iff.mpr ⟨_, ofJson_eq_ok_iff.mpr ⟨_, _, named, hread⟩, hcommand⟩
  cases h with
  | configure named record listed =>
    have hread := (soleField_meaning deviceSetup_meaning.list "Configure" "params" []).complete
      _ _ (distinct_of_namedIn hv named) ⟨record, listed⟩
    exact htaken named (congrArg (Except.map configure) hread) rfl
  | reset named record listed =>
    have hread := (soleField_meaning deviceReset_meaning.list "Reset" "params" []).complete
      _ _ (distinct_of_namedIn hv named) ⟨record, listed⟩
    exact htaken named (congrArg (Except.map reset) hread) rfl
  | selectMode named record coded =>
    have hread := (soleField_meaning byteOf_meaning "Mode" "mode" 0).complete
      _ _ (distinct_of_namedIn hv named) ⟨record, coded⟩
    refine htaken named (congrArg (Except.map selectMode) hread) ?_
    simp only [BackendRequest.command, TestMode.ofCode?_code]
  | control named record coded =>
    have hread := (soleField_meaning byteOf_meaning "Control" "ctrl" 0).complete
      _ _ (distinct_of_namedIn hv named) ⟨record, coded⟩
    refine htaken named (congrArg (Except.map control) hread) ?_
    simp only [BackendRequest.command, RunState.ofCode?_code]
  | @query _ texts ids _ named record listed more spelled =>
    have hread := queryShape_meaning.complete _ (texts, ids) (distinct_of_namedIn hv named)
      ⟨record, listed, more⟩
    refine htaken named ?_ (command_query_iff.mpr ⟨_, rfl, spelled⟩)
    rw [BackendRequest.read, hread, Except.map]

end Backend

end HarnessLink
